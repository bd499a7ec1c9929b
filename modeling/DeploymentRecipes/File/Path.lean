import DeploymentRecipes.Text.Substring

/-!
# Paths

Paths are texts with slashes between their parts.  An absolute path starts with a slash; exactly
two slashes in front are kept apart from one.  `Path.normalize` drops empty parts and dots and
lets `..` cancel the part before it; `Path.relative` leads from one absolute directory to another.
-/

namespace DeploymentRecipes.Path

/-- A path continued by another; an absolute path stands for itself. -/
def join (base path : String) : String :=
  if Text.startsWith path "/" then path
  else if base == "" || Text.endsWith base "/" then base ++ path
  else base ++ "/" ++ path

/-- The number of slashes in front that count: one, or exactly two. -/
def leadingSlashes (path : String) : Nat :=
  match path.toList with
  | '/' :: '/' :: '/' :: _ => 1
  | '/' :: '/' :: _ => 2
  | '/' :: _ => 1
  | _ => 0

/-- One more part after those in front, latest first. -/
def pushPart (absolute : Bool) (before : List String) (part : String) : List String :=
  if part == "" || part == "." then before
  else if part != ".." then part :: before
  else match before with
    | [] => if absolute then [] else [".."]
    | ".." :: _ => ".." :: before
    | _ :: rest => rest

/-- The parts of a path without empty ones and dots, and with `..` only in front. -/
def normalParts (absolute : Bool) (path : String) : List String :=
  ((Text.split '/' path).foldl (pushPart absolute) []).reverse

/-- The shortest spelling of a path, found from its text alone. -/
def normalize (path : String) : String :=
  let slashes := leadingSlashes path
  let body := Text.join "/" (normalParts (slashes > 0) path)
  let text := String.ofList (List.replicate slashes '/') ++ body
  if text == "" then "." else text

/-- The normal absolute path, from a working directory. -/
def absolute (cwd path : String) : String := normalize (join cwd path)

/-- The normal absolute path with a single slash in front. -/
def resolve (cwd path : String) : String :=
  let s := absolute cwd path
  if leadingSlashes s = 2 then String.ofList s.toList.tail else s

/-- The part of a path before its last slash. Slashes at its end are dropped unless there is
nothing else. -/
def directory (path : String) : String :=
  let head := (path.toList.reverse.dropWhile (· != '/')).reverse
  let trimmed := (head.reverse.dropWhile (· == '/')).reverse
  String.ofList (if trimmed.isEmpty then head else trimmed)

/-- The parts of a path that are not empty. -/
def parts (path : String) : List String := (Text.split '/' path).filter (· != "")

/-- The lists without their common beginning. -/
def dropCommon : List String → List String → List String × List String
  | a :: as, b :: bs => if a = b then dropCommon as bs else (a :: as, b :: bs)
  | as, bs => (as, bs)

/-- The way from an absolute directory to an absolute path. -/
def relative (path start : String) : String :=
  let (up, down) := dropCommon (parts start) (parts path)
  let steps := up.map (fun _ => "..") ++ down
  if steps.isEmpty then "." else Text.join "/" steps

/-- A path without empty parts and dots; a path of nothing else is a dot. -/
def tidy (path : String) : String :=
  let kept := (parts path).filter (· != ".")
  let text := String.ofList (List.replicate (leadingSlashes path) '/') ++ Text.join "/" kept
  if text == "" then "." else text

/-- The path with a home directory for a tilde in front, or for a tilde with a name. A name without a
home is kept. -/
def expandHome (home : String) (homeOf : String → Option String) (path : String) : String :=
  match path.toList with
  | '~' :: cs =>
    let name := cs.takeWhile (· != '/')
    match if name.isEmpty then some home else homeOf (String.ofList name) with
    | none => path
    | some home =>
      let expanded := trimSlashes home ++ String.ofList (cs.dropWhile (· != '/'))
      if expanded == "" then "/" else expanded
  | _ => path
where
  trimSlashes (s : String) : String :=
    String.ofList (s.toList.reverse.dropWhile (· == '/')).reverse

end DeploymentRecipes.Path
