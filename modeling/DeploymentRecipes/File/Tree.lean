import DeploymentRecipes.File.Path

/-!
# File trees

A file tree is a finite set of directories and files, each under its list of names from the root.
A path is followed name by name: every name but the last must be that of a directory, `..` leads
back to the directory above, and a name has at most 255 bytes.
-/

namespace DeploymentRecipes

/-- The contents of a file and the time of its last change. -/
structure File where
  bytes : List UInt8
  modified : Nat

/-- Names from the root. -/
abbrev Names := List String

structure FileTree where
  files : List (Names × File)
  directories : List Names

namespace FileTree

def empty : FileTree := ⟨[], []⟩

/-- The file under the given names. -/
def file? (tree : FileTree) (names : Names) : Option File :=
  (tree.files.find? (·.1 == names)).map (·.2)

/-- Whether the names lead to a directory. The root is one. -/
def isDirectory (tree : FileTree) (names : Names) : Bool :=
  names.isEmpty || tree.directories.contains names

/-- Whether the names lead to a file. -/
def isFile (tree : FileTree) (names : Names) : Bool := (tree.file? names).isSome

/-- The tree with a directory and all directories above it. -/
def addDirectory (tree : FileTree) (names : Names) : FileTree :=
  let above := (List.range names.length).map fun n => names.take (n + 1)
  { tree with directories :=
      above.foldl (fun acc d => if acc.contains d then acc else acc ++ [d]) tree.directories }

/-- The tree with a file in place of any file under the same names. -/
def write (tree : FileTree) (names : Names) (file : File) : FileTree :=
  let tree := tree.addDirectory names.dropLast
  if tree.isFile names then
    { tree with files := tree.files.map fun p => if p.1 == names then (names, file) else p }
  else { tree with files := tree.files ++ [(names, file)] }

/-- The tree without the file under the given names. -/
def delete (tree : FileTree) (names : Names) : FileTree :=
  { tree with files := tree.files.filter (·.1 != names) }

/-- The names of the entries of a directory, each with whether it is a directory. -/
def entries (tree : FileTree) (names : Names) : List (String × Bool) :=
  let below (ns : Names) : Option String :=
    if ns.length = names.length + 1 && names.isPrefixOf ns then ns.getLast? else none
  if tree.isDirectory names then
    (tree.files.filterMap fun p => (below p.1).map fun n => (n, false)) ++
      (tree.directories.filterMap fun d => (below d).map fun n => (n, true))
  else []

/-! ### Following paths -/

/-- One step from a place; there is none from anything but a directory. -/
def step? (tree : FileTree) (here : Names) (name : String) : Option Names :=
  if !tree.isDirectory here || name.utf8ByteSize > 255 then none
  else if name == "" || name == "." then some here
  else if name == ".." then some here.dropLast
  else some (here ++ [name])

/-- The place that a path leads to from a working directory. -/
def follow? (tree : FileTree) (cwd : Names) (path : String) : Option Names :=
  if path == "" || path.toList.contains '\x00' then none
  else
    let start := if Text.startsWith path "/" then [] else cwd
    (Text.split '/' path).foldlM tree.step? start

/-- Whether a path leads to a directory. -/
def isDirectoryAt (tree : FileTree) (cwd : Names) (path : String) : Bool :=
  match tree.follow? cwd path with
  | some names => tree.isDirectory names
  | none => false

/-- Whether a path leads to a file. -/
def isFileAt (tree : FileTree) (cwd : Names) (path : String) : Bool :=
  match tree.follow? cwd path with
  | some names => tree.isFile names
  | none => false

/-- Whether a path leads to anything. -/
def existsAt (tree : FileTree) (cwd : Names) (path : String) : Bool :=
  match tree.follow? cwd path with
  | some names => tree.isDirectory names || tree.isFile names
  | none => false

/-- The file that a path leads to. -/
def fileAt? (tree : FileTree) (cwd : Names) (path : String) : Option File :=
  (tree.follow? cwd path).bind tree.file?

end FileTree

end DeploymentRecipes
