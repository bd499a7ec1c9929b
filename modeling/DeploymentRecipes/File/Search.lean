import DeploymentRecipes.File.Pattern
import DeploymentRecipes.File.Place

/-!
# Searching a file tree

A path whose parts are name patterns leads to every path that has a name for each part.  The parts
before the first pattern are taken as they are.  Names with a dot in front are found only by a part
that has one too, and two stars stand for any number of directories if the search is recursive.
-/

namespace DeploymentRecipes.Place

/-- Whether a name has a dot in front. -/
def isHidden (name : String) : Bool := name.toList.head? == some '.'

/-- The part that stands for any number of directories. -/
def anyDepth : String := "**"

/-- The names, relative to a place in the tree, of all directories below it without hidden names. -/
def directoriesBelow (tree : FileTree) (here : Names) : List String :=
  tree.directories.filterMap fun d =>
    let below := d.drop here.length
    if here.isPrefixOf d && !below.isEmpty && below.all (!isHidden ·) then
      some (Text.join "/" below)
    else none

/-- The entries of a place in the tree that a name pattern accepts, directories only unless it is
the last part. -/
def entriesLike (tree : FileTree) (last : Bool) (pattern : String) (here : Names) : List String :=
  let accepted := (tree.entries here).filter fun e =>
    (last || e.2) && (isHidden pattern || !isHidden e.1) &&
      (NamePattern.ofText pattern).accepts e.1.toList
  accepted.map (·.1)

/-- The names that one part of a pattern stands for in the directory at a path. -/
def namesFor (place : Place) (recursive last : Bool) (part path : String) : List String :=
  match place.tree.follow? place.cwd path with
  | none => []
  | some here =>
    if !NamePattern.isWild part then
      if place.tree.existsAt place.cwd (Path.join path part) then [part] else []
    else if recursive && part == anyDepth then
      (if place.tree.isDirectory here then [""] else []) ++ directoriesBelow place.tree here
    else entriesLike place.tree last part here

/-- The paths that the remaining parts of a pattern stand for, from some paths on. -/
def expand (place : Place) (recursive : Bool) : List String → List String → List String
  | [], paths => paths
  | part :: parts, paths =>
    expand place recursive parts <| paths.flatMap fun path =>
      (place.namesFor recursive parts.isEmpty part path).map (Path.join path)

/-- The part of an absolute path before its first name pattern, and the parts from there on. -/
def splitPatterns (root : String) : String × List String :=
  let parts := Path.parts root
  let plain := parts.takeWhile (!NamePattern.isWild ·)
  (String.ofList (List.replicate (Path.leadingSlashes root) '/') ++ Text.join "/" plain,
    parts.drop plain.length)

/-- The paths that name patterns below a directory stand for. The directory is an absolute path
whose own parts are patterns too; the first of those given is a pattern. -/
def search (place : Place) (recursive : Bool) (root : String) (patterns : List String) :
    List String :=
  let (start, own) := splitPatterns root
  place.expand recursive (own ++ patterns) [start]

end DeploymentRecipes.Place
