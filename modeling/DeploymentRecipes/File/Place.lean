import DeploymentRecipes.File.Tree
import DeploymentRecipes.Regex.Matcher
import DeploymentRecipes.Regex.Reader
import DeploymentRecipes.Yaml.Construct

/-!
# Places

A place is where the library works: the files, the working directory, the home directories, and the
tools that the library does not bring along.  What a YAML file says and what a pattern matches is up
to these tools; `Tools.delivered` are those that the library is delivered with.
-/

namespace DeploymentRecipes

/-- How a YAML file is read, and how a written pattern is: it tells in which texts, given by their code
points, the pattern occurs. -/
structure Tools where
  yaml : List UInt8 → Except Yaml.LoadError Value
  pattern : String → Except Regex.Fault (List Nat → Bool)

/-- The reader of YAML files, and the reader of patterns in which the characters of ASCII have names. -/
def Tools.delivered : Tools where
  yaml := Yaml.load
  pattern text := (Regex.Pattern.read .ascii text).map Regex.Pattern.occursIn

/-- Where the library works: the files, the working directory, the home directory and those of other
users by their names, and the tools. -/
structure Place where
  tree : FileTree
  cwd : Names
  home : String
  homeOf : String → Option String := fun _ => none
  tools : Tools := .delivered

namespace Place

/-- A place without files. -/
def empty : Place where
  tree := .empty
  cwd := []
  home := "/"

/-- The working directory as a path. -/
def cwdPath (place : Place) : String := "/" ++ Text.join "/" place.cwd

def isDirectory (place : Place) (path : String) : Bool := place.tree.isDirectoryAt place.cwd path

def isFile (place : Place) (path : String) : Bool := place.tree.isFileAt place.cwd path

def file? (place : Place) (path : String) : Option File := place.tree.fileAt? place.cwd path

/-- The path with a home directory for a tilde in front, or for a tilde with the name of a user. -/
def expandHome (place : Place) (path : String) : String :=
  Path.expandHome place.home place.homeOf path

end Place
end DeploymentRecipes
