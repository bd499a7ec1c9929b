import DeploymentRecipes.Catalog.Diagnostic
import DeploymentRecipes.File.Search
import DeploymentRecipes.Recipe.Reader

/-!
# Recipe files

A recipe file holds one recipe as a JSON or YAML document; the ending of its name tells which.
`recipeFiles` finds the files below some directories, and `readRecipe` reads one of them.
-/

namespace DeploymentRecipes

/-- The format of a document. -/
inductive DocumentFormat where
  | json
  | yaml
  deriving DecidableEq

namespace DocumentFormat

/-- The endings of file names, with the formats that they stand for. -/
def endings : List (String × DocumentFormat) := [
  (".recipe", .json), (".json", .json), (".yaml", .yaml), (".yml", .yaml)]

/-- The format of a file with the given path, if it may hold a recipe. -/
def ofPath? (path : String) : Option DocumentFormat :=
  (endings.find? fun e => Text.endsWith path e.1).map (·.2)

end DocumentFormat

/-- Why a catalog cannot be loaded. -/
inductive LoadError where
  | yaml (e : Yaml.Impossible)
  | longInteger (count : Nat)
  | build (e : BuildError)

def LoadError.message : LoadError → String
  | .yaml e => e.message
  | .longInteger count => ConversionError.digitsMessage (some count)
  | .build e => e.message

/-- Why a file gives no recipe: something to report, or something that ends the load. -/
inductive FileTrouble where
  | reported (cause : DiagnosticCause)
  | fatal (e : LoadError)

/-! ### Finding files -/

/-- Whether a path is that of a recipe file. -/
def Place.isRecipeFile (place : Place) (path : String) : Bool :=
  (DocumentFormat.ofPath? path).isSome && place.isFile path

/-- The recipe files below one path, which has to be that of a directory. -/
def Place.recipeFilesBelow (place : Place) (recursive : Bool) (root : String) : List String :=
  if place.isDirectory root then
    (place.search recursive root (if recursive then [anyDepth, "*"] else ["*"])).filter
      place.isRecipeFile
  else []

/-- The recipe files below the given paths in order of their own paths. A file that is found more
than once is listed as often. -/
def Place.recipeFiles (place : Place) (recursive : Bool) (roots : List String) : List String :=
  (roots.flatMap (place.recipeFilesBelow recursive)).mergeSort fun a b => decide (a ≤ b)

/-! ### Reading files -/

namespace Recipe

/-- The text of a file, with an optional byte order mark and line ends of any kind. -/
def fileText (bytes : List UInt8) : Except FileTrouble (List Char) :=
  match Text.decodeMarked bytes with
  | .ok text => .ok (Text.unifyLineEnds text.toList)
  | .error fault => .error (.reported (.undecodable fault))

/-- The document of a JSON text. -/
def jsonDocument (cs : List Char) : Except FileTrouble Value :=
  match Json.read (some Numeral.digitLimit) (String.ofList cs) with
  | .ok v => .ok v
  | .error (.defect d position) => .error (.reported (.json (d.place cs position)))
  | .error (.longInteger count) => .error (.fatal (.longInteger count))

/-- The document that a reader of YAML has found. An empty one counts as a mapping. -/
def yamlDocument (outcome : Except Yaml.LoadError Value) : Except FileTrouble Value :=
  match outcome with
  | .ok v => .ok (if v.holds then v else .map [])
  | .error (.fault fault) => .error (.reported (.yaml fault))
  | .error (.undecodable fault) => .error (.reported (.undecodable fault))
  | .error (.unprintable code position) => .error (.reported (.unprintable code position))
  | .error (.impossible e) => .error (.fatal (.yaml e))

/-- The document in a file of either format. -/
def documentOf (tools : Tools) (format : DocumentFormat) (bytes : List UInt8) :
    Except FileTrouble Value :=
  match format with
  | .json => fileText bytes >>= jsonDocument
  | .yaml => yamlDocument (tools.yaml bytes)

/-- The recipe of a document. -/
def ofDocument (v : Value) : Except FileTrouble Recipe :=
  match v with
  | .map entries => (ofValue (.map entries)).mapError (.reported ∘ .faults)
  | _ => .error (.reported .noMapping)

/-- The recipe in a file of at most the given size. -/
def ofFile (tools : Tools) (limit : Int) (path : String) (file : File) :
    Except FileTrouble Recipe := do
  let size := file.bytes.length
  if limit < size then throw (.reported (.tooLarge size limit))
  let document ← documentOf tools ((DocumentFormat.ofPath? path).getD .yaml) file.bytes
  ofDocument document

end Recipe
end DeploymentRecipes
