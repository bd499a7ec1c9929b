import DeploymentRecipes.Config.EnvFile
import DeploymentRecipes.File.Place
import DeploymentRecipes.Text.LetterCase
import DeploymentRecipes.Text.Quoted
import DeploymentRecipes.Text.Utf8
import DeploymentRecipes.Value.Conversion

/-!
# Configuration

The configuration is read from variables: those of the process, then those that environment files
assign, then the defaults.  A variable that the process has counts even when it is empty.  The
files are read when the first variable is missing, and are kept, as is a configuration once it is
complete, until the store is emptied.  What stands in one environment file is up to a reader.
-/

namespace DeploymentRecipes

structure Config where
  recipePaths : List String
  logLevel : String
  recursive : Bool
  sizeLimit : Int
  strict : Bool

/-- What a configuration is read from: the files, the variables of the process, and the directory
of the installation. -/
structure Surroundings where
  place : Place
  environment : Environment
  installation : String

/-- Why there is no configuration. -/
inductive ConfigError where
  | sizeLimit (text : String)
  | noHome
  | nullCharacter
  | undecodable (fault : Text.Utf8Fault)

namespace Config

/-! ### Names and defaults -/

def envFileVariable : String := "DEPLOYCORE_ENV_FILE"
def recipePathsVariable : String := "DEPLOYCORE_RECIPES_PATH"
def logLevelVariable : String := "DEPLOYCORE_LOG_LEVEL"
def recursiveVariable : String := "RECIPES_RECURSIVE"
def sizeLimitVariable : String := "RECIPES_MAX_FILE_SIZE_BYTES"
def strictVariable : String := "VALIDATION_STRICT"

/-- The greatest size of a recipe file in bytes, unless another is set. -/
def defaultSizeLimit : Int := 262144

def defaultLogLevel : String := "INFO"

/-- The text of a flag that is not set. -/
def defaultFlag : String := "0"

/-- The directory of the recipes that come with the installation. -/
def shippedRecipes (installation : String) : String := Path.join installation "recipes"

end Config

def ConfigError.message : ConfigError → String
  | .sizeLimit text =>
    s!"{Config.sizeLimitVariable} must be an integer, got {Text.quoted text}"
  | .noHome => "Could not determine home directory."
  | .nullCharacter => "embedded null byte"
  | .undecodable fault => fault.message

/-- How an environment file is read: what stands in a file of the given bytes, in the environment of
the process. -/
abbrev EnvReader := Environment → List UInt8 → Except ConfigError EnvFile.Contents

/-- The reader of environment files in UTF-8. -/
def EnvReader.utf8 : EnvReader := fun environment bytes =>
  match Text.decodeUtf8 bytes with
  | .ok text => .ok (EnvFile.contents environment (Text.unifyLineEnds text.toList))
  | .error fault => .error (.undecodable fault)

namespace Surroundings

/-! ### Environment files -/

/-- The entries of a list of paths that are not empty. -/
def listed (paths : String) : List String := (Text.split ':' paths).filter (· != "")

/-- A path with a home directory for a tilde in front. There has to be one; a name with a null
character cannot be looked up. -/
def fromHome (s : Surroundings) (path : String) : Except ConfigError String :=
  let expanded := s.place.expandHome (Path.tidy path)
  if Text.startsWith expanded "~" then
    let name := expanded.toList.takeWhile (· != '/')
    .error (if name.contains '\x00' then .nullCharacter else .noHome)
  else .ok expanded

/-- The environment file that an entry stands for: a directory stands for the one inside it. -/
def envFileOf (s : Surroundings) (entry : String) : Except ConfigError String :=
  (s.fromHome entry).map fun path =>
    if s.place.isDirectory path then Path.join path ".env" else path

/-- The environment files to be read, in order. They need not exist. -/
def envFiles (s : Surroundings) : Except ConfigError (List String) :=
  match s.environment.get? Config.envFileVariable with
  | none | some "" =>
    .ok [Path.join s.installation ".env", Path.join s.installation ".env.local"]
  | some paths => (listed paths).mapM s.envFileOf

variable (read : EnvReader)

/-- The variables that a file assigns; a file that does not exist assigns none. -/
def assignedBy (s : Surroundings) (path : String) : Except ConfigError Environment :=
  match s.place.file? path with
  | none => .ok []
  | some file => (read s.environment file.bytes).map (·.environment)

/-- What a file assigns, in front of what is known. -/
def merge (s : Surroundings) (known : Environment) (path : String) : Except ConfigError Environment :=
  (s.assignedBy read path).map (· ++ known)

/-- The variables that the environment files assign; a later file goes before an earlier one. -/
def assignedByFiles (s : Surroundings) : Except ConfigError Environment := do
  let files ← s.envFiles
  files.foldlM (s.merge read) []

end Surroundings

/-! ### Raw values -/

/-- A reading of variables, with what the environment files assign once they have been read. -/
abbrev Lookup := ExceptT ConfigError (StateM (Option Environment))

namespace Surroundings

variable (read : EnvReader)

/-- What the environment files assign. -/
def fileValues (s : Surroundings) : Lookup Environment := do
  match ← get with
  | some known => return known
  | none =>
    let found ← s.assignedByFiles read
    set (some found)
    return found

/-- The text of a variable: that of the process, or that of the environment files, or the default. -/
def resolve (s : Surroundings) (name : String) (default? : Option String) :
    Lookup (Option String) := do
  match s.environment.get? name with
  | some text => return some text
  | none => return ((← s.fileValues read).get? name).or default?

end Surroundings

/-! ### Reading a configuration -/

namespace Config

/-- A text, or another where it is missing or empty. -/
def orElse (raw : Option String) (other : String) : String := (raw.filter (· != "")).getD other

/-- The size limit that a text sets. -/
def readSizeLimit (raw : Option String) : Except ConfigError Int :=
  match raw.filter (· != "") with
  | none => .ok defaultSizeLimit
  | some text =>
    match Numeral.readInt text with
    | .ok n => .ok n
    | .error _ => .error (.sizeLimit text)

def readLogLevel (raw : Option String) : String := Text.upper (orElse raw defaultLogLevel)

/-- Whether a flag is set. -/
def readFlag (raw : Option String) : Bool := Text.strip (orElse raw defaultFlag) == "1"

end Config

namespace Surroundings

/-- The directory that an entry stands for. The files cannot be asked for a null character. -/
def recipePathOf (s : Surroundings) (entry : String) : Except ConfigError String := do
  let path ← s.fromHome entry
  if path.toList.contains '\x00' then .error .nullCharacter
  else return Path.resolve s.place.cwdPath path

/-- The recipe paths that a text lists. -/
def readRecipePaths (s : Surroundings) (raw : Option String) : Except ConfigError (List String) :=
  match raw.filter (· != "") with
  | none => .ok [Config.shippedRecipes s.installation]
  | some paths => (listed paths).mapM s.recipePathOf

/-- The configuration, its parts read in order from the texts of the variables. -/
def readConfig {m : Type → Type} [Monad m] [MonadLiftT (Except ConfigError) m] (s : Surroundings)
    (resolve : String → Option String → m (Option String)) : m Config := do
  let recipePaths ← s.readRecipePaths (← resolve Config.recipePathsVariable none)
  let sizeLimit ← Config.readSizeLimit
    (← resolve Config.sizeLimitVariable (some (toString Config.defaultSizeLimit)))
  let logLevel ← resolve Config.logLevelVariable (some Config.defaultLogLevel)
  let recursive ← resolve Config.recursiveVariable (some Config.defaultFlag)
  let strict ← resolve Config.strictVariable (some Config.defaultFlag)
  return ⟨recipePaths, Config.readLogLevel logLevel, Config.readFlag recursive, sizeLimit,
    Config.readFlag strict⟩

end Surroundings

/-! ### The store -/

/-- What has been read and is not read again. -/
structure ConfigStore where
  fileValues : Option Environment
  config : Option Config

namespace ConfigStore

/-- The store in which nothing has been read. -/
def empty : ConfigStore := ⟨none, none⟩

/-- The configuration, and the store afterwards. What the environment files assign is kept even if
the configuration is not complete. -/
def getWith (read : EnvReader) (store : ConfigStore) (s : Surroundings) :
    Except ConfigError Config × ConfigStore :=
  match store.config with
  | some config => (.ok config, store)
  | none =>
    let (result, fileValues) := (s.readConfig (s.resolve read)).run.run store.fileValues
    (result, ⟨fileValues, result.toOption⟩)

/-- The configuration with environment files in UTF-8, and the store afterwards. -/
def get (store : ConfigStore) (s : Surroundings) : Except ConfigError Config × ConfigStore :=
  store.getWith EnvReader.utf8 s

end ConfigStore
end DeploymentRecipes
