import DeploymentRecipes.Text.Classes
import DeploymentRecipes.Text.Substring

/-!
# Command line arguments

The words of a command line are first sorted into options and others, then the options take their
values from left to right.  A long option may be shortened as long as it stays the only one with
that beginning, and its value may follow an equals sign.
-/

namespace DeploymentRecipes.Command

/-- How a report is written. -/
inductive OutputFormat where
  | text
  | json
  deriving DecidableEq

def OutputFormat.named : List (String × OutputFormat) := [("text", .text), ("json", .json)]

/-- What makes a run fail. -/
inductive FailOn where
  | none
  | warning
  | error
  deriving DecidableEq

def FailOn.named : List (String × FailOn) := [
  ("none", .none), ("warning", .warning), ("error", .error)]

/-- The arguments of a run. -/
structure Arguments where
  paths : Option (List String)
  recursive : Bool
  strict : Bool
  format : OutputFormat
  failOn : FailOn
  logLevel : Option String
  deriving DecidableEq

/-- The arguments of an empty command line. -/
def Arguments.default : Arguments := ⟨none, false, false, .text, .none, none⟩

/-- Why a command line is not run. -/
inductive Stop where
  | helpRequested
  | usage
  deriving DecidableEq

/-! ### Options -/

/-- The options without a value. -/
inductive Flag where
  | help
  | recursive
  | strict
  deriving DecidableEq

/-- The options with a value. -/
inductive Parameter where
  | path
  | format
  | failOn
  | logLevel
  deriving DecidableEq

/-- An option. -/
inductive Switch where
  | flag (f : Flag)
  | parameter (p : Parameter)
  deriving DecidableEq

/-- The options by their long names. -/
def Switch.named : List (String × Switch) := [
  ("--help", .flag .help), ("--path", .parameter .path), ("--recursive", .flag .recursive),
  ("--strict", .flag .strict), ("--format", .parameter .format), ("--fail-on", .parameter .failOn),
  ("--log-level", .parameter .logLevel)]

/-- The only option with a short name. -/
def helpLetter : Char := 'h'

/-! ### Sorting words -/

/-- A word of a command line. -/
inductive Word where
  | switch (s : Switch) (value : Option String)
  | unknown
  | ambiguous
  | plain (text : String)
  | separator

/-- The part before the first equals sign and the part after it, if there is one. -/
def splitValue (s : String) : String × Option String :=
  match s.toList.dropWhile (· != '=') with
  | [] => (s, none)
  | _ :: value => (String.ofList (s.toList.takeWhile (· != '=')), some (String.ofList value))

/-- Whether a word after its hyphen is a number: digits, perhaps with a point before the last of
them. -/
def isNumber (cs : List Char) : Bool :=
  match cs.dropWhile Text.isDigit with
  | [] => !cs.isEmpty
  | c :: fraction => c = '.' && !fraction.isEmpty && fraction.all Text.isDigit

/-- A word with a hyphen in front that is no option. -/
def otherWord (s : String) : Word :=
  if isNumber s.toList.tail || s.toList.contains ' ' then .plain s else .unknown

/-- A word with two hyphens in front. -/
def longWord (s : String) : Word :=
  let (name, value) := splitValue s
  match Switch.named.find? (·.1 == name) with
  | some (_, switch) => .switch switch value
  | none =>
    match Switch.named.filter (Text.startsWith ·.1 name) with
    | [] => otherWord s
    | [(_, switch)] => .switch switch value
    | _ => .ambiguous

/-- Whether the characters behind the short name of the help option leave it without a value. The
short name may be repeated, and other letters are passed over. -/
def isBareHelp : List Char → Bool
  | [] => true
  | c :: cs => if c = helpLetter then isBareHelp cs else !(c = '=' || c = '-')

/-- The word for the short name of the help option with the given characters behind it. -/
def helpWord (cs : List Char) : Word :=
  .switch (.flag .help) (if isBareHelp cs then none else some (String.ofList cs))

/-- A word sorted by its beginning. -/
def sortWord (s : String) : Word :=
  match s.toList with
  | '-' :: '-' :: _ => longWord s
  | '-' :: c :: cs => if c = helpLetter then helpWord cs else otherWord s
  | _ => .plain s

/-- The words of a command line, sorted. Nothing is an option after two hyphens alone. -/
def sortWords : List String → List Word
  | [] => []
  | s :: ss => if s == "--" then .separator :: ss.map .plain else sortWord s :: sortWords ss

/-! ### Taking words -/

/-- The arguments after a flag. -/
def takeFlag (a : Arguments) : Flag → Except Stop Arguments
  | .help => .error .helpRequested
  | .recursive => .ok { a with recursive := true }
  | .strict => .ok { a with strict := true }

/-- The choice with the given name. -/
def choose {α : Type} (named : List (String × α)) (name : String) : Except Stop α :=
  match named.find? (·.1 == name) with
  | some (_, choice) => .ok choice
  | none => .error .usage

/-- The arguments after a parameter with its value. -/
def takeParameter (a : Arguments) (value : String) : Parameter → Except Stop Arguments
  | .path => .ok { a with paths := some (a.paths.getD [] ++ [value]) }
  | .format => (choose OutputFormat.named value).map fun f => { a with format := f }
  | .failOn => (choose FailOn.named value).map fun f => { a with failOn := f }
  | .logLevel => .ok { a with logLevel := some value }

/-- The arguments after some words, and whether there was a word too many. -/
def takeWords : List Word → Arguments × Bool → Except Stop (Arguments × Bool)
  | [], taken => .ok taken
  | .switch (.flag f) none :: ws, (a, extra) => do takeWords ws (← takeFlag a f, extra)
  | .switch (.parameter p) (some value) :: ws, (a, extra) => do
    takeWords ws (← takeParameter a value p, extra)
  | .switch (.parameter p) none :: .plain value :: ws, (a, extra) => do
    takeWords ws (← takeParameter a value p, extra)
  | .switch _ _ :: _, _ => .error .usage
  | _ :: ws, (a, _) => takeWords ws (a, true)

/-- The arguments of a command line. -/
def Arguments.ofWords (words : List String) : Except Stop Arguments :=
  let sorted := sortWords words
  if sorted.any (· matches .ambiguous) then .error .usage
  else match takeWords sorted (.default, false) with
    | .ok (a, false) => .ok a
    | .ok (_, true) => .error .usage
    | .error stop => .error stop

end DeploymentRecipes.Command
