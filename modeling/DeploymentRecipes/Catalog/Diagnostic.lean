import DeploymentRecipes.Json.Reader
import DeploymentRecipes.Recipe.Review
import DeploymentRecipes.Yaml.Fault

/-!
# Diagnostics

A diagnostic says what is wrong with a file or with the recipe in it.  Its kind, its line and its
wording follow from its cause.
-/

namespace DeploymentRecipes

/-- The kind of a diagnostic. -/
inductive DiagnosticKind where
  | parse
  | access
  | security
  | schema
  | semantic
  | crossFile
  deriving DecidableEq

def DiagnosticKind.name : DiagnosticKind → String
  | .parse => "yaml_parse"
  | .access => "io_error"
  | .security => "security_validation"
  | .schema => "schema_validation"
  | .semantic => "semantic_validation"
  | .crossFile => "cross_file_validation"

/-- Whether a diagnostic is an error or a warning. -/
inductive Gravity where
  | warning
  | error
  deriving DecidableEq

def Gravity.name : Gravity → String
  | .warning => "warning"
  | .error => "error"

/-- Only what concerns the meaning of a recipe is a warning. -/
def DiagnosticKind.gravity : DiagnosticKind → Gravity
  | .semantic => .warning
  | _ => .error

/-- What is wrong. -/
inductive DiagnosticCause where
  | tooLarge (size : Nat) (limit : Int)
  | undecodable (fault : Text.Utf8Fault)
  | json (defect : Json.PlacedDefect)
  | yaml (fault : Yaml.Fault)
  | unprintable (code position : Nat)
  | noMapping
  | faults (found : Schema.Faults)
  | repeatedId (id : String) (files : List String)
  | repeatedSetting (path : String)
  | cycle (paths : List String)
  | issue (found : Recipe.Issue)

namespace DiagnosticCause

def kind : DiagnosticCause → DiagnosticKind
  | .tooLarge _ _ => .security
  | .undecodable _ => .access
  | .json _ | .yaml _ | .unprintable _ _ => .parse
  | .noMapping | .faults _ | .repeatedSetting _ => .schema
  | .repeatedId _ _ | .cycle _ => .crossFile
  | .issue _ => .semantic

/-- The line of the file, counted from one, if it is known. -/
def line? : DiagnosticCause → Option Nat
  | .json defect => some defect.line
  | .yaml fault => some (fault.mark.line + 1)
  | _ => none

/-- The files in brackets, each between quotes. -/
def shownFiles (files : List String) : String :=
  "[" ++ Text.join ", " (files.map Text.quoted) ++ "]"

/-- The wording, for a cause in the named file. -/
def message (file : String) : DiagnosticCause → String
  | .tooLarge size limit => s!"file too large: {size} bytes > limit {limit}"
  | .undecodable fault => fault.message
  | .json defect => defect.message
  | .yaml fault => fault.message file
  | .unprintable code position => Yaml.LoadError.message file (.unprintable code position)
  | .noMapping => "document root must be a mapping"
  | .faults found => found.message
  | .repeatedId id files => s!"duplicate id '{id}' defined in: {shownFiles files}"
  | .repeatedSetting path => s!"duplicate option setting id '{path}'"
  | .cycle paths => "option setting dependency cycle detected: " ++ Text.join " -> " paths
  | .issue found => found.message

end DiagnosticCause

structure Diagnostic where
  file : String
  cause : DiagnosticCause

namespace Diagnostic

def kind (d : Diagnostic) : DiagnosticKind := d.cause.kind
def gravity (d : Diagnostic) : Gravity := d.kind.gravity
def line? (d : Diagnostic) : Option Nat := d.cause.line?
def message (d : Diagnostic) : String := d.cause.message d.file

end Diagnostic
end DeploymentRecipes
