import DeploymentRecipes.Journal
import DeploymentRecipes.Text.LetterCase
import DeploymentRecipes.Text.Quoted
import DeploymentRecipes.Value.Basic

/-!
# Log levels

A level names the least severity that is written to a log.  Level names are taken in any letter
case, and an unknown one counts as `INFO`.
-/

namespace DeploymentRecipes

namespace Severity

/-- The rank of a severity; zero is below all of them. -/
def rank : Severity → Nat
  | .debug => 10
  | .info => 20
  | .warning => 30
  | .error => 40
  | .critical => 50

/-- The names of severities; two have a second one. -/
def named : List (String × Severity) := [
  ("DEBUG", .debug), ("INFO", .info), ("WARNING", .warning), ("WARN", .warning),
  ("ERROR", .error), ("CRITICAL", .critical), ("FATAL", .critical)]

end Severity

namespace LogLevel

/-- A name that stands for a pattern of log lines and not for a level. -/
structure NotALevel where
  deriving DecidableEq

/-- The name of the standard pattern of log lines. -/
def patternName : String := "BASIC_FORMAT"

/-- The standard pattern of log lines. -/
def pattern : String := "%(levelname)s:%(name)s:%(message)s"

def NotALevel.message (_ : NotALevel) : String := "Unknown level: " ++ Text.quoted pattern

/-- The least rank that a level lets through. -/
def threshold (level : String) : Except NotALevel Nat :=
  let name := Text.upper level
  if name == patternName then .error {}
  else if name == "NOTSET" then .ok 0
  else .ok ((Severity.named.find? (·.1 == name)).elim Severity.info.rank (·.2.rank))

end LogLevel

/-! ### Lines of a log -/

/-- A message for a log, with further fields. -/
structure LogEntry where
  source : String
  severity : Severity
  text : String
  extra : List (Value × Value)

namespace LogEntry

/-- Whether a further field is written; names with a low line in front are private. -/
def isPublic (key : Value) : Bool :=
  match key with
  | .str s => s.toList.head? != some '_'
  | _ => true

/-- The fields of a line, without those that depend on time and place. -/
def fields (e : LogEntry) : Value :=
  .map ([(.str "levelname", .str e.severity.name), (.str "name", .str e.source),
    (.str "message", .str e.text)] ++ e.extra.filter fun p => isPublic p.1)

/-- The lines that a log with the given level has for some entries. -/
def lines (level : String) (entries : List LogEntry) : Except LogLevel.NotALevel (List Value) :=
  (LogLevel.threshold level).map fun least =>
    (entries.filter fun e => least ≤ e.severity.rank).map fields

end LogEntry
end DeploymentRecipes
