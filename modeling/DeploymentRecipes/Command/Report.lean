import DeploymentRecipes.Catalog.Basic
import DeploymentRecipes.Command.Arguments
import DeploymentRecipes.Json.Printer
import DeploymentRecipes.LogLevel

/-!
# Validation reports

A run of the command loads a catalog and reports its recipes and diagnostics, in lines of text or
as a JSON document.  The exit code tells whether a diagnostic is as grave as the arguments say.
-/

namespace DeploymentRecipes.Command

/-- Why a run has no report. -/
inductive RunError where
  | config (e : ConfigError)
  | logLevel (e : LogLevel.NotALevel)
  | load (e : LoadError)

def RunError.message : RunError → String
  | .config e => e.message
  | .logLevel e => e.message
  | .load e => e.message

/-! ### Writing a report -/

/-- The line of the text report about a diagnostic. -/
def diagnosticLine (d : Diagnostic) : String :=
  let line := match d.line? with
    | some n => if n = 0 then "" else s!":{n}"
    | none => ""
  s!"[{d.gravity.name}] {d.kind.name} {d.file}{line}: {d.message}"

/-- The lines of the text report. -/
def textLines (c : Catalog) : List String :=
  let paths := Text.join ":" c.options.paths
  let count := c.recipes.length
  s!"Loaded {count} recipe(s) from {paths}" ::
    (if c.diagnostics.isEmpty then ["No diagnostics found."] else c.diagnostics.map diagnosticLine)

/-- The entry of the JSON report about a diagnostic. -/
def diagnosticEntry (d : Diagnostic) : Value :=
  .ofFields [("file_path", .str d.file), ("error", .str d.message),
    ("line_number", (d.line?.map fun n => Value.int n).getD .null),
    ("error_type", .str d.kind.name), ("severity", .str d.gravity.name)]

/-- The JSON report. -/
def document (c : Catalog) : Value :=
  .ofFields [("recipes", .list (c.recipes.map fun r => .str r.id)),
    ("count", .int c.diagnostics.length), ("items", .list (c.diagnostics.map diagnosticEntry))]

/-- The report in a format, with a line end after each line. -/
def report (c : Catalog) : OutputFormat → String
  | .text => String.join ((textLines c).map (· ++ "\n"))
  | .json => Json.print true 0 (document c) ++ "\n"

/-! ### Running -/

/-- The exit code for some diagnostics. -/
def exitCode (failOn : FailOn) (diagnostics : List Diagnostic) : Nat :=
  match failOn with
  | .none => 0
  | .warning => if diagnostics.isEmpty then 0 else 1
  | .error => if diagnostics.any (·.gravity == .error) then 2 else 0

/-- The catalog that the arguments ask for. -/
def Arguments.request (a : Arguments) : CatalogRequest where
  paths := a.paths
  recursive := if a.recursive then some true else none
  strict := if a.strict then some true else none
  sizeLimit := none

/-- The level of the log: that of the arguments, unless it is empty or missing. -/
def Arguments.level (a : Arguments) (config : Config) : String :=
  (a.logLevel.filter (· != "")).getD config.logLevel

/-- A finished run: its arguments, the least rank of what it logs, the catalog, and what happened
while it was loaded. -/
structure Run where
  arguments : Arguments
  leastRank : Nat
  catalog : Catalog
  events : List Event

/-- What a run prints. -/
def Run.output (r : Run) : String := report r.catalog r.arguments.format

def Run.exitCode (r : Run) : Nat := Command.exitCode r.arguments.failOn r.catalog.diagnostics

/-- A line of the log as a JSON object. -/
def logLine (r : LogRecord) : String :=
  let fields := [("levelname", r.severity.name), ("name", r.source), ("message", r.text)].map
    fun p => Json.textLiteral true p.1 ++ ": " ++ Json.textLiteral true p.2
  r"{" ++ Text.join ", " fields ++ r"}"

/-- The lines that a run logs. -/
def Run.logLines (r : Run) : List String :=
  ((r.events.filterMap Event.record?).filter fun e => r.leastRank ≤ e.severity.rank).map logLine

/-- Loads the catalog that the arguments ask for. -/
def run (s : Surroundings) (a : Arguments) : Except RunError Run := do
  let config ← (ConfigStore.empty.get s).1.mapError .config
  let leastRank ← (LogLevel.threshold (a.level config)).mapError .logLevel
  let catalog := Catalog.ofOptions (a.request.options s.place.cwdPath config)
  let loaded := catalog.refresh .delivered s.place true
  return ⟨a, leastRank, ← loaded.value.mapError .load, loaded.events⟩

end DeploymentRecipes.Command
