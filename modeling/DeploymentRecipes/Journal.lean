/-!
# The journal

What is worth recording while the library works: an `Event` for each occasion, with its severity,
its source and its wording, and the counters that the events move.  `Logged` is a result together
with the events on the way to it.
-/

namespace DeploymentRecipes

/-- The severity of an event. -/
inductive Severity where
  | debug
  | info
  | warning
  | error
  | critical
  deriving DecidableEq

def Severity.name : Severity → String
  | .debug => "DEBUG"
  | .info => "INFO"
  | .warning => "WARNING"
  | .error => "ERROR"
  | .critical => "CRITICAL"

/-- Something worth recording. `refused` moves a counter and is not put into words. -/
inductive Event where
  | built (scope check className : String)
  | refused (className : String)
  | previousApplied (recipe : String) (applied provided : Nat)
  | excluded (recipe file : String)
  | loaded (recipes errors files : Nat) (strict : Bool)
  deriving DecidableEq

/-- An event in words. -/
structure LogRecord where
  severity : Severity
  source : String
  text : String

namespace Event

/-- The name that all sources of events begin with. -/
def sourceRoot : String := "deploycore"

/-- The wording of an event. -/
def record? : Event → Option LogRecord
  | .built scope check name => some ⟨.debug, sourceRoot ++ ".recipes.validation",
      s!"validator.built scope={scope} kind={check} class={name}"⟩
  | .refused _ => none
  | .previousApplied recipe applied provided => some ⟨.info, sourceRoot ++ ".recipes.recommendation",
      s!"recommendation.previous_settings_applied recipe={recipe} applied={applied} " ++
        s!"provided={provided}"⟩
  | .excluded recipe file => some ⟨.warning, sourceRoot ++ ".recipes.catalog",
      s!"catalog.recipe_excluded recipe={recipe} file={file}"⟩
  | .loaded recipes errors files strict => some ⟨.info, sourceRoot ++ ".recipes.catalog",
      s!"catalog.loaded recipes={recipes} errors={errors} files={files} " ++
        s!"strict={strictText strict}"⟩
where
  strictText (b : Bool) : String := if b then "True" else "False"

/-- The counters that an event moves by one. -/
def counters : Event → List String
  | .built scope _ _ => ["validators_built_total:" ++ scope]
  | .refused name => ["validation_failures_total:" ++ name]
  | .loaded _ errors _ _ =>
    ["catalog_load_total:" ++ (if errors = 0 then "ok" else "with_errors"),
      "catalog_load_duration_seconds_count"]
  | _ => []

/-- The counters that were moved, with their increments, in order of their first move. -/
def tally (events : List Event) : List (String × Nat) :=
  (events.flatMap counters).foldl bump []
where
  bump (acc : List (String × Nat)) (name : String) : List (String × Nat) :=
    if acc.any (·.1 == name) then acc.map fun p => if p.1 == name then (p.1, p.2 + 1) else p
    else acc ++ [(name, 1)]

/-! ### Gauges -/

/-- The numbers of recipes and diagnostics of the last load; none before the first. -/
def lastLoad (events : List Event) : Nat × Nat :=
  events.foldl (fun last e =>
    match e with
    | .loaded recipes diagnostics _ _ => (recipes, diagnostics)
    | _ => last) (0, 0)

/-- The kind of text in which gauges are published. -/
def gaugeFormat : String := "text/plain; version=1.0.0; charset=utf-8"

/-- The gauges as published: each with its value, written with a decimal point. -/
def gauges (events : List Event) : List String :=
  let (recipes, diagnostics) := lastLoad events
  [s!"deploycore_catalog_error_count {diagnostics}.0",
    s!"deploycore_catalog_recipes_valid_count {recipes}.0"]

end Event

/-- A result with the events on the way to it. -/
structure Logged (α : Type) where
  value : α
  events : List Event

end DeploymentRecipes
