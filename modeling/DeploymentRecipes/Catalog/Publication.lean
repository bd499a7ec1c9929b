import DeploymentRecipes.Catalog.Document
import DeploymentRecipes.Dependency.OfSettings

/-!
# Publication

Which of the recipes that were found are published.  An id that two files define excludes both, a
repeated setting or a cycle among the settings excludes the recipe, and any issue does so too if
the publication is strict.
-/

namespace DeploymentRecipes

/-- A recipe with the path of its file. -/
structure Found where
  file : String
  recipe : Recipe

namespace Found

/-! ### Repeated ids -/

/-- The files with a recipe of the given id. -/
def filesWith (found : List Found) (id : String) : List String :=
  (found.filter (·.recipe.id == id)).map (·.file)

/-- Whether more than one file has a recipe of the given id. -/
def isRepeated (found : List Found) (id : String) : Bool := 1 < (filesWith found id).length

/-- The ids of the recipes, each once, in order of their first files. -/
def ids (found : List Found) : List String :=
  found.foldl (fun acc f => if acc.contains f.recipe.id then acc else acc ++ [f.recipe.id]) []

/-- A diagnostic for each repeated id, at its first file. -/
def repeatedIds (found : List Found) : List Diagnostic :=
  ((ids found).filter (isRepeated found)).filterMap fun id =>
    let files := filesWith found id
    files.head?.map fun file => ⟨file, .repeatedId id files⟩

/-! ### Reviews -/

/-- What a review has found: what excludes a recipe, and what does so only if the publication is
strict. -/
structure Review where
  flaws : List DiagnosticCause
  issues : List Recipe.Issue

/-- What excludes a recipe in any case. -/
def flaws (recipe : Recipe) : List DiagnosticCause :=
  (Setting.repeatedPaths recipe.settings).map .repeatedSetting ++
    (Setting.dependencyGraph recipe.settings).cycles.map .cycle

/-- The review of a recipe. -/
def review (registries : Registries) (recipe : Recipe) : Logged (Except LoadError Review) :=
  let issues := recipe.issues registries
  ⟨(issues.value.mapError .build).map fun found => ⟨flaws recipe, found⟩, issues.events⟩

/-- Whether a recipe with the given review is published. -/
def Review.passes (strict : Bool) (r : Review) : Bool :=
  r.flaws.isEmpty && !(strict && !r.issues.isEmpty)

/-- The diagnostics of a review. -/
def Review.diagnostics (file : String) (r : Review) : List Diagnostic :=
  (r.flaws ++ r.issues.map DiagnosticCause.issue).map (⟨file, ·⟩)

/-- The recipes that are published and the diagnostics of all others. -/
structure Outcome where
  recipes : List Recipe
  diagnostics : List Diagnostic

/-- The outcome for recipes whose ids are not repeated. -/
def publishEach (registries : Registries) (strict : Bool) :
    List Found → Logged (Except LoadError Outcome)
  | [] => ⟨.ok ⟨[], []⟩, []⟩
  | f :: fs =>
    let reviewed := review registries f.recipe
    match reviewed.value with
    | .error e => ⟨.error e, reviewed.events⟩
    | .ok r =>
      let rest := publishEach registries strict fs
      let passes := r.passes strict
      ⟨rest.value.map fun o => ⟨if passes then f.recipe :: o.recipes else o.recipes,
          r.diagnostics f.file ++ o.diagnostics⟩,
        reviewed.events ++ (if passes then [] else [.excluded f.recipe.id f.file]) ++ rest.events⟩

/-- The outcome for the recipes that were found. -/
def publish (registries : Registries) (strict : Bool) (found : List Found) :
    Logged (Except LoadError Outcome) :=
  let single := found.filter fun f => !isRepeated found f.recipe.id
  let each := publishEach registries strict single
  ⟨each.value.map fun o => ⟨o.recipes, repeatedIds found ++ o.diagnostics⟩, each.events⟩

end Found
end DeploymentRecipes
