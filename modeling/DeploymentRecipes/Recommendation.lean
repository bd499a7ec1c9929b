import DeploymentRecipes.Recipe.Basic
import DeploymentRecipes.Setting.Override
import DeploymentRecipes.Validator.RecipeCheck

/-!
# Recommendations

A recommendation pairs a recipe with a project.  It owns the settings of the recipe and of the
deployment bundle, on which values are set and cleared, and the replacement tokens.
-/

namespace DeploymentRecipes

structure Recommendation where
  recipe : Recipe
  bundle : List Setting
  tokens : TokenTable
  projectPath : String
  priority : Int
  isExisting : Bool

namespace Recommendation

/-! ### Making a recommendation -/

/-- The table with the tokens of all defaults of the given settings entered. -/
def collectTokens (settings : List Setting) (table : TokenTable) : TokenTable :=
  (Setting.walkAll settings).foldl (fun acc s => Token.collect s.declaration.defaultValue acc) table

/-- A recipe paired with a project. The tokens of all defaults start without a substitution, and
the given substitutions are entered after them. -/
def ofRecipe (recipe : Recipe) (bundle : List Setting) (projectPath : String) (priority : Int)
    (substitutions : List (String × Value)) : Recommendation where
  recipe := recipe
  bundle := bundle
  tokens := (collectTokens (recipe.settings ++ bundle) []).insertAll substitutions
  projectPath := projectPath
  priority := priority
  isExisting := false

/-- The displayed form. -/
def shown (r : Recommendation) : String :=
  s!"Recommendation(recipe={Text.quoted r.recipe.id}, priority={r.priority})"

/-! ### Settings -/

/-- The settings of the recipe and then those of the bundle. -/
def items (r : Recommendation) : List Setting := r.recipe.settings ++ r.bundle

/-- The recommendation with other items in the places of its own. -/
def withItems (r : Recommendation) (settings : List Setting) : Recommendation :=
  let count := r.recipe.settings.length
  { r with
    recipe := { r.recipe with settings := settings.take count }
    bundle := settings.drop count }

/-- What values and visibility are computed from. -/
def scene (r : Recommendation) : Setting.Scene := ⟨r.items, r.tokens⟩

/-- The setting at a path, and where it stands. -/
def locate (r : Recommendation) (path : Option String) :
    Except Setting.ResolveError (Setting.Spot × Setting) :=
  match Setting.locate r.items path with
  | some p => .ok p
  | none => .error (.notFound path)

/-- The setting at a path. -/
def setting (r : Recommendation) (path : Option String) : Except Setting.ResolveError Setting :=
  (r.locate path).map (·.2)

def value (r : Recommendation) (s : Setting) : Except Setting.ResolveError Value := r.scene.value s

def defaultValue (r : Recommendation) (s : Setting) : Except Setting.ResolveError Value :=
  Setting.resolvedDefault r.tokens s

def isVisible (r : Recommendation) (s : Setting) : Except Setting.ResolveError Bool :=
  r.scene.isVisible s

/-! ### Changes -/

/-- The recommendation with the setting at a place changed. -/
def updateAt (r : Recommendation) (spot : Setting.Spot) (change : Setting → Setting) :
    Recommendation :=
  r.withItems (Setting.updateAt r.items change spot)

/-- Sets the value of the setting at a place, with the events and what kept it from being set. A
setting that is refused may have set some of its children by then. -/
def set (judge : Setting.Judge) (r : Recommendation) (spot : Setting.Spot) (s : Setting)
    (value : Value) : Setting.SetOutcome Recommendation :=
  let outcome := Setting.setValue judge value s
  ⟨r.updateAt spot fun _ => outcome.settings, outcome.events, outcome.failure⟩

/-- The recommendation without overrides at and below a place. -/
def clear (r : Recommendation) (spot : Setting.Spot) : Recommendation :=
  r.updateAt spot Setting.clear

/-- The recommendation with a substitution for a token. -/
def addToken (r : Recommendation) (token : String) (substitution : Value) : Recommendation :=
  { r with tokens := r.tokens.insert token substitution }

/-- The number of settings that a mapping has a value for. -/
def mentioned (previous : List (Value × Value)) (settings : List Setting) : Nat :=
  (settings.filter fun s => (Value.field? previous s.id).isSome).length

/-- The recommendation with the values of an earlier deployment, which are not judged again. Only
the recipe's settings at the top level are matched by id. -/
def applyPrevious (r : Recommendation) (previous : List (Value × Value)) :
    Logged (Except Setting.SetError Recommendation) :=
  let outcome := Setting.setChildren Setting.unjudged previous r.recipe.settings
  match outcome.failure with
  | some e => ⟨.error e, outcome.events⟩
  | none =>
    let applied := mentioned previous r.recipe.settings
    ⟨.ok { r with recipe := { r.recipe with settings := outcome.settings }, isExisting := true },
      outcome.events ++ [.previousApplied r.recipe.id applied previous.length]⟩

/-! ### Validation -/

/-- Why the recipe's validators give no verdict. -/
inductive ValidationError where
  | build (e : BuildError)
  | check (e : RecipeCheckError)

/-- The wording of an error, given the name of the recipe. -/
def ValidationError.message (recipe : String) : ValidationError → String
  | .build e => e.message
  | .check e => e.message recipe

/-- The messages of the validators that fail, in order. -/
def failuresOf (scene : Setting.Scene) :
    List Validator → Except RecipeCheckError (List String)
  | [] => .ok []
  | v :: vs => do
    let verdict ← v.checkScene scene
    let rest ← failuresOf scene vs
    match verdict with
    | .valid => return rest
    | .failed message => return message :: rest

/-- The messages of the recipe's validators that fail. -/
def validate (registry : Registry RecipeCheck) (r : Recommendation) :
    Logged (Except ValidationError (List String)) :=
  let built := registry.buildAll r.recipe.validators
  ⟨match built.value with
    | .error e => .error (.build e)
    | .ok vs => (failuresOf r.scene vs).mapError .check, built.events⟩

end Recommendation
end DeploymentRecipes
