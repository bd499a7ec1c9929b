import DeploymentRecipes.Recipe.Basic
import DeploymentRecipes.Setting.Path
import DeploymentRecipes.Validator.Registry

/-!
# Review of a recipe

A well-formed recipe may still name settings that it does not have, and ask for validators that
cannot be built.  Each such thing is an issue, listed setting by setting and then for the recipe
as a whole.
-/

namespace DeploymentRecipes.Recipe

/-- Something in a recipe that cannot work. -/
inductive Issue where
  | unknownTarget (setting target : String)
  | settingValidator (setting : String) (cause : BuildError)
  | recipeValidator (recipe : String) (cause : BuildError)

def Issue.message : Issue → String
  | .unknownTarget setting target =>
    s!"option setting '{setting}' depends on unknown setting '{target}'"
  | .settingValidator setting cause =>
    s!"option setting '{setting}' has an invalid validator configuration: {cause.message}"
  | .recipeValidator recipe cause =>
    s!"recipe '{recipe}' has an invalid validator configuration: {cause.message}"

/-- The issue that a failed build is. A check without a class is none of the recipe's own and ends
the review. -/
def issueOfBuild {α : Type} (issue : BuildError → Issue) :
    Except BuildError α → Except BuildError (List Issue)
  | .ok _ => .ok []
  | .error (.unmapped scope check) => .error (.unmapped scope check)
  | .error e => .ok [issue e]

/-- The rules of a setting whose target the recipe does not have. -/
def unknownTargets (settings : List Setting) (s : Setting) : List Issue :=
  (s.dependsOn.filter fun rule => (Setting.find settings (some rule.target)).isNone).map
    fun rule => .unknownTarget s.id rule.target

/-- The issues of the given settings, and the validators built on the way. -/
def settingIssues (registry : Registry SettingCheck) (all : List Setting) :
    List Setting → Logged (Except BuildError (List Issue))
  | [] => ⟨.ok [], []⟩
  | s :: ss =>
    let built := registry.buildAll s.declaration.validators
    match issueOfBuild (.settingValidator s.id) built.value with
    | .error e => ⟨.error e, built.events⟩
    | .ok own =>
      let rest := settingIssues registry all ss
      ⟨rest.value.map fun issues => unknownTargets all s ++ own ++ issues,
        built.events ++ rest.events⟩

/-- All issues of a recipe. -/
def issues (registries : Registries) (recipe : Recipe) :
    Logged (Except BuildError (List Issue)) :=
  let ofSettings :=
    settingIssues registries.settings recipe.settings (Setting.walkAll recipe.settings)
  match ofSettings.value with
  | .error e => ⟨.error e, ofSettings.events⟩
  | .ok found =>
    let built := registries.recipes.buildAll recipe.validators
    ⟨(issueOfBuild (.recipeValidator recipe.id) built.value).map (found ++ ·),
      ofSettings.events ++ built.events⟩

end DeploymentRecipes.Recipe
