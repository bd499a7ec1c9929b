import DeploymentRecipes.Setting.Resolution
import DeploymentRecipes.Validator.SettingCheck
import DeploymentRecipes.Value.Conversion

/-!
# Checks of a whole configuration

A recipe's validators look at the values of several settings together: that one is not above
another, or that processor and memory sizes go together.  Settings without a value pass.
-/

namespace DeploymentRecipes

/-- Why a check of the whole cannot be made. -/
inductive RecipeCheckError where
  | resolve (e : Setting.ResolveError)
  | conversion (e : ConversionError)
  | unimplemented
  | wrongScope (className method : String)

/-- The wording of an error, given the name of the recipe. -/
def RecipeCheckError.message (recipe : String) : RecipeCheckError → String
  | .resolve e => e.message recipe
  | .conversion e => e.message
  | .unimplemented => ""
  | .wrongScope className method => s!"'{className}' object has no attribute '{method}'"

namespace Validator

/-- The value of the setting at a path. -/
def settingValue (scene : Setting.Scene) (path : String) : Except RecipeCheckError Value :=
  match Setting.find scene.settings (some path) with
  | none => .error (.resolve (.notFound (some path)))
  | some s => (scene.value s).mapError .resolve

/-! ### Least and greatest -/

/-- The number that a value stands for, if it stands for one; an integer beyond the range of the
numbers cannot be compared. -/
def comparable? (v : Value) : Except RecipeCheckError (Option Binary64) :=
  match v.toFloat with
  | .ok x => .ok (some x)
  | .error .tooLarge => .error (.conversion .tooLarge)
  | .error _ => .ok none

/-- Whether the first value is a number that is at most the second. -/
def atMost (least greatest : Value) : Except RecipeCheckError Bool := do
  match ← comparable? least with
  | none => return false
  | some x =>
    match ← comparable? greatest with
    | none => return false
    | some y => return x.le y

/-- The check that the value of one setting is at most that of another. -/
def checkMinMax (scene : Setting.Scene) (message minId maxId : String) :
    Except RecipeCheckError Verdict := do
  let least ← settingValue scene minId
  let greatest ← settingValue scene maxId
  if least.isNull || greatest.isNull then return .valid
  return verdict (← atMost least greatest)
    (fill message [("MinValueOptionSettingsId", minId), ("MaxValueOptionSettingsId", maxId)])

/-! ### Task sizes -/

/-- The multiples of a step from the first to the last, as texts. -/
def multiples (first last step : Nat) : List String :=
  (List.range ((last - first) / step + 1)).map fun i => toString (first + i * step)

/-- The processor sizes with the memory sizes in MiB that go with each. -/
def taskSizes : List (String × List String) := [
  ("256", ["512", "1024", "2048"]),
  ("512", multiples 1024 4096 1024),
  ("1024", multiples 2048 8192 1024),
  ("2048", multiples 4096 16384 1024),
  ("4096", multiples 8192 30720 1024)]

/-- A size in words: the whole part of a numeral, or the text without blanks around it. -/
def sizeText (v : Value) : Except RecipeCheckError String := do
  let text := Text.strip (← v.toText.mapError .conversion)
  match Numeral.readFloat? text with
  | none => return text
  | some x =>
    match Value.floatToInt x with
    | .ok n => return toString n
    | .error .infiniteNumber => throw (.conversion .infiniteNumber)
    | .error _ => return text

/-- The size that a value gives, if it is not null. -/
def size? (v : Value) : Except RecipeCheckError (Option String) :=
  match v with
  | .null => .ok none
  | v => (sizeText v).map some

/-- The verdict on a processor size and a memory size. -/
def judgeSizes (message cpuMessage cpu memory : String) : Verdict :=
  match taskSizes.find? (·.1 == cpu) with
  | none => .failed (fill cpuMessage
      [("cpu", cpu), ("validCpuValues", Text.join ", " (taskSizes.map (·.1)))])
  | some (_, allowed) =>
    verdict (allowed.contains memory) (fill message
      [("cpu", cpu), ("memory", memory), ("memoryList", Text.join ", " allowed)])

/-- The check that processor and memory sizes go together. -/
def checkSizes (scene : Setting.Scene) (message cpuId memoryId cpuMessage : String) :
    Except RecipeCheckError Verdict := do
  let cpu ← size? (← settingValue scene cpuId)
  let memory ← size? (← settingValue scene memoryId)
  match cpu, memory with
  | some c, some m => return judgeSizes message cpuMessage c m
  | _, _ => return .valid

/-- The outcome of a recipe's validator for a configuration. -/
def checkScene (scene : Setting.Scene) (v : Validator) : Except RecipeCheckError Verdict :=
  match v with
  | .recipeBase _ => .error .unimplemented
  | .minMax message minId maxId => checkMinMax scene message minId maxId
  | .fargateTaskSize message cpuId memoryId cpuMessage =>
    checkSizes scene message cpuId memoryId cpuMessage
  | _ => .error (.wrongScope v.kind.name "validate_recommendation")

end Validator
end DeploymentRecipes
