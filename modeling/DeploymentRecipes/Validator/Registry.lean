import DeploymentRecipes.Validator.Basic
import DeploymentRecipes.Journal
import DeploymentRecipes.Value.Shown

/-!
# Registries

A registry names the class that answers each check of its scope.  `Registry.build` makes the
validator for one request: the class is chosen by the name of the check alone, and the payload is
reduced to a record from which the class takes its fields.
-/

namespace DeploymentRecipes

/-- The scopes of validators. -/
inductive Scope where
  | setting
  | recipe
  deriving DecidableEq

def Scope.name : Scope → String
  | .setting => "option_setting"
  | .recipe => "recipe"

/-- The names of the checks of one scope. -/
class CheckName (κ : Type) extends BEq κ where
  scope : Scope
  named : List (String × κ)
  name : κ → String
  tableName : String

instance : CheckName SettingCheck where
  beq a b := decide (a = b)
  scope := .setting
  named := SettingCheck.named
  name := SettingCheck.name
  tableName := SettingCheck.tableName

instance : CheckName RecipeCheck where
  beq a b := decide (a = b)
  scope := .recipe
  named := RecipeCheck.named
  name := RecipeCheck.name
  tableName := RecipeCheck.tableName

/-- The name of a check together with that of its table. -/
def qualifiedName {κ : Type} [CheckName κ] (check : κ) : String :=
  CheckName.tableName κ ++ "." ++ CheckName.name check

/-- A text that names no check of a scope. -/
structure UnknownCheck where
  shown : String
  tableName : String

def UnknownCheck.message (e : UnknownCheck) : String := s!"{e.shown} is not a valid {e.tableName}"

/-- The check that a value names. -/
def CheckName.read {κ : Type} [CheckName κ] (v : Value) : Except UnknownCheck κ :=
  match (CheckName.named (κ := κ)).find? (fun p => v.isText p.1) with
  | some (_, check) => .ok check
  | none => .error ⟨(v.shown?).getD "", CheckName.tableName κ⟩

/-- The classes that answer the checks of a scope, in the order of registration. -/
abbrev Registry (κ : Type) := List (κ × ValidatorClass)

/-- The registry of setting checks as it is delivered. -/
def Registry.settingChecks : Registry SettingCheck := [
  (.range, .range), (.regex, .regex), (.required, .required), (.stringLength, .stringLength),
  (.directoryExists, .directoryExists), (.dockerBuildArgs, .dockerBuildArgs),
  (.dotnetPublishArgs, .dotnetPublishArgs)]

/-- The registry of recipe checks as it is delivered. -/
def Registry.recipeChecks : Registry RecipeCheck := [
  (.fargateTaskSize, .fargateTaskSize), (.minMax, .minMax)]

/-- Both registries. -/
structure Registries where
  settings : Registry SettingCheck
  recipes : Registry RecipeCheck

def Registries.delivered : Registries := ⟨.settingChecks, .recipeChecks⟩

/-- Why a validator cannot be built. -/
inductive BuildError where
  | unmapped (scope : Scope) (check : String)
  | payload (typeName : String)
  | fields (faults : Schema.Faults)

def BuildError.message : BuildError → String
  | .unmapped scope check => s!"No {scope.name} validator is registered for kind '{check}'"
  | .payload name => s!"Unsupported validator configuration payload: {name}"
  | .fields faults => faults.message

/-- The class of a check is registered already. -/
structure AlreadyRegistered where
  check : String

def AlreadyRegistered.message (e : AlreadyRegistered) : String :=
  s!"Validator kind '{e.check}' is already registered"

namespace Registry

variable {κ : Type} [CheckName κ]

/-- The class that answers a check. -/
def class? (registry : Registry κ) (check : κ) : Option ValidatorClass :=
  (registry.find? (·.1 == check)).map (·.2)

/-- The registry with a class for a check; only an overwriting registration may replace one. -/
def register (registry : Registry κ) (check : κ) (c : ValidatorClass) (overwrite : Bool) :
    Except AlreadyRegistered (Registry κ) :=
  if (registry.class? check).isSome then
    if overwrite then .ok (registry.map fun p => if p.1 == check then (p.1, c) else p)
    else .error ⟨qualifiedName check⟩
  else .ok (registry ++ [(check, c)])

/-- The entries in the order of the names of their checks. -/
def sorted (registry : Registry κ) : List (κ × ValidatorClass) :=
  registry.mergeSort fun p q => CheckName.name p.1 ≤ CheckName.name q.1

/-- The registry without a class for the check. -/
def unregister (registry : Registry κ) (check : κ) : Registry κ :=
  registry.filter fun p => !(p.1 == check)

end Registry

/-- The record that a payload gives. -/
def Payload.record : Payload → Except BuildError Schema.Record
  | .data .null => .ok []
  | .data (.map entries) => .ok entries
  | .data v => .error (.payload v.typeName)
  | .validator v => .ok (v.fields.map fun p => (.str p.1, p.2))

namespace Registry

variable {κ : Type} [CheckName κ]

/-- The validator for a request. -/
def build (registry : Registry κ) (request : CheckRequest κ) : Except BuildError Validator :=
  match registry.class? request.check with
  | none => .error (.unmapped (CheckName.scope κ) (qualifiedName request.check))
  | some c => do
    let record ← request.payload.record
    ((Validator.ofRecord c record).toExcept c.name).mapError .fields

/-- The journal's note of a built validator. -/
def builtEvent (check : κ) (v : Validator) : Event :=
  .built (CheckName.scope κ).name (CheckName.name check) v.kind.name

/-- The validators for a list of requests, up to the first that cannot be built. -/
def buildAll (registry : Registry κ) :
    List (CheckRequest κ) → Logged (Except BuildError (List Validator))
  | [] => ⟨.ok [], []⟩
  | request :: requests =>
    match registry.build request with
    | .error e => ⟨.error e, []⟩
    | .ok v =>
      let rest := buildAll registry requests
      ⟨rest.value.map (v :: ·), builtEvent request.check v :: rest.events⟩

end Registry
end DeploymentRecipes
