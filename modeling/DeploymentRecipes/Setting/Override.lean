import DeploymentRecipes.Setting.Basic
import DeploymentRecipes.Validator.Registry
import DeploymentRecipes.Validator.SettingCheck

/-!
# Overrides

Setting a value overrides the default.  A value for an object is a mapping that is handed down to
the children by id; null clears them all.  Any other setting takes the value if its validators
accept it.  Children are set in order, and those set before a refusal stay set.
-/

namespace DeploymentRecipes.Setting

/-- Why a value was not set. -/
inductive SetError where
  | refused (setting message : String)
  | build (e : BuildError)
  | check (e : CheckError)

/-- The wording of an error. -/
def SetError.message : SetError → String
  | .refused setting message => s!"Invalid value for option setting '{setting}': {message}"
  | .build e => e.message
  | .check e => e.message

/-- The outcome of setting values: the settings afterwards, what was recorded, and the refusal that
ended it. -/
structure SetOutcome (α : Type) where
  settings : α
  events : List Event
  failure : Option SetError

mutual

/-- The tree without overrides. -/
def clear : Setting → Setting
  | .node d _ cs => .node d .null (clearAll cs)

def clearAll : List Setting → List Setting
  | [] => []
  | s :: ss => clear s :: clearAll ss

end

/-- The message for a value of an object that is no mapping. -/
def mappingExpected : String := "Object option settings expect a mapping of child Ids to values"

/-- The first validator that does not accept the value, or the reason why one cannot judge it. -/
def checkAll (place : Place) (setting : String) (value : Value) :
    List Validator → Logged (Except SetError Unit)
  | [] => ⟨.ok (), []⟩
  | v :: vs =>
    match v.checkValue place value with
    | .error e => ⟨.error (.check e), []⟩
    | .ok .valid => checkAll place setting value vs
    | .ok (.failed message) => ⟨.error (.refused setting message), [.refused v.kind.name]⟩

/-- What the validators of a setting say about a value. -/
def judge (place : Place) (registry : Registry SettingCheck) (d : Declaration) (value : Value) :
    Logged (Except SetError Unit) :=
  let built := registry.buildAll d.validators
  match built.value with
  | .error e => ⟨.error (.build e), built.events⟩
  | .ok vs =>
    let checked := checkAll place d.id value vs
    ⟨checked.value, built.events ++ checked.events⟩

/-- What decides whether a setting that is no object takes a value. -/
abbrev Judge := Declaration → Value → Logged (Except SetError Unit)

/-- Accepts every value. -/
def unjudged : Judge := fun _ _ => ⟨.ok (), []⟩

mutual

/-- Sets the value of a setting. -/
def setValue (judge : Judge) (value : Value) : Setting → SetOutcome Setting
  | .node d v cs =>
    if d.type = .object then
      match value with
      | .null => ⟨.node d v (clearAll cs), [], none⟩
      | .map entries =>
        let outcome := setChildren judge entries cs
        ⟨.node d v outcome.settings, outcome.events, outcome.failure⟩
      | _ => ⟨.node d v cs, [], some (.refused d.id mappingExpected)⟩
    else
      let verdict := judge d value
      match verdict.value with
      | .ok () => ⟨.node d value cs, verdict.events, none⟩
      | .error e => ⟨.node d v cs, verdict.events, some e⟩

/-- Hands the entries of a mapping down to the settings with their ids, up to a refusal. -/
def setChildren (judge : Judge) (entries : List (Value × Value)) :
    List Setting → SetOutcome (List Setting)
  | [] => ⟨[], [], none⟩
  | s :: ss =>
    match Value.field? entries s.id with
    | none =>
      let rest := setChildren judge entries ss
      ⟨s :: rest.settings, rest.events, rest.failure⟩
    | some value =>
      let first := setValue judge value s
      match first.failure with
      | some e => ⟨first.settings :: ss, first.events, some e⟩
      | none =>
        let rest := setChildren judge entries ss
        ⟨first.settings :: rest.settings, first.events ++ rest.events, rest.failure⟩

end

/-- The judge for validated setting, or none. -/
def judgeFor (place : Place) (registry : Registry SettingCheck) (validate : Bool) : Judge :=
  if validate then judge place registry else unjudged

end DeploymentRecipes.Setting
