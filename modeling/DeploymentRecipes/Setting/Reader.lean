import DeploymentRecipes.Setting.Basic

/-!
# Settings of a document

A setting is read from a record, and its children from the record's list of children.  Faults come
in the order of the fields.
-/

namespace DeploymentRecipes.Setting

open Schema

def idName : FieldName := ⟨"id", "id"⟩
def nameName : FieldName := ⟨"name", "name"⟩
def descriptionName : FieldName := ⟨"description", "description"⟩
def typeName : FieldName := ⟨"type", "type"⟩
def defaultValueName : FieldName := ⟨"defaultValue", "default_value"⟩
def advancedName : FieldName := ⟨"advanced", "advanced"⟩
def updatableName : FieldName := ⟨"updatable", "updatable"⟩
def childrenName : FieldName := ⟨"childOptionSettings", "child_option_settings"⟩
def dependsOnName : FieldName := ⟨"dependsOn", "depends_on"⟩
def validatorsName : FieldName := ⟨"validators", "validators"⟩

/-- A rule read from a record. -/
def readRule (r : Record) : Checked DependencyRule :=
  .mk <$> required r idName string <*> optional r ⟨"value", "value"⟩ .null anything

/-- A setting from the fields of a record, with its children read already. -/
def assemble (r : Record) (children : Checked (List Setting)) : Checked Setting :=
  (fun id name description type defaultValue advanced updatable children dependsOn validators =>
    .node ⟨id, name, description, type, defaultValue, advanced, updatable, dependsOn, validators⟩
      .null children) <$>
    required r idName string <*>
    optional r nameName "" string <*>
    optional r descriptionName "" string <*>
    optional r typeName .string (choice SettingType.named) <*>
    optional r defaultValueName .null anything <*>
    optional r advancedName false bool <*>
    optional r updatableName true bool <*>
    children <*>
    optional r dependsOnName [] (list (record readRule)) <*>
    optional r validatorsName [] (list (record (CheckRequest.ofRecord SettingCheck.named)))

mutual

/-- A setting read from a document. -/
def read : Value → Checked Setting
  | .map entries =>
    assemble entries <|
      match readUnder childrenName.camel entries with
      | some children => children.under childrenName.camel
      | none =>
        match readUnder childrenName.snake entries with
        | some children => children.under childrenName.camel
        | none => .good []
  | _ => .fault .recordType

/-- The settings listed under a key, if the record has it. -/
def readUnder (key : String) : List (Value × Value) → Option (Checked (List Setting))
  | [] => none
  | (k, v) :: entries => if k.isText key then some (readList v) else readUnder key entries

/-- A list of settings. -/
def readList : Value → Checked (List Setting)
  | .list vs => readFrom 0 vs
  | _ => .fault .listType

/-- The settings of a list from the given position on. -/
def readFrom : Nat → List Value → Checked (List Setting)
  | _, [] => .good []
  | i, v :: vs => List.cons <$> (read v).under (toString i) <*> readFrom (i + 1) vs

end

/-- A setting read from a document by itself. -/
def ofValue (v : Value) : Except Faults Setting := (read v).toExcept "OptionSettingItem"

end DeploymentRecipes.Setting
