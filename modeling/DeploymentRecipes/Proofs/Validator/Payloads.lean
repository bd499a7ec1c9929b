import DeploymentRecipes.Proofs.Validator.Building
import DeploymentRecipes.Proofs.Value.Entries

/-!
# What validators are built from

A class reads the fields that it declares and nothing else.  A validator that is handed to a registry
stands for the record of its fields, from which its own class makes the validator again; another class
borrows the fields that both declare, which never fails, since they hold values of one kind.
-/

namespace DeploymentRecipes

open Schema

/-! ### Declared fields -/

namespace ValidatorClass

open Validator

/-- The names of the fields that a class declares. -/
def fieldNames : ValidatorClass → List FieldName
  | .settingBase | .required | .directoryExists | .blockedArgs | .dockerBuildArgs
  | .dotnetPublishArgs | .recipeBase => [messageName]
  | .range => [messageName, minName, maxName, allowEmptyName]
  | .regex => [messageName, regexName, allowEmptyName]
  | .stringLength => [messageName, minLengthName, maxLengthName]
  | .minMax => [messageName, minIdName, maxIdName]
  | .fargateTaskSize => [messageName, cpuIdName, memoryIdName, cpuMessageName]

end ValidatorClass

/-- Two records have the same values under both names of each of the fields. -/
def Schema.AgreeOn (names : List FieldName) (r r' : Record) : Prop :=
  ∀ name ∈ names, Value.field? r name.camel = Value.field? r' name.camel
    ∧ Value.field? r name.snake = Value.field? r' name.snake

theorem Schema.AgreeOn.find?_eq {names : List FieldName} {r r' : Record} (h : AgreeOn names r r') :
  ∀ name ∈ names, name.find? r = name.find? r'
  := by
  intro name hname
  obtain ⟨hcamel, hsnake⟩ := h name hname
  rw [FieldName.find?, FieldName.find?, hcamel, hsnake]

/-- An entry under another name makes no difference. -/
theorem Schema.agreeOn_cons {names : List FieldName} {key : String}
    (h : ∀ name ∈ names, key ≠ name.camel ∧ key ≠ name.snake) (x : Value) (r : Record) :
  AgreeOn names ((.str key, x) :: r) r
  := by
  intro name hname
  obtain ⟨hcamel, hsnake⟩ := h name hname
  simp [Value.field?_cons, Value.isText, hcamel, hsnake]

namespace Validator

/-- A class takes the same from records that agree on the fields it declares. -/
theorem ofRecord_eq_of_agreeOn {c : ValidatorClass} {r r' : Record}
    (h : AgreeOn c.fieldNames r r') :
  ofRecord c r = ofRecord c r'
  := by
  have hfind := h.find?_eq
  cases c with
  | range =>
      simp only [ValidatorClass.fieldNames, List.forall_mem_cons] at hfind
      obtain ⟨hmessage, hmin, hmax, hempty, -⟩ := hfind
      simp only [ofRecord, readMessage, Schema.optional, hmessage, hmin, hmax, hempty]
  | regex =>
      simp only [ValidatorClass.fieldNames, List.forall_mem_cons] at hfind
      obtain ⟨hmessage, hregex, hempty, -⟩ := hfind
      simp only [ofRecord, readMessage, Schema.optional, hmessage, hregex, hempty]
  | stringLength =>
      simp only [ValidatorClass.fieldNames, List.forall_mem_cons] at hfind
      obtain ⟨hmessage, hmin, hmax, -⟩ := hfind
      simp only [ofRecord, readMessage, Schema.optional, hmessage, hmin, hmax]
  | minMax =>
      simp only [ValidatorClass.fieldNames, List.forall_mem_cons] at hfind
      obtain ⟨hmessage, hmin, hmax, -⟩ := hfind
      simp only [ofRecord, readMessage, Schema.optional, hmessage, hmin, hmax]
  | fargateTaskSize =>
      simp only [ValidatorClass.fieldNames, List.forall_mem_cons] at hfind
      obtain ⟨hmessage, hcpu, hmemory, hcpuMessage, -⟩ := hfind
      simp only [ofRecord, readMessage, Schema.optional, hmessage, hcpu, hmemory, hcpuMessage]
  | _ =>
      simp only [ValidatorClass.fieldNames, List.forall_mem_singleton] at hfind
      simp only [ofRecord, readMessage, Schema.optional, hfind]

/-! ### The record of a validator -/

/-- The record that a validator stands for. -/
def record (v : Validator) : Record := v.fields.map fun p => (.str p.1, p.2)

/-- The record has the declared fields of the class. -/
theorem map_fst_fields (v : Validator) :
  v.fields.map (·.1) = v.kind.fieldNames.map (·.camel)
  := by cases v <;> rfl

/-- A class makes a validator again from the record that the validator stands for. -/
theorem ofRecord_record (v : Validator) :
  ofRecord v.kind v.record = .good v
  := by cases v <;> rfl

/-- Every class makes a validator from the record of any other one. The fields that both declare hold
values of one kind, and the others are left out. -/
theorem exists_ofRecord_record (c : ValidatorClass) (w : Validator) :
  ∃ v, ofRecord c w.record = .good v
  := by
  obtain ⟨message, hmessage⟩ : ∃ m, readMessage c w.record = .good m := by
    cases w <;> exact ⟨_, rfl⟩
  obtain ⟨allowEmpty, hempty⟩ :
      ∃ b, Schema.optional w.record allowEmptyName false bool = .good b := by
    cases w <;> exact ⟨_, rfl⟩
  cases c with
  | range =>
      obtain ⟨lo, hmin⟩ : ∃ n, Schema.optional w.record minName int32Min int = .good n := by
        cases w <;> exact ⟨_, rfl⟩
      obtain ⟨hi, hmax⟩ : ∃ n, Schema.optional w.record maxName int32Max int = .good n := by
        cases w <;> exact ⟨_, rfl⟩
      rw [ofRecord, hmessage, hmin, hmax, hempty]
      exact ⟨_, rfl⟩
  | regex =>
      obtain ⟨pattern, hregex⟩ : ∃ s, Schema.optional w.record regexName "" string = .good s := by
        cases w <;> exact ⟨_, rfl⟩
      rw [ofRecord, hmessage, hregex, hempty]
      exact ⟨_, rfl⟩
  | stringLength =>
      obtain ⟨lo, hmin⟩ : ∃ n, Schema.optional w.record minLengthName 0 int = .good n := by
        cases w <;> exact ⟨_, rfl⟩
      obtain ⟨hi, hmax⟩ : ∃ n, Schema.optional w.record maxLengthName int32Max int = .good n := by
        cases w <;> exact ⟨_, rfl⟩
      rw [ofRecord, hmessage, hmin, hmax]
      exact ⟨_, rfl⟩
  | minMax =>
      obtain ⟨minId, hmin⟩ : ∃ s, Schema.optional w.record minIdName "" string = .good s := by
        cases w <;> exact ⟨_, rfl⟩
      obtain ⟨maxId, hmax⟩ : ∃ s, Schema.optional w.record maxIdName "" string = .good s := by
        cases w <;> exact ⟨_, rfl⟩
      rw [ofRecord, hmessage, hmin, hmax]
      exact ⟨_, rfl⟩
  | fargateTaskSize =>
      obtain ⟨cpuId, hcpu⟩ :
          ∃ s, Schema.optional w.record cpuIdName "TaskCpu" string = .good s := by
        cases w <;> exact ⟨_, rfl⟩
      obtain ⟨memoryId, hmemory⟩ :
          ∃ s, Schema.optional w.record memoryIdName "TaskMemory" string = .good s := by
        cases w <;> exact ⟨_, rfl⟩
      obtain ⟨cpuMessage, hcpuMessage⟩ :
          ∃ s, Schema.optional w.record cpuMessageName defaultCpuMessage string = .good s := by
        cases w <;> exact ⟨_, rfl⟩
      rw [ofRecord, hmessage, hcpu, hmemory, hcpuMessage]
      exact ⟨_, rfl⟩
  | _ =>
      rw [ofRecord, hmessage]
      exact ⟨_, rfl⟩

end Validator

/-! ### Building -/

namespace Registry

variable {κ : Type} [CheckName κ] {registry : Registry κ} {check : κ} {c : ValidatorClass}

/-- A check that has a class is built by the class from the record that the payload gives. -/
theorem build_of_class? (h : registry.class? check = some c) {payload : Payload} {r : Record}
    (hr : payload.record = .ok r) :
  registry.build ⟨check, payload⟩ = ((Validator.ofRecord c r).toExcept c.name).mapError .fields
  := by
  rw [build]
  simp only [h, hr]
  rfl

/-- How a registry reads the payloads for a check that is answered by a class. -/
structure ReadsFields (registry : Registry κ) (check : κ) (c : ValidatorClass) : Prop where
  /-- The declared fields are those that a validator of the class has. -/
  names : ∀ w : Validator, w.kind = c → w.fields.map (·.1) = c.fieldNames.map (·.camel)
  /-- What is built from a record has the class, and is built again from itself. -/
  again : ∀ r v, registry.build ⟨check, .data (.map r)⟩ = .ok v →
    v.kind = c ∧ registry.build ⟨check, .validator v⟩ = .ok v
  /-- Records that agree on the declared fields have one outcome. -/
  declared : ∀ r r', AgreeOn c.fieldNames r r' →
    registry.build ⟨check, .data (.map r)⟩ = registry.build ⟨check, .data (.map r')⟩
  /-- A validator of any class gives what the record of its fields gives, and that is no fault. -/
  borrowed : ∀ w : Validator, ∃ v, registry.build ⟨check, .validator w⟩ = .ok v
    ∧ registry.build ⟨check, .data (Value.ofFields w.fields)⟩ = .ok v

theorem readsFields_of_class? (h : registry.class? check = some c) :
  registry.ReadsFields check c
  where
  names w hw := by
    rw [← hw, w.map_fst_fields]
  again r v hbuild := by
    have hclass := class?_of_build hbuild
    rw [h] at hclass
    obtain rfl := Option.some.inj hclass
    rw [build_of_class? h rfl, ← Validator.record, v.ofRecord_record]
    exact ⟨rfl, rfl⟩
  declared r r' hagree := by
    rw [build_of_class? h rfl, build_of_class? h rfl, Validator.ofRecord_eq_of_agreeOn hagree]
  borrowed w := by
    obtain ⟨v, hv⟩ := Validator.exists_ofRecord_record c w
    use v
    rw [build_of_class? h rfl, Value.ofFields, build_of_class? h rfl, ← Validator.record, hv]
    exact ⟨rfl, rfl⟩

/-- The registries as they are delivered have a class for every check. A validator that is built from
a record is of that class and is built again from itself, only the declared fields of a record count,
and a validator of any class gives what the record of its fields gives. -/
theorem readsFields_delivered :
  (∀ check, ∃ c, Registries.delivered.settings.class? check = some c
      ∧ Registries.delivered.settings.ReadsFields check c)
    ∧ ∀ check, ∃ c, Registries.delivered.recipes.class? check = some c
      ∧ Registries.delivered.recipes.ReadsFields check c
  := by
  constructor
  · intro check
    obtain ⟨c, hc⟩ : ∃ c, Registries.delivered.settings.class? check = some c := by
      cases check <;> exact ⟨_, rfl⟩
    exact ⟨c, hc, readsFields_of_class? hc⟩
  · intro check
    obtain ⟨c, hc⟩ : ∃ c, Registries.delivered.recipes.class? check = some c := by
      cases check <;> exact ⟨_, rfl⟩
    exact ⟨c, hc, readsFields_of_class? hc⟩

/-- A record for a range, with one bound as text, one as a truth value, and a field in the spelling
with low lines. -/
def looseRange : Record := [
  (.str "min", .str " -5.0 "), (.str "max", .bool true), (.str "allow_empty_string", .str "YES")]

/-- The range that is built from it is built again from itself and with a pattern that a range does not
have, and a pattern borrows from it that empty texts pass. -/
theorem readsFields_delivered_looseRange :
  ∃ v, Registries.delivered.settings.build ⟨.range, .data (.map looseRange)⟩ = .ok v
    ∧ v = .range ValidatorClass.range.defaultMessage (-5) 1 true
    ∧ Registries.delivered.settings.build ⟨.range, .validator v⟩ = .ok v
    ∧ Registries.delivered.settings.build
      ⟨.range, .data (.map ((.str "regex", .str "(") :: looseRange))⟩ = .ok v
    ∧ Registries.delivered.settings.build ⟨.regex, .validator v⟩
      = .ok (.regex ValidatorClass.range.defaultMessage "" true)
  := by
  have hbuild : Registries.delivered.settings.build ⟨.range, .data (.map looseRange)⟩
      = .ok (.range ValidatorClass.range.defaultMessage (-5) 1 true) := by
    rfl
  obtain ⟨c, hc, hrange⟩ := readsFields_delivered.1 .range
  obtain ⟨d, -, hregex⟩ := readsFields_delivered.1 .regex
  obtain rfl : ValidatorClass.range = c := Option.some.inj hc
  refine ⟨_, hbuild, rfl, (hrange.again _ _ hbuild).2, ?_, ?_⟩
  · rw [← hbuild]
    apply hrange.declared
    apply agreeOn_cons
    decide
  · obtain ⟨v, hv, hrecord⟩ := hregex.borrowed
      (.range ValidatorClass.range.defaultMessage (-5) 1 true)
    rw [hv, ← hrecord]
    rfl

end Registry
end DeploymentRecipes
