import DeploymentRecipes.Proofs.Recommendation.References
import DeploymentRecipes.Proofs.Recommendation.Redeployment
import DeploymentRecipes.Proofs.Validator.Building
import DeploymentRecipes.Proofs.Value.Digits

/-!
# Validations

A recipe's validators give a verdict on any values, whether or not these stand for numbers, apart from
values beyond the range of the floating point numbers.  A validation is the list of the failures, in
the order of the validators, unless one of them comes upon such a value.
-/

namespace DeploymentRecipes

/-! ### Values as numbers -/

namespace Value

/-- The number that a value stands for, if it stands for one. -/
def number? (v : Value) : Option Binary64 := v.toFloat.toOption

/-- Whether the value is an integer beyond the range of the numbers. -/
def isTooLarge : Value → Bool
  | .int n => (Binary64.ofInt? n).isNone
  | _ => false

/-- The number that the text of a value is a numeral of. -/
def written? (v : Value) : Option Binary64 :=
  v.text?.bind fun s => Numeral.readFloat? (Text.strip s)

/-- Whether the text of the value is a numeral of an infinite number. -/
def writesInfinity (v : Value) : Bool :=
  match v.written? with
  | some (.infinite _) => true
  | _ => false

/-- The whole part of the number that the text of a value is a numeral of. -/
def whole? (v : Value) : Option Int := v.written?.bind Binary64.truncate?

/-- The size that a value gives: the whole part of a numeral, or else the text without blanks around
it. Null gives none. -/
def sizeText? (v : Value) : Option String :=
  if v.isNull then none
  else match v.whole? with
    | some n => some (toString n)
    | none => v.text?.map Text.strip

theorem isTooLarge_iff (v : Value) :
  v.isTooLarge ↔ v.toFloat = .error .tooLarge
  := by
  cases v with
  | bool b =>
      have hsome : (Binary64.ofInt? (ofBool b)).isSome := by
        cases b <;> decide +kernel
      obtain ⟨x, hx⟩ := Option.isSome_iff_exists.mp hsome
      rw [toFloat, intToFloat, hx]
      simp [isTooLarge]
  | int n =>
      rw [toFloat, intToFloat, isTooLarge]
      cases Binary64.ofInt? n <;> simp
  | str s =>
      rw [toFloat, textToFloat]
      cases Numeral.readFloat? s <;> simp [isTooLarge]
  | halfText _ _ | bytes _ =>
      apply iff_of_false (by simp [isTooLarge])
      rw [toFloat, standInToFloat]
      intro h
      obtain ⟨e, -, he⟩ := exists_of_mapError_eq_error h
      cases he
  | _ => simp [toFloat, isTooLarge]

theorem floatToInt_finite (negative : Bool) (m e : Nat) :
  ∃ n, floatToInt (.finite negative m e) = .ok n
    ∧ Binary64.truncate? (.finite negative m e) = some n
  := by
  exact ⟨_, rfl, rfl⟩

theorem exists_sizeText {v : Value} (hfit : v.IntegersFit) (hnull : v.isNull = false) :
  ∃ t, v.sizeText? = some t
    ∧ (v.whole? = none → (Numeral.readFloat? t).bind Binary64.truncate? = none)
  := by
  obtain ⟨s, hs⟩ := exists_text hfit
  rw [sizeText?, hnull, hs]
  cases hwhole : v.whole? with
  | some n => exact ⟨toString n, rfl, by simp⟩
  | none =>
      refine ⟨Text.strip s, rfl, fun _ => ?_⟩
      rw [whole?, written?, hs, Option.bind_some] at hwhole
      exact hwhole

end Value

namespace Verdict

def message? : Verdict → Option String
  | .valid => none
  | .failed message => some message

end Verdict

/-! ### What validators say -/

namespace Validator

variable {scene : Setting.Scene} {v : Validator} {value : String → Value}

/-- What a validator says about values, wherever it says anything. -/
def verdictOn (value : String → Value) : Validator → Verdict
  | .minMax message minId maxId =>
    if (value minId).isNull || (value maxId).isNull then .valid
    else verdict
      (match (value minId).number?, (value maxId).number? with
        | some x, some y => x.le y
        | _, _ => false)
      (fill message [("MinValueOptionSettingsId", minId), ("MaxValueOptionSettingsId", maxId)])
  | .fargateTaskSize message cpuId memoryId cpuMessage =>
    match (value cpuId).sizeText?, (value memoryId).sizeText? with
    | some cpu, some memory => judgeSizes message cpuMessage cpu memory
    | _, _ => .valid
  | _ => .valid

/-- What keeps a validator from a verdict on values: an integer that is compared and is too large, or
an infinite size. The second of two values is not compared if the first is no number. -/
def overflow? (value : String → Value) : Validator → Option ConversionError
  | .minMax _ minId maxId =>
    if !(value minId).isNull && !(value maxId).isNull
      && ((value minId).isTooLarge || ((value minId).number?.isSome && (value maxId).isTooLarge))
    then some .tooLarge else none
  | .fargateTaskSize _ cpuId memoryId _ =>
    if (value cpuId).writesInfinity || (value memoryId).writesInfinity
    then some .infiniteNumber else none
  | _ => none

theorem comparable?_eq (v : Value) :
  comparable? v = if v.isTooLarge then .error (.conversion .tooLarge) else .ok v.number?
  := by
  have hlarge := v.isTooLarge_iff
  rw [comparable?, Value.number?]
  cases hfloat : v.toFloat with
  | ok x => simp [hlarge, hfloat, Except.toOption]
  | error e => cases e <;> simp [hlarge, hfloat, Except.toOption]

theorem atMost_eq (least greatest : Value) :
  atMost least greatest =
    if least.isTooLarge || (least.number?.isSome && greatest.isTooLarge)
    then .error (.conversion .tooLarge)
    else .ok (match least.number?, greatest.number? with
      | some x, some y => x.le y
      | _, _ => false)
  := by
  rw [atMost, comparable?_eq, comparable?_eq]
  cases least.isTooLarge with
  | true => rfl
  | false =>
      cases least.number? with
      | none => rfl
      | some x =>
          cases greatest.isTooLarge with
          | true => rfl
          | false => cases greatest.number? <;> rfl

/-- Every value that has a text gives a size or none, unless it is infinite. -/
theorem size?_eq {v : Value} (h : v.IntegersFit) :
  size? v = if v.writesInfinity then .error (.conversion .infiniteNumber) else .ok v.sizeText?
  := by
  obtain ⟨s, hs⟩ := v.exists_text h
  cases hnull : v.isNull with
  | true =>
      cases v with
      | null => rfl
      | _ => cases hnull
  | false =>
      have hsize : size? v = (sizeText v).map some := by
        cases v with
        | null => cases hnull
        | _ => rfl
      rw [hsize, sizeText, Value.toText, Value.writesInfinity, Value.sizeText?, Value.whole?,
        Value.written?, hs, hnull]
      simp only [Except.mapError, bind, Except.bind, Option.bind_some]
      cases Numeral.readFloat? (Text.strip s) with
      | none => rfl
      | some x =>
          cases x with
          | finite negative m e =>
              obtain ⟨n, hint, htruncate⟩ := Value.floatToInt_finite negative m e
              simp [hint, htruncate, Except.map, pure, Except.pure]
          | _ => rfl

/-- A validator of the scope of recipes is asked for its verdict. -/
theorem checkScene_eq (hclass : v.kind = .minMax ∨ v.kind = .fargateTaskSize)
    (hvalue : ∀ id ∈ v.targets, settingValue scene id = .ok (value id))
    (hfit : ∀ id ∈ v.targets, (value id).IntegersFit) :
  v.checkScene scene = match v.overflow? value with
    | some cause => .error (.conversion cause)
    | none => .ok (v.verdictOn value)
  := by
  cases v with
  | minMax message minId maxId =>
      simp only [targets, List.mem_cons, List.not_mem_nil, or_false, forall_eq_or_imp, forall_eq]
        at hvalue
      rw [checkScene, checkMinMax, hvalue.1, hvalue.2, overflow?, verdictOn]
      simp only [bind, Except.bind, atMost_eq]
      cases (value minId).isNull with
      | true => rfl
      | false =>
          cases (value maxId).isNull with
          | true => rfl
          | false =>
              cases (value minId).isTooLarge
                || ((value minId).number?.isSome && (value maxId).isTooLarge) <;> rfl
  | fargateTaskSize message cpuId memoryId cpuMessage =>
      simp only [targets, List.mem_cons, List.not_mem_nil, or_false, forall_eq_or_imp, forall_eq]
        at hvalue hfit
      obtain ⟨hcpu, hmemory⟩ := hvalue
      rw [checkScene, checkSizes, hcpu, hmemory, overflow?, verdictOn]
      simp only [bind, Except.bind, size?_eq hfit.1, size?_eq hfit.2]
      cases (value cpuId).writesInfinity with
      | true => rfl
      | false =>
          cases (value memoryId).writesInfinity with
          | true => rfl
          | false => cases (value cpuId).sizeText? <;> cases (value memoryId).sizeText? <;> rfl
  | _ => simp [kind] at hclass

/-- Both values are there, but one of them stands for no number or no size. -/
def IsUnusable (value : String → Value) : Validator → Prop
  | .minMax _ minId maxId =>
    (value minId).isNull = false ∧ (value maxId).isNull = false
      ∧ ((value minId).number? = none ∨ (value maxId).number? = none)
  | .fargateTaskSize _ cpuId memoryId _ =>
    (value cpuId).isNull = false ∧ (value memoryId).isNull = false
      ∧ ((value cpuId).whole? = none ∨ (value memoryId).whole? = none)
  | _ => False

theorem find?_taskSizes :
  ∀ p ∈ taskSizes, taskSizes.find? (·.1 == p.1) = some p
  := by
  decide +kernel

/-- Sizes are valid if the table lists the memory size for the processor size. -/
theorem judgeSizes_eq_valid_iff {message cpuMessage cpu memory : String} :
  judgeSizes message cpuMessage cpu memory = .valid
    ↔ ∃ allowed, (cpu, allowed) ∈ taskSizes ∧ memory ∈ allowed
  := by
  constructor
  · intro h
    rw [judgeSizes] at h
    cases hfind : taskSizes.find? (·.1 == cpu) with
    | none =>
        rw [hfind] at h
        cases h
    | some p =>
        have hcpu : p.1 = cpu := by simpa using List.find?_some hfind
        refine ⟨p.2, ?_, ?_⟩
        · rw [← hcpu]
          exact List.mem_of_find?_eq_some hfind
        · by_contra hnot
          simp [hfind, verdict, hnot] at h
  · rintro ⟨allowed, hmem, hallowed⟩
    have hfind := find?_taskSizes _ hmem
    dsimp only at hfind
    simp [judgeSizes, hfind, verdict, hallowed]

theorem isSome_truncate_of_mem_taskSizes :
  ∀ p ∈ taskSizes, ((Numeral.readFloat? p.1).bind Binary64.truncate?).isSome
    ∧ ∀ memory ∈ p.2, ((Numeral.readFloat? memory).bind Binary64.truncate?).isSome
  := by
  decide +kernel

theorem isSome_truncate_of_judgeSizes {message cpuMessage cpu memory : String}
    (h : judgeSizes message cpuMessage cpu memory = .valid) :
  ((Numeral.readFloat? cpu).bind Binary64.truncate?).isSome
    ∧ ((Numeral.readFloat? memory).bind Binary64.truncate?).isSome
  := by
  obtain ⟨allowed, hmem, hallowed⟩ := judgeSizes_eq_valid_iff.mp h
  obtain ⟨hcpu, hmemory⟩ := isSome_truncate_of_mem_taskSizes _ hmem
  exact ⟨hcpu, hmemory memory hallowed⟩

/-- Values that are unusable are not valid. -/
theorem verdictOn_ne_valid (hfit : ∀ id ∈ v.targets, (value id).IntegersFit)
    (h : v.IsUnusable value) :
  v.verdictOn value ≠ .valid
  := by
  cases v with
  | minMax message minId maxId =>
      obtain ⟨hmin, hmax, hnone⟩ := h
      rw [verdictOn, hmin, hmax]
      rcases hnone with hnone | hnone
      · simp [hnone, verdict]
      · cases (value minId).number? <;> simp [hnone, verdict]
  | fargateTaskSize message cpuId memoryId cpuMessage =>
      simp only [targets, List.mem_cons, List.not_mem_nil, or_false, forall_eq_or_imp, forall_eq]
        at hfit
      obtain ⟨hcpu, hmemory, hnone⟩ := h
      obtain ⟨cpu, hcpuSize, hcpuWhole⟩ := Value.exists_sizeText hfit.1 hcpu
      obtain ⟨memory, hmemorySize, hmemoryWhole⟩ := Value.exists_sizeText hfit.2 hmemory
      simp only [verdictOn, hcpuSize, hmemorySize]
      intro hvalid
      have hsome := isSome_truncate_of_judgeSizes hvalid
      rcases hnone with hnone | hnone
      · simp [hcpuWhole hnone] at hsome
      · simp [hmemoryWhole hnone] at hsome
  | _ => exact h.elim

end Validator

/-! ### What a validation says -/

/-- The classes of validators that are delivered for recipes. -/
theorem Registry.kind_of_buildAll_recipeChecks {requests : List (CheckRequest RecipeCheck)}
    {vs : List Validator} (h : (recipeChecks.buildAll requests).value = .ok vs) :
  ∀ v ∈ vs, v.kind = .minMax ∨ v.kind = .fargateTaskSize
  := by
  intro v hv
  have hkind := kind_of_mem_buildAll h hv
  simpa [recipeChecks, or_comm] using hkind

namespace Recommendation

open Setting

variable {r : Recommendation} {scene : Scene} {vs : List Validator}

/-- The value of the setting at a path, null where it has none. -/
def valueAt (r : Recommendation) (path : String) : Value :=
  (Validator.settingValue r.scene path).toOption.getD .null

theorem failuresOf_eq {value : String → Value}
    (h : ∀ v ∈ vs, v.checkScene scene = match v.overflow? value with
      | some cause => .error (.conversion cause)
      | none => .ok (v.verdictOn value)) :
  failuresOf scene vs = match vs.findSome? (·.overflow? value) with
    | some cause => .error (.conversion cause)
    | none => .ok (vs.filterMap fun v => (v.verdictOn value).message?)
  := by
  induction vs with
  | nil => rfl
  | cons v vs ih =>
      rw [List.forall_mem_cons] at h
      rw [failuresOf, h.1, ih h.2, List.findSome?_cons, List.filterMap_cons]
      cases v.overflow? value with
      | some cause => rfl
      | none =>
          cases vs.findSome? (·.overflow? value) with
          | some cause => rfl
          | none => cases v.verdictOn value <;> rfl

/-- A setting that is no object has a value, and the value has a text, if the texts in the settings
have one. -/
theorem settingValue_eq_valueAt (htext : r.tokens.IsText)
    (hfit : ∀ s ∈ walkAll r.items, s.declaration.defaultValue.IntegersFit ∧ s.override.IntegersFit)
    {path : String} {s : Setting} (hs : find r.items (some path) = some s) (hleaf : s.type ≠ .object) :
  Validator.settingValue r.scene path = .ok (r.valueAt path) ∧ (r.valueAt path).IntegersFit
  := by
  have hvalue : Validator.settingValue r.scene path = (fillTokens r.tokens
      (if s.override.isNull then s.declaration.defaultValue else s.override)).mapError .resolve := by
    rw [Validator.settingValue, scene, hs]
    dsimp only
    rw [Scene.value, Scene.valueBy_of_leaf hleaf, bareValue_of_leaf hleaf]
  have hown : (if s.override.isNull then s.declaration.defaultValue else s.override).IntegersFit := by
    have hboth := hfit s (mem_walkAll_of_find hs)
    split
    · exact hboth.1
    · exact hboth.2
  obtain ⟨w, hw, -⟩ := Token.exists_substitute htext
    (if s.override.isNull then s.declaration.defaultValue else s.override)
  rw [valueAt, hvalue, fillTokens, hw]
  exact ⟨rfl, integersFit_of_substitute hw hown⟩

/-- What a validation comes to in any state. -/
theorem validate_eq (htext : r.tokens.IsText)
    (hfit : ∀ s ∈ walkAll r.items, s.declaration.defaultValue.IntegersFit ∧ s.override.IntegersFit)
    (hbuild : (Registry.recipeChecks.buildAll r.recipe.validators).value = .ok vs)
    (htargets : ∀ v ∈ vs, ∀ id ∈ v.targets,
      ∃ s, find r.items (some id) = some s ∧ s.type ≠ .object) :
  (∀ v ∈ vs, ∀ id ∈ v.targets, Validator.settingValue r.scene id = .ok (r.valueAt id))
    ∧ (r.validate Registry.recipeChecks).value = (match vs.findSome? (·.overflow? r.valueAt) with
      | some cause => .error (.check (.conversion cause))
      | none => .ok (vs.filterMap fun v => (v.verdictOn r.valueAt).message?))
    ∧ ∀ v ∈ vs, v.IsUnusable r.valueAt → v.verdictOn r.valueAt ≠ .valid
  := by
  have hvalue : ∀ v ∈ vs, ∀ id ∈ v.targets,
      Validator.settingValue r.scene id = .ok (r.valueAt id) ∧ (r.valueAt id).IntegersFit := by
    intro v hv id hid
    obtain ⟨s, hs, hleaf⟩ := htargets v hv id hid
    exact settingValue_eq_valueAt htext hfit hs hleaf
  refine ⟨fun v hv id hid => (hvalue v hv id hid).1, ?_, ?_⟩
  · have hfailures := @failuresOf_eq r.scene vs r.valueAt fun v hv =>
      Validator.checkScene_eq (Registry.kind_of_buildAll_recipeChecks hbuild v hv)
        (fun id hid => (hvalue v hv id hid).1) (fun id hid => (hvalue v hv id hid).2)
    rw [validate, hbuild]
    dsimp only
    rw [hfailures]
    cases vs.findSome? (·.overflow? r.valueAt) <;> rfl
  · intro v hv hunusable
    apply Validator.verdictOn_ne_valid (fun id hid => (hvalue v hv id hid).2) hunusable

open Catalog in
/-- A recipe for tasks whose sizes have to go together, with no more processor units than memory. -/
def taskRecipe : Recipe :=
  bareRecipe "task" [bareSetting "TaskCpu" .string [] [], bareSetting "TaskMemory" .string [] []]
    [⟨.fargateTaskSize, .data (.map [
        (.str "invalidCpuValueValidationFailedMessage", .str "no size: {{cpu}}")])⟩,
      ⟨.minMax, .data (.map [(.str "minValueOptionSettingsId", .str "TaskCpu"),
        (.str "maxValueOptionSettingsId", .str "TaskMemory"),
        (.str "validationFailedMessage", .str "too little memory")])⟩]

/-- A task with the given sizes. -/
def taskOf (cpu memory : String) : Recommendation :=
  (ofRecipe taskRecipe [] "." 0 []).run
    [.set unjudged (some "TaskCpu") (.str cpu), .set unjudged (some "TaskMemory") (.str memory)]

def taskChecks : List Validator := [
  .fargateTaskSize ValidatorClass.fargateTaskSize.defaultMessage "TaskCpu" "TaskMemory"
    "no size: {{cpu}}",
  .minMax "too little memory" "TaskCpu" "TaskMemory"]

theorem buildAll_task (cpu memory : String) :
  (Registry.recipeChecks.buildAll (taskOf cpu memory).recipe.validators).value = .ok taskChecks
  := by
  rfl

theorem items_task (cpu memory : String) :
  (taskOf cpu memory).items = [
    .node (Catalog.bareSetting "TaskCpu" .string [] []).declaration (.str cpu) [],
    .node (Catalog.bareSetting "TaskMemory" .string [] []).declaration (.str memory) []]
  := by
  rfl

theorem isText_task (cpu memory : String) :
  (taskOf cpu memory).tokens.IsText
  := by
  apply List.forall_mem_nil

theorem find_task (cpu memory : String) :
  ∀ v ∈ taskChecks, ∀ id ∈ v.targets,
    ∃ s, find (taskOf cpu memory).items (some id) = some s ∧ s.type ≠ .object
  := by
  have hcpu : ∃ s, find (taskOf cpu memory).items (some "TaskCpu") = some s ∧ s.type ≠ .object :=
    ⟨.node _ (.str cpu) [], rfl, SettingType.noConfusion⟩
  have hmemory : ∃ s, find (taskOf cpu memory).items (some "TaskMemory") = some s
      ∧ s.type ≠ .object :=
    ⟨.node _ (.str memory) [], rfl, SettingType.noConfusion⟩
  simp [taskChecks, Validator.targets, hcpu, hmemory]

theorem integersFit_task (cpu memory : String) :
  ∀ s ∈ walkAll (taskOf cpu memory).items,
    s.declaration.defaultValue.IntegersFit ∧ s.override.IntegersFit
  := by
  have hwalk : walkAll (taskOf cpu memory).items = (taskOf cpu memory).items := by
    rfl
  rw [hwalk, items_task, List.forall_mem_cons, List.forall_mem_singleton]
  exact ⟨⟨trivial, trivial⟩, ⟨trivial, trivial⟩⟩

/-- A size that is no number is reported by both validators. -/
theorem validate_eq_large :
  (taskOf "large" "512").tokens.IsText
    ∧ (Registry.recipeChecks.buildAll (taskOf "large" "512").recipe.validators).value = .ok taskChecks
    ∧ (taskOf "large" "512").valueAt "TaskCpu" = .str "large"
    ∧ ((taskOf "large" "512").validate Registry.recipeChecks).value
      = .ok ["no size: large", "too little memory"]
  := by
  have htext := isText_task "large" "512"
  have hbuild := buildAll_task "large" "512"
  obtain ⟨-, hvalidate, -⟩ := validate_eq htext (integersFit_task _ _) hbuild (find_task _ _)
  have hnone : (taskChecks.findSome? (·.overflow? (taskOf "large" "512").valueAt)).isNone := by
    decide +kernel
  have hfailures : (taskChecks.filterMap fun v =>
      (v.verdictOn (taskOf "large" "512").valueAt).message?)
        = ["no size: large", "too little memory"] := by
    decide +kernel
  rw [Option.isNone_iff_eq_none.mp hnone] at hvalidate
  exact ⟨htext, hbuild, rfl, by rw [hvalidate, hfailures]⟩

/-- An infinite size is not reported; it keeps the recipe from being validated. -/
theorem validate_infinite :
  (taskOf "inf" "512").tokens.IsText
    ∧ (∀ s ∈ walkAll (taskOf "inf" "512").items,
      s.declaration.defaultValue.IntegersFit ∧ s.override.IntegersFit)
    ∧ (Registry.recipeChecks.buildAll (taskOf "inf" "512").recipe.validators).value = .ok taskChecks
    ∧ (∀ v ∈ taskChecks, ∀ id ∈ v.targets,
      ∃ s, find (taskOf "inf" "512").items (some id) = some s ∧ s.type ≠ .object)
    ∧ ((taskOf "inf" "512").validate Registry.recipeChecks).value =
      .error (.check (.conversion .infiniteNumber))
  := by
  exact ⟨isText_task _ _, integersFit_task _ _, buildAll_task _ _, find_task _ _, rfl⟩

end Recommendation
end DeploymentRecipes
