import DeploymentRecipes.Proofs.Number.Decimal
import DeploymentRecipes.Proofs.Recommendation.Validation

/-!
# Task sizes

A processor size and a memory size go together if the table of sizes lists them.  The check rounds
both to floating point numbers and drops what stands behind the point, so it accepts whole numbers
just where they go together, but other numbers wherever they come down to sizes that go together.
-/

namespace DeploymentRecipes

/-! ### Values that denote numbers -/

namespace Value

/-- A value is an integer or a decimal numeral, of a number. -/
inductive Denotes : Value → ℚ → Prop
  | int (n : Int) : Denotes (.int n) n
  | numeral (d : Decimal) : Denotes (.str d.text) d.value

theorem Denotes.ne_null {v : Value} {q : ℚ} (h : v.Denotes q) :
  v ≠ .null
  := by
  cases h <;> exact Value.noConfusion

theorem denotes_toString (n : Int) :
  (Value.str (toString n)).Denotes n
  := by
  have h := Denotes.numeral (Decimal.ofInt n)
  rwa [Decimal.value_ofInt, Decimal.text_ofInt] at h

/-- A numeral with a fraction, between blanks. -/
theorem denotes_fraction {blanks whole places : List Char} (hne : whole ≠ [])
    (hblanks : blanks.all Text.isBlank = true) (hwhole : whole.all Char.isDigit = true)
    (hplaces : places.all Char.isDigit = true) :
  (Value.str (String.ofList (blanks ++ (whole ++ '.' :: places) ++ blanks))).Denotes
    ((Numeral.digitsValue (whole ++ places) : ℚ) / (10 ^ places.length : Nat))
  := by
  rw [List.all_eq_true] at hblanks hwhole hplaces
  exact Denotes.numeral
    ⟨blanks, none, whole, some places, blanks, hblanks, by simp, hne,
      fun c hc => (Decimal.digitAt_of_isDigit (hwhole c hc)).1,
      fun c hc => (Decimal.digitAt_of_isDigit (hplaces c hc)).1, hblanks⟩

end Value

namespace Validator

open Binary64

/-! ### The table -/

/-- The table lists a memory size for a processor size. -/
def GoTogether (cpu memory : Nat) : Prop :=
  ∃ allowed, (toString cpu, allowed) ∈ taskSizes ∧ toString memory ∈ allowed

/-- The sizes that the table consists of. -/
def sizes : List Nat := [256, 512] ++ (List.range 30).map fun i => 1024 * (i + 1)

theorem mem_sizes_of_mem_taskSizes :
  ∀ p ∈ taskSizes, ∀ size ∈ p.1 :: p.2, size ∈ sizes.map toString
  := by
  decide +kernel

theorem bounds_of_mem_sizes :
  ∀ n ∈ sizes, 1 < n ∧ n < 2 ^ 52
  := by
  decide

theorem exists_nat_of_mem_taskSizes {size : String} {p : String × List String} (hp : p ∈ taskSizes)
    (h : size ∈ p.1 :: p.2) :
  ∃ n : Nat, toString n = size ∧ 1 < n ∧ n < 2 ^ 52
  := by
  obtain ⟨n, hn, rfl⟩ := List.mem_map.mp (mem_sizes_of_mem_taskSizes p hp size h)
  exact ⟨n, rfl, bounds_of_mem_sizes n hn⟩

theorem bounds_of_goTogether {cpu memory : Nat} (h : GoTogether cpu memory) :
  (1 < cpu ∧ cpu < 2 ^ 52) ∧ 1 < memory ∧ memory < 2 ^ 52
  := by
  obtain ⟨allowed, hmem, hallowed⟩ := h
  obtain ⟨c, hc, hcpu⟩ := exists_nat_of_mem_taskSizes hmem List.mem_cons_self
  obtain ⟨m, hm, hmemory⟩ := exists_nat_of_mem_taskSizes hmem (List.mem_cons_of_mem _ hallowed)
  rw [Nat.toString_eq_repr, Nat.toString_eq_repr, Nat.repr_inj] at hc hm
  subst hc hm
  exact ⟨hcpu, hmemory⟩

/-! ### The size that a value gives -/

theorem sizeText_eq {v : Value} {text : String} {x : Binary64} (htext : v.text? = some text)
    (hread : Numeral.readFloat? (Text.strip text) = some x) (hnan : x ≠ nan) :
  sizeText v = match x.truncate? with
    | some n => .ok (toString n)
    | none => .error (.conversion .infiniteNumber)
  := by
  rw [sizeText, Value.toText, htext]
  simp only [Except.mapError, bind, Except.bind, hread]
  cases x with
  | nan => cases hnan rfl
  | infinite negative => rfl
  | finite negative m s => rfl

theorem toString_eq_toString_iff {m : Int} {n : Nat} :
  toString m = toString n ↔ m = n
  := by
  have hcast : toString n = toString (n : Int) := rfl
  rw [hcast, Int.toString_eq_repr, Int.toString_eq_repr, Int.repr_inj]

/-- What a decimal numeral gives as a size is what its value comes down to. -/
theorem sizeText_eq_ok_iff {v : Value} {d : Decimal} (htext : v.text? = some d.text) {n : Nat}
    (hn : 1 < n) (hlimit : n < 2 ^ 52) :
  sizeText v = .ok (toString n) ↔ ComesDownTo d.value n
  := by
  obtain ⟨x, hread, hnan, hwhole⟩ := d.exists_readFloat
  rw [sizeText_eq htext hread hnan, ← hwhole n hn hlimit]
  cases x.truncate? with
  | none => simp
  | some m => rw [Except.ok.injEq, toString_eq_toString_iff, Option.some_inj]

theorem size?_eq_map_sizeText {v : Value} (h : v ≠ .null) :
  size? v = (sizeText v).map some
  := by
  cases v with
  | null => cases h rfl
  | _ => rfl

/-- A size has few enough digits for a text. -/
theorem lt_pow_digitLimit {n : Nat} (h : n < 2 ^ 52) :
  n < Nat.pow 10 Numeral.digitLimit
  := by
  have hlimit : 16 ≤ Numeral.digitLimit := by decide
  generalize Numeral.digitLimit = k at hlimit ⊢
  have hpower : 10 ^ 16 ≤ 10 ^ k := Nat.pow_le_pow_right (by decide) hlimit
  rw [Nat.pow_eq]
  omega

theorem sizeText_eq_ok_of_denotes_iff {v : Value} {q : ℚ} (h : v.Denotes q) {n : Nat} (hn : 1 < n)
    (hlimit : n < 2 ^ 52) :
  sizeText v = .ok (toString n) ↔ ComesDownTo q n
  := by
  cases h with
  | numeral d => apply sizeText_eq_ok_iff rfl hn hlimit
  | int z =>
      have hshown : (Value.int z).text? = Numeral.showInt? z := rfl
      by_cases hfit : z.natAbs < Nat.pow 10 Numeral.digitLimit
      · have htext : (Value.int z).text? = some (Decimal.ofInt z).text := by
          rw [hshown, Numeral.showInt?, if_pos hfit, Decimal.text_ofInt]
        rw [sizeText_eq_ok_iff htext hn hlimit, Decimal.value_ofInt]
      · have htext : (Value.int z).text? = none := by
          rw [hshown, Numeral.showInt?, if_neg hfit]
        apply iff_of_false
        · simp [sizeText, Value.toText, htext, Except.mapError, bind, Except.bind]
        · rw [comesDownTo_intCast_iff hn hlimit]
          rintro rfl
          apply hfit (lt_pow_digitLimit hlimit)

/-! ### The verdict -/

theorem checkSizes_eq_valid_iff {scene : Setting.Scene} {message cpuId memoryId cpuMessage : String}
    {cpu memory : Value} (hcpu : settingValue scene cpuId = .ok cpu)
    (hmemory : settingValue scene memoryId = .ok memory) (hcpuNull : cpu ≠ .null)
    (hmemoryNull : memory ≠ .null) :
  checkSizes scene message cpuId memoryId cpuMessage = .ok .valid
    ↔ ∃ c m, sizeText cpu = .ok c ∧ sizeText memory = .ok m
      ∧ ∃ allowed, (c, allowed) ∈ taskSizes ∧ m ∈ allowed
  := by
  rw [checkSizes, hcpu, hmemory]
  simp only [bind, Except.bind, size?_eq_map_sizeText hcpuNull, size?_eq_map_sizeText hmemoryNull]
  cases sizeText cpu with
  | error e => simp [Except.map]
  | ok c =>
      cases sizeText memory with
      | error e => simp [Except.map]
      | ok m => simp [Except.map, pure, Except.pure, judgeSizes_eq_valid_iff]

theorem checkScene_eq_valid_iff_comesDownTo {scene : Setting.Scene}
    {message cpuId memoryId cpuMessage : String} {cpu memory : Value} {p q : ℚ}
    (hcpu : settingValue scene cpuId = .ok cpu) (hmemory : settingValue scene memoryId = .ok memory)
    (hp : cpu.Denotes p) (hq : memory.Denotes q) :
  checkScene scene (.fargateTaskSize message cpuId memoryId cpuMessage) = .ok .valid
    ↔ ∃ c m, GoTogether c m ∧ ComesDownTo p c ∧ ComesDownTo q m
  := by
  rw [checkScene, checkSizes_eq_valid_iff hcpu hmemory hp.ne_null hq.ne_null]
  constructor
  · rintro ⟨c, m, hc, hm, allowed, hmem, hallowed⟩
    obtain ⟨c, rfl, hcLow, hcHigh⟩ := exists_nat_of_mem_taskSizes hmem List.mem_cons_self
    obtain ⟨m, rfl, hmLow, hmHigh⟩ :=
      exists_nat_of_mem_taskSizes hmem (List.mem_cons_of_mem _ hallowed)
    rw [sizeText_eq_ok_of_denotes_iff hp hcLow hcHigh] at hc
    rw [sizeText_eq_ok_of_denotes_iff hq hmLow hmHigh] at hm
    exact ⟨c, m, ⟨allowed, hmem, hallowed⟩, hc, hm⟩
  · rintro ⟨c, m, hboth, hc, hm⟩
    obtain ⟨⟨hcLow, hcHigh⟩, hmLow, hmHigh⟩ := bounds_of_goTogether hboth
    rw [← sizeText_eq_ok_of_denotes_iff hp hcLow hcHigh] at hc
    rw [← sizeText_eq_ok_of_denotes_iff hq hmLow hmHigh] at hm
    exact ⟨toString c, toString m, hc, hm, hboth⟩

/-- Sizes are valid where they come down to sizes that go together, and so whole numbers are valid
where they go together. -/
theorem checkScene_fargateTaskSize_eq_valid_iff {scene : Setting.Scene}
    {message cpuId memoryId cpuMessage : String} {cpu memory : Value} {p q : ℚ}
    (hcpu : settingValue scene cpuId = .ok cpu) (hmemory : settingValue scene memoryId = .ok memory)
    (hp : cpu.Denotes p) (hq : memory.Denotes q) :
  (checkScene scene (.fargateTaskSize message cpuId memoryId cpuMessage) = .ok .valid
      ↔ ∃ c m, GoTogether c m ∧ (roundedUpFrom c ≤ p ∧ p < roundedUpFrom (c + 1))
        ∧ roundedUpFrom m ≤ q ∧ q < roundedUpFrom (m + 1))
    ∧ ((∃ x : Int, p = x) → (∃ y : Int, q = y) →
      (checkScene scene (.fargateTaskSize message cpuId memoryId cpuMessage) = .ok .valid
        ↔ ∃ c m : Nat, GoTogether c m ∧ p = c ∧ q = m))
  := by
  have hvalid := @checkScene_eq_valid_iff_comesDownTo scene message cpuId memoryId cpuMessage cpu
    memory p q hcpu hmemory hp hq
  refine ⟨hvalid, ?_⟩
  rintro ⟨x, rfl⟩ ⟨y, rfl⟩
  rw [hvalid]
  apply exists_congr
  intro c
  apply exists_congr
  intro m
  apply and_congr_right
  intro hboth
  obtain ⟨⟨hcLow, hcHigh⟩, hmLow, hmHigh⟩ := bounds_of_goTogether hboth
  rw [comesDownTo_intCast_iff hcLow hcHigh, comesDownTo_intCast_iff hmLow hmHigh]
  norm_cast

/-- The check of the sizes of a task. -/
def sizeCheck : Validator := .fargateTaskSize "sizes" "TaskCpu" "TaskMemory" "cpu"

open Recommendation

theorem checkScene_fargateTaskSize_eq_valid_iff_blanks :
  settingValue (taskOf "1024" " 2048.0 ").scene "TaskCpu" = .ok (.str "1024")
    ∧ settingValue (taskOf "1024" " 2048.0 ").scene "TaskMemory" = .ok (.str " 2048.0 ")
    ∧ (Value.str "1024").Denotes 1024 ∧ (Value.str " 2048.0 ").Denotes 2048
    ∧ GoTogether 1024 2048 ∧ checkScene (taskOf "1024" " 2048.0 ").scene sizeCheck = .ok .valid
  := by
  have hcpu : (Value.str "1024").Denotes 1024 := by
    exact_mod_cast Value.denotes_toString 1024
  have hmemory : (Value.str " 2048.0 ").Denotes 2048 := by
    have h := @Value.denotes_fraction [' '] ['2', '0', '4', '8'] ['0'] (by decide) (by decide)
      (by decide) (by decide)
    have hdigits : Numeral.digitsValue (['2', '0', '4', '8'] ++ ['0']) = 20480 := by decide +kernel
    rw [hdigits] at h
    norm_num at h
    exact h
  have hboth : GoTogether 1024 2048 :=
    ⟨multiples 2048 8192 1024, by decide +kernel, by decide +kernel⟩
  have hvalid := @checkScene_fargateTaskSize_eq_valid_iff (taskOf "1024" " 2048.0 ").scene "sizes"
    "TaskCpu" "TaskMemory" "cpu" _ _ _ _ rfl rfl hcpu hmemory
  refine ⟨rfl, rfl, hcpu, hmemory, hboth, ?_⟩
  apply (hvalid.2 ⟨1024, by norm_num⟩ ⟨2048, by norm_num⟩).mpr
  exact ⟨1024, 2048, hboth, by norm_num, by norm_num⟩

/-- A size that is not whole is valid. -/
theorem checkScene_half :
  settingValue (taskOf "256.5" "512").scene "TaskCpu" = .ok (.str "256.5")
    ∧ settingValue (taskOf "256.5" "512").scene "TaskMemory" = .ok (.str "512")
    ∧ (Value.str "256.5").Denotes (513 / 2) ∧ (Value.str "512").Denotes 512
    ∧ checkScene (taskOf "256.5" "512").scene sizeCheck = .ok .valid
    ∧ ¬ ∃ c m : Nat, GoTogether c m ∧ (513 / 2 : ℚ) = c ∧ (512 : ℚ) = m
  := by
  have hcpu : (Value.str "256.5").Denotes (513 / 2) := by
    have h := @Value.denotes_fraction [] ['2', '5', '6'] ['5'] (by decide) (by decide)
      (by decide) (by decide)
    have hdigits : Numeral.digitsValue (['2', '5', '6'] ++ ['5']) = 2565 := by decide +kernel
    rw [hdigits] at h
    norm_num at h
    exact h
  have hmemory : (Value.str "512").Denotes 512 := by
    exact_mod_cast Value.denotes_toString 512
  have hboth : GoTogether 256 512 :=
    ⟨["512", "1024", "2048"], by decide +kernel, by decide +kernel⟩
  refine ⟨rfl, rfl, hcpu, hmemory, ?_, ?_⟩
  · have hhalf : ComesDownTo (513 / 2) 256 := by
      have hlow : Nat.log2 (256 - 1) = 7 := by decide
      have hhigh : Nat.log2 (256 + 1 - 1) = 8 := by decide
      rw [ComesDownTo, roundedUpFrom, roundedUpFrom, hlow, hhigh]
      norm_num
    have hwhole : ComesDownTo (512 : Int) 512 :=
      (comesDownTo_intCast_iff (by decide) (by decide)).mpr rfl
    rw [sizeCheck, checkScene_eq_valid_iff_comesDownTo rfl rfl hcpu hmemory]
    exact ⟨256, 512, hboth, hhalf, by exact_mod_cast hwhole⟩
  · rintro ⟨c, m, -, hc, -⟩
    have hdouble : (513 : ℚ) = 2 * c := by linarith
    norm_cast at hdouble
    omega

end Validator
end DeploymentRecipes
