import DeploymentRecipes.Proofs.Number.Nearest
import DeploymentRecipes.Proofs.Recommendation.Validation

/-!
# Least and greatest

The check that one setting is at most another compares floating point numbers.  For integers, or for
their decimal texts, it goes by the order of the integers, but lets pass a greater least value that
has the floating point number of the greatest one.  Up to 53 binary digits there is none.
-/

namespace DeploymentRecipes

open Binary64

/-! ### Values that give integers -/

namespace Value

/-- A value is an integer or the decimal text of one. -/
inductive Gives : Value → Int → Prop
  | int (n : Int) : Gives (.int n) n
  | text (n : Int) : Gives (.str (toString n)) n

variable {v : Value} {n : Int}

theorem Gives.isNull_eq_false (h : v.Gives n) :
  v.isNull = false
  := by
  cases h <;> rfl

theorem Gives.toFloat_eq (h : v.Gives n) {x : Binary64} (hlimit : n.natAbs.log2 < 1000)
    (hx : ofInt? n = some x) :
  v.toFloat = .ok x
  := by
  cases h with
  | int => rw [toFloat, intToFloat, hx, Option.elim_some]
  | text => rw [toFloat, textToFloat, Numeral.readFloat?_toString hlimit, hx]

end Value

/-- An integer of at most 300 decimal digits has fewer than 1000 binary digits. -/
theorem log2_lt_of_digits {n : Nat} (h : n < 10 ^ 300) :
  n.log2 < 1000
  := by
  by_cases hn : n = 0
  · rw [hn]
    decide
  · rw [Nat.log2_lt hn]
    apply lt_of_lt_of_le h
    calc 10 ^ 300 = (10 ^ 3) ^ 100 := by rw [← pow_mul]
      _ ≤ (2 ^ 10) ^ 100 := Nat.pow_le_pow_left (by decide) 100
      _ = 2 ^ 1000 := by rw [← pow_mul]

namespace Validator

variable {scene : Setting.Scene} {message minId maxId : String} {least greatest : Value} {a b : Int}

/-- The message about a least value that is too great. -/
def orderMessage (message minId maxId : String) : String :=
  fill message [("MinValueOptionSettingsId", minId), ("MaxValueOptionSettingsId", maxId)]

/-- The floating point numbers of the integers are compared. -/
theorem checkScene_minMax_eq (hmin : settingValue scene minId = .ok least)
    (hmax : settingValue scene maxId = .ok greatest) (ha : least.Gives a) (hb : greatest.Gives b)
    (haLimit : a.natAbs.log2 < 1000) (hbLimit : b.natAbs.log2 < 1000) :
  checkScene scene (.minMax message minId maxId)
    = .ok (verdict (nearest a ≤ nearest b) (orderMessage message minId maxId))
  := by
  obtain ⟨m, s, hx, hxUnits⟩ := exists_ofInt?_eq haLimit
  obtain ⟨m', s', hy, hyUnits⟩ := exists_ofInt?_eq hbLimit
  have hle : (finite (decide (a < 0)) m s).le (finite (decide (b < 0)) m' s')
      = decide (nearest a ≤ nearest b) := by
    have hone : (0 : Int) < unitsPerOne := by exact_mod_cast unitsPerOne_pos
    rw [le, hxUnits, hyUnits]
    simp only [mul_le_mul_iff_left₀ hone]
  have hatMost : atMost least greatest = .ok (decide (nearest a ≤ nearest b)) := by
    rw [atMost, comparable?, comparable?, ha.toFloat_eq haLimit hx, hb.toFloat_eq hbLimit hy, ← hle]
    rfl
  rw [checkScene, checkMinMax, hmin, hmax]
  simp only [bind, Except.bind, ha.isNull_eq_false, hb.isNull_eq_false, hatMost, orderMessage]
  rfl

/-- Integers are in order for the check if they are, or if they have one floating point number; and
so it goes by their order if one of them has up to 53 binary digits. -/
theorem checkScene_minMax_eq_valid_iff (hmin : settingValue scene minId = .ok least)
    (hmax : settingValue scene maxId = .ok greatest) (ha : least.Gives a) (hb : greatest.Gives b)
    (haDigits : a.natAbs < 10 ^ 300) (hbDigits : b.natAbs < 10 ^ 300) :
  (checkScene scene (.minMax message minId maxId) = .ok .valid
      ↔ a ≤ b ∨ ∃ x, RoundsTo a x ∧ RoundsTo b x)
    ∧ (checkScene scene (.minMax message minId maxId)
        = .ok (.failed (orderMessage message minId maxId))
      ↔ b < a ∧ ¬ ∃ x, RoundsTo a x ∧ RoundsTo b x)
    ∧ (a.natAbs < 2 ^ 53 ∨ b.natAbs < 2 ^ 53 →
      (checkScene scene (.minMax message minId maxId) = .ok .valid ↔ a ≤ b))
  := by
  have hcheck := @checkScene_minMax_eq scene message minId maxId least greatest a b hmin hmax ha hb
    (log2_lt_of_digits haDigits) (log2_lt_of_digits hbDigits)
  have hpass : nearest a ≤ nearest b ↔ a ≤ b ∨ ∃ x, RoundsTo a x ∧ RoundsTo b x := by
    rw [exists_roundsTo_iff]
    constructor
    · intro h
      by_cases hab : a ≤ b
      · exact Or.inl hab
      · exact Or.inr (le_antisymm h (nearest_mono (by omega)))
    · rintro (hab | heq)
      · apply nearest_mono hab
      · exact le_of_eq heq
  have hvalid : checkScene scene (.minMax message minId maxId) = .ok .valid
      ↔ nearest a ≤ nearest b := by
    rw [hcheck, verdict]
    by_cases h : nearest a ≤ nearest b <;> simp [h]
  have hfailed : checkScene scene (.minMax message minId maxId)
      = .ok (.failed (orderMessage message minId maxId)) ↔ ¬ nearest a ≤ nearest b := by
    rw [hcheck, verdict]
    by_cases h : nearest a ≤ nearest b <;> simp [h]
  refine ⟨by rw [hvalid, hpass], by rw [hfailed, hpass, not_or, not_le], ?_⟩
  intro hsmall
  rw [hvalid, hpass, exists_roundsTo_iff, or_iff_left_iff_imp]
  intro heq
  rcases hsmall with hsmall | hsmall
  · exact le_of_eq (eq_of_nearest_eq hsmall heq)
  · exact le_of_eq (eq_of_nearest_eq hsmall heq.symm).symm

/-- The check that a processor size is not above a memory size. -/
def orderCheck : Validator := .minMax "too little memory" "TaskCpu" "TaskMemory"

open Recommendation

/-- Beyond 53 binary digits, with the greater integer first. -/
theorem checkScene_minMax_eq_valid_iff_apart :
  settingValue (taskOf "9007199254740995" "9007199254740993").scene "TaskCpu"
      = .ok (.str "9007199254740995")
    ∧ settingValue (taskOf "9007199254740995" "9007199254740993").scene "TaskMemory"
      = .ok (.str "9007199254740993")
    ∧ (Value.str "9007199254740995").Gives 9007199254740995
    ∧ (Value.str "9007199254740993").Gives 9007199254740993
    ∧ (9007199254740995 : Int).natAbs < 10 ^ 300 ∧ (9007199254740993 : Int).natAbs < 10 ^ 300
    ∧ checkScene (taskOf "9007199254740995" "9007199254740993").scene orderCheck
      = .ok (.failed (orderMessage "too little memory" "TaskCpu" "TaskMemory"))
  := by
  have hcpu : (Value.str "9007199254740995").Gives 9007199254740995 := Value.Gives.text 9007199254740995
  have hmemory : (Value.str "9007199254740993").Gives 9007199254740993 := Value.Gives.text 9007199254740993
  have hpower : 10 ^ 16 ≤ 10 ^ 300 := by
    apply Nat.pow_le_pow_right <;> decide
  have hcpuDigits : (9007199254740995 : Int).natAbs < 10 ^ 300 := lt_of_lt_of_le (by decide) hpower
  have hmemoryDigits : (9007199254740993 : Int).natAbs < 10 ^ 300 :=
    lt_of_lt_of_le (by decide) hpower
  obtain ⟨-, hfailed, -⟩ := @checkScene_minMax_eq_valid_iff
    (taskOf "9007199254740995" "9007199254740993").scene "too little memory" "TaskCpu" "TaskMemory"
    _ _ _ _ rfl rfl hcpu hmemory hcpuDigits hmemoryDigits
  refine ⟨rfl, rfl, hcpu, hmemory, hcpuDigits, hmemoryDigits, hfailed.mpr ⟨by decide, ?_⟩⟩
  rw [exists_roundsTo_iff]
  decide +kernel

/-- An integer passes for being at most the one below it. -/
theorem checkScene_neighbours :
  settingValue (taskOf "9007199254740993" "9007199254740992").scene "TaskCpu"
      = .ok (.str "9007199254740993")
    ∧ settingValue (taskOf "9007199254740993" "9007199254740992").scene "TaskMemory"
      = .ok (.str "9007199254740992")
    ∧ (Value.str "9007199254740993").Gives 9007199254740993
    ∧ (Value.str "9007199254740992").Gives 9007199254740992
    ∧ checkScene (taskOf "9007199254740993" "9007199254740992").scene orderCheck = .ok .valid
    ∧ ¬ (9007199254740993 : Int) ≤ 9007199254740992
  := by
  have hcpu : (Value.str "9007199254740993").Gives 9007199254740993 := Value.Gives.text 9007199254740993
  have hmemory : (Value.str "9007199254740992").Gives 9007199254740992 := Value.Gives.text 9007199254740992
  have hsame : nearest 9007199254740993 ≤ nearest 9007199254740992 := by decide +kernel
  refine ⟨rfl, rfl, hcpu, hmemory, ?_, by decide⟩
  rw [orderCheck, checkScene_minMax_eq rfl rfl hcpu hmemory (by decide +kernel) (by decide +kernel),
    verdict, if_pos (decide_eq_true hsame)]

end Validator
end DeploymentRecipes
