import DeploymentRecipes.Number.Binary64
import Mathlib.Algebra.Order.Field.Basic
import Mathlib.Algebra.Order.Ring.Nat
import Mathlib.Data.Nat.Log
import Mathlib.Data.Rat.Cast.Order
import Mathlib.Tactic.FieldSimp
import Mathlib.Tactic.Linarith
import Mathlib.Tactic.Positivity
import Mathlib.Tactic.Ring

/-!
# Rounding a quotient

A quotient rounded to the nearest number reaches a number of even significand from half a unit below
it on.  So the whole part of the rounded quotient is a whole number just where the quotient lies
between two bounds that are slightly below this number and the next one.
-/

namespace DeploymentRecipes.Binary64

/-! ### The nearest natural number -/

section RoundDiv

variable {a b n : Nat}

theorem roundDiv_eq (a b : Nat) :
  roundDiv a b = if b < 2 * (a % b) ∨ 2 * (a % b) = b ∧ a / b % 2 = 1 then a / b + 1 else a / b
  := by
  simp [roundDiv]

theorem div_le_roundDiv (a b : Nat) :
  a / b ≤ roundDiv a b
  := by
  rw [roundDiv_eq]
  split <;> omega

theorem roundDiv_le_succ (a b : Nat) :
  roundDiv a b ≤ a / b + 1
  := by
  rw [roundDiv_eq]
  split <;> omega

theorem le_roundDiv (hb : 0 < b) (h : n * b ≤ a) :
  n ≤ roundDiv a b
  := by
  apply le_trans _ (div_le_roundDiv a b)
  rwa [Nat.le_div_iff_mul_le hb]

/-- An even number is reached from halfway below it on. -/
theorem le_roundDiv_iff_of_even (hn : Even n) (hb : 0 < b) :
  n ≤ roundDiv a b ↔ 2 * (n * b) ≤ 2 * a + b
  := by
  have hdiv := Nat.div_add_mod a b
  have hmod := Nat.mod_lt a hb
  rw [mul_comm] at hdiv
  have heven := Nat.even_iff.mp hn
  rcases lt_trichotomy n (a / b + 1) with hlt | rfl | hgt
  · have hle : n * b ≤ a / b * b := Nat.mul_le_mul_right b (by omega)
    have hround := div_le_roundDiv a b
    constructor <;> intro <;> omega
  · -- the number above the quotient is even, so the one below it is odd
    rw [roundDiv_eq, add_mul, one_mul]
    split <;> constructor <;> intro <;> omega
  · have hle : (a / b + 2) * b ≤ n * b := Nat.mul_le_mul_right b (by omega)
    rw [add_mul] at hle
    have hround := roundDiv_le_succ a b
    constructor <;> intro <;> omega

end RoundDiv

/-! ### The nearest number -/

theorem lt_two_pow_shiftFor (w : Nat) :
  w < 2 ^ (shiftFor w + 53)
  := by
  apply lt_of_lt_of_le (Nat.lt_log2_self (n := w))
  apply Nat.pow_le_pow_right (by decide)
  rw [shiftFor]
  omega

theorem two_pow_shiftFor_le {w : Nat} (h : shiftFor w ≠ 0) :
  2 ^ (shiftFor w + 52) ≤ w
  := by
  have hw : w ≠ 0 := by
    rintro rfl
    exact h rfl
  have hshift : shiftFor w + 52 = w.log2 := by
    rw [shiftFor] at h ⊢
    omega
  rw [hshift]
  exact Nat.log2_self_le hw

/-- The magnitude of a quotient rounded to the nearest number, in units. -/
def roundedUnits (a b : Nat) : Nat :=
  magnitude (roundDiv a (b * 2 ^ shiftFor (a / b))) (shiftFor (a / b))

/-- A number of even significand is reached from half a unit below it on. -/
theorem le_roundedUnits_iff {a b m s : Nat} (hb : 0 < b) (heven : Even m) (hlow : 2 ^ 52 < m)
    (hhigh : m ≤ 2 ^ 53) :
  m * 2 ^ s ≤ roundedUnits a b ↔ 2 * (m * (2 ^ s * b)) ≤ 2 * a + 2 ^ s * b
  := by
  have hlt := lt_two_pow_shiftFor (a / b)
  have hle := two_pow_shiftFor_le (w := a / b)
  have hunit : roundedUnits a b
      = roundDiv a (2 ^ shiftFor (a / b) * b) * 2 ^ shiftFor (a / b) := by
    rw [mul_comm _ b]
    rfl
  rw [hunit]
  generalize shiftFor (a / b) = t at hlt hle ⊢
  have hs := Nat.two_pow_pos s
  have htb : 0 < 2 ^ t * b := Nat.mul_pos (Nat.two_pow_pos t) hb
  rcases lt_trichotomy t s with hts | rfl | hst
  · -- the quotient lies in a lower binade
    have hdouble : 2 * 2 ^ t ≤ 2 ^ s := by
      rw [← Nat.pow_succ']
      apply Nat.pow_le_pow_right (by decide) hts
    have ha : a < 2 ^ 53 * (2 ^ t * b) := by
      rw [Nat.div_lt_iff_lt_mul hb, pow_add] at hlt
      linarith
    have hround : roundDiv a (2 ^ t * b) ≤ 2 ^ 53 := by
      apply le_trans (roundDiv_le_succ _ _)
      rwa [Nat.succ_le_iff, Nat.div_lt_iff_lt_mul htb]
    have hm : (2 ^ 52 + 1) * (2 ^ s * b) ≤ m * (2 ^ s * b) := Nat.mul_le_mul_right _ hlow
    have hb' : 2 * (2 ^ t * b) ≤ 2 ^ s * b := by nlinarith
    constructor
    · intro h
      have hms : (2 ^ 52 + 1) * 2 ^ s ≤ m * 2 ^ s := Nat.mul_le_mul_right _ hlow
      have hrs := Nat.mul_le_mul_right (2 ^ t) hround
      omega
    · intro h
      omega
  · have hiff := le_roundDiv_iff_of_even (a := a) heven htb
    rw [← hiff, Nat.mul_le_mul_right_iff (Nat.two_pow_pos t)]
  · -- the quotient lies in a higher binade
    have hdouble : 2 * 2 ^ s ≤ 2 ^ t := by
      rw [← Nat.pow_succ']
      apply Nat.pow_le_pow_right (by decide) hst
    have ha : 2 ^ 52 * (2 ^ t * b) ≤ a := by
      have h := hle (by omega)
      rw [Nat.le_div_iff_mul_le hb, pow_add] at h
      linarith
    have hround : 2 ^ 52 ≤ roundDiv a (2 ^ t * b) := le_roundDiv htb ha
    have hm : m * (2 ^ s * b) ≤ 2 ^ 53 * (2 ^ s * b) := Nat.mul_le_mul_right _ hhigh
    have hb' : 2 * (2 ^ s * b) ≤ 2 ^ t * b := by nlinarith
    constructor
    · intro
      omega
    · intro
      have hms : m * 2 ^ s ≤ 2 ^ 53 * 2 ^ s := Nat.mul_le_mul_right _ hhigh
      have hrs := Nat.mul_le_mul_right (2 ^ t) hround
      omega

theorem make_cases (negative : Bool) (m s : Nat) :
  (make negative m s = .infinite negative ∧ 2045 ≤ s)
    ∨ ∃ m' s', make negative m s = .finite negative m' s' ∧ magnitude m' s' = magnitude m s
  := by
  by_cases hm : m = 2 * leastSignificand
  · by_cases hs : s + 1 > 2045
    · left
      simp only [make, if_pos hm, if_pos hs, true_and]
      omega
    · right
      use leastSignificand, s + 1
      constructor
      · simp only [make, if_pos hm, if_neg hs]
      · rw [magnitude, magnitude, hm, mul_comm 2, mul_assoc]
        congr 1
        apply Nat.pow_succ'
  · by_cases hs : s > 2045
    · left
      simp only [make, if_neg hm, if_pos hs, true_and]
      omega
    · right
      use m, s
      simp only [make, if_neg hm, if_neg hs, true_and]

theorem unitsPerOne_eq {n k : Nat} (h : n + k = 1074) :
  unitsPerOne = 2 ^ n * 2 ^ k
  := by
  unfold unitsPerOne
  rw [← pow_add, ← h]
  rfl

theorem unitsPerOne_pos :
  0 < unitsPerOne
  := by
  rw [unitsPerOne_eq (Nat.add_zero 1074)]
  positivity

theorem unitsPerOne_le {k : Nat} (h : 1074 ≤ k) :
  unitsPerOne ≤ 2 ^ k
  := by
  generalize hn : 1074 = n at h
  rw [unitsPerOne_eq (n := 0) (k := n) (by omega), pow_zero, one_mul]
  apply Nat.pow_le_pow_right (by decide) h

/-- A rounded quotient is finite, unless the quotient is huge. -/
theorem roundUnits_cases (negative : Bool) (a b : Nat) :
  (roundUnits negative a b = .infinite negative ∧ 2 ^ 52 * unitsPerOne ≤ a / b)
    ∨ ∃ m s, roundUnits negative a b = .finite negative m s ∧ magnitude m s = roundedUnits a b
  := by
  rcases make_cases negative (roundDiv a (b * 2 ^ shiftFor (a / b))) (shiftFor (a / b)) with
    ⟨hmake, hshift⟩ | hfinite
  · left
    constructor
    · exact hmake
    · have hunits : unitsPerOne ≤ 2 ^ shiftFor (a / b) := unitsPerOne_le (by omega)
      have hlow := two_pow_shiftFor_le (w := a / b) (by omega)
      rw [pow_add, mul_comm] at hlow
      exact le_trans (Nat.mul_le_mul_left _ hunits) hlow
  · right
    exact hfinite

/-! ### The whole part of a rounded quotient -/

theorem truncate?_finite_eq_some_iff {negative : Bool} {m s c : Nat} (hc : 0 < c) :
  truncate? (.finite negative m s) = some (c : Int)
    ↔ negative = false ∧ c * unitsPerOne ≤ magnitude m s
      ∧ magnitude m s < (c + 1) * unitsPerOne
  := by
  have hone := unitsPerOne_pos
  rw [truncate?, Option.some_inj, units, ← Nat.le_div_iff_mul_le hone, ← Nat.div_lt_iff_lt_mul hone]
  generalize hwhole : magnitude m s / unitsPerOne = w
  have hdiv : Int.tdiv (magnitude m s) unitsPerOne = (w : Int) := by
    rw [← Int.ofNat_tdiv, hwhole]
  cases negative with
  | true =>
      rw [if_pos rfl, Int.neg_tdiv, hdiv]
      simp only [Bool.true_eq_false, false_and, iff_false]
      omega
  | false =>
      rw [if_neg Bool.false_ne_true, hdiv]
      simp only [true_and]
      omega

/-- For a whole number above one, the least number that is rounded to it or beyond. -/
def roundedUpFrom (n : Nat) : ℚ := n - 2 ^ Nat.log2 (n - 1) / 2 ^ 53

theorem mul_le_mul_add_iff {a b c p u : Nat} (hu : 0 < u) :
  2 * (c * p * (u * b)) ≤ 2 * (a * (p * u)) + u * b ↔ 2 * p * c * b ≤ 2 * p * a + b
  := by
  have hleft : 2 * (c * p * (u * b)) = u * (2 * p * c * b) := by ring
  have hright : 2 * (a * (p * u)) + u * b = u * (2 * p * a + b) := by ring
  rw [hleft, hright, Nat.mul_le_mul_left_iff hu]

theorem le_add_iff_sub_le_div {a b c k p : Nat} (hb : 0 < b) (hp : 0 < p)
    (hsplit : 2 ^ k * p = 2 ^ 52) :
  2 * p * c * b ≤ 2 * p * a + b ↔ (c : ℚ) - 2 ^ k / 2 ^ 53 ≤ (a : ℚ) / b
  := by
  have hb' : (0 : ℚ) < b := by exact_mod_cast hb
  have hp' : (0 : ℚ) < 2 * p := by positivity
  have hsplit' : (2 : ℚ) ^ k * p = 2 ^ 52 := by exact_mod_cast hsplit
  have hhalf : (2 : ℚ) ^ k / 2 ^ 53 = 1 / (2 * p) := by
    rw [div_eq_div_iff (by positivity) hp'.ne']
    linarith
  have hbelow : ((c : ℚ) - 1 / (2 * p)) * b = (2 * p * c * b - b) / (2 * p) := by
    field_simp
  rw [hhalf, le_div_iff₀ hb', hbelow, div_le_iff₀ hp', ← Nat.cast_le (α := ℚ)]
  push_cast
  constructor <;> intro <;> linarith

/-- A rounded quotient reaches a whole number just where the quotient reaches its bound. -/
theorem le_roundedUnits_mul_iff {a b c : Nat} (hb : 0 < b) (hc : 1 < c) (hlimit : c ≤ 2 ^ 52) :
  c * unitsPerOne ≤ roundedUnits (a * unitsPerOne) b ↔ roundedUpFrom c ≤ (a : ℚ) / b
  := by
  have hlow : 2 ^ (c - 1).log2 ≤ c - 1 := Nat.log2_self_le (by omega)
  have hhigh : c - 1 < 2 ^ ((c - 1).log2 + 1) := Nat.lt_log2_self
  rw [roundedUpFrom]
  generalize (c - 1).log2 = k at hlow hhigh ⊢
  have hk : k < 52 := by
    by_contra hk
    have hpower : 2 ^ 52 ≤ 2 ^ k := Nat.pow_le_pow_right (by decide) (not_lt.mp hk)
    omega
  have hsplit : 2 ^ k * 2 ^ (52 - k) = 2 ^ 52 := by
    rw [← pow_add]
    congr 1
    omega
  -- `c` as a number: an even significand of 53 digits with its shift
  have hone : unitsPerOne = 2 ^ (52 - k) * 2 ^ (k + 1022) := unitsPerOne_eq (by omega)
  have hunits : c * unitsPerOne = c * 2 ^ (52 - k) * 2 ^ (k + 1022) := by
    rw [hone, mul_assoc]
  have heven : Even (c * 2 ^ (52 - k)) := by
    apply Even.mul_left
    rw [Nat.even_pow]
    exact ⟨even_two, by omega⟩
  rw [hunits, le_roundedUnits_iff hb heven]
  · rw [hone, mul_le_mul_add_iff (Nat.two_pow_pos (k + 1022))]
    apply le_add_iff_sub_le_div hb (Nat.two_pow_pos (52 - k)) hsplit
  · rw [← hsplit]
    apply Nat.mul_lt_mul_of_pos_right (by omega) (Nat.two_pow_pos _)
  · have hdouble : 2 ^ 53 = 2 ^ (k + 1) * 2 ^ (52 - k) := by
      rw [pow_succ 2 k, mul_right_comm, hsplit]
      norm_num
    rw [hdouble]
    apply Nat.mul_le_mul_right
    omega

theorem roundedUpFrom_le (n : Nat) :
  roundedUpFrom n ≤ n
  := by
  rw [roundedUpFrom]
  have hpositive : (0 : ℚ) < 2 ^ Nat.log2 (n - 1) / 2 ^ 53 := by positivity
  linarith

theorem roundedUpFrom_le_div {a b n : Nat} (hb : 0 < b) (h : n * b ≤ a) :
  roundedUpFrom n ≤ (a : ℚ) / b
  := by
  apply le_trans (roundedUpFrom_le n)
  rw [le_div_iff₀ (by exact_mod_cast hb)]
  exact_mod_cast h

theorem sub_one_lt_roundedUpFrom {n : Nat} (hn : 1 < n) (hlimit : n ≤ 2 ^ 52) :
  (n : ℚ) - 1 < roundedUpFrom n
  := by
  have hlog : 2 ^ (n - 1).log2 ≤ n - 1 := Nat.log2_self_le (by omega)
  have hpower : 2 ^ (n - 1).log2 < 2 ^ 53 := by omega
  have hpower' : (2 : ℚ) ^ (n - 1).log2 < 2 ^ 53 := by exact_mod_cast hpower
  have hquotient : (2 : ℚ) ^ (n - 1).log2 / 2 ^ 53 < 1 := by
    rwa [div_lt_one (by positivity)]
  rw [roundedUpFrom]
  linarith

/-- A number comes down to a whole number, for whole numbers above one, if that is the whole part of
the nearest floating point number. -/
def ComesDownTo (q : ℚ) (n : Nat) : Prop := roundedUpFrom n ≤ q ∧ q < roundedUpFrom (n + 1)

theorem not_comesDownTo_of_lt_one {q : ℚ} {n : Nat} (hn : 1 < n) (hlimit : n ≤ 2 ^ 52) (hq : q < 1) :
  ¬ ComesDownTo q n
  := by
  have hlow := sub_one_lt_roundedUpFrom hn hlimit
  have hn' : (2 : ℚ) ≤ n := by exact_mod_cast hn
  rintro ⟨hfrom, -⟩
  linarith

/-- Only whole numbers come down to themselves among the whole numbers. -/
theorem comesDownTo_intCast_iff {z : Int} {n : Nat} (hn : 1 < n) (hlimit : n < 2 ^ 52) :
  ComesDownTo z n ↔ z = n
  := by
  have hlow := sub_one_lt_roundedUpFrom hn hlimit.le
  have hnext := sub_one_lt_roundedUpFrom (n := n + 1) (by omega) hlimit
  have hhigh := roundedUpFrom_le n
  have hnextHigh := roundedUpFrom_le (n + 1)
  push_cast at hnext hnextHigh
  constructor
  · rintro ⟨hfrom, hbelow⟩
    have habove : (n : ℚ) < z + 1 := by linarith
    have hunder : (z : ℚ) < n + 1 := by linarith
    norm_cast at habove hunder
    omega
  · rintro rfl
    rw [Int.cast_natCast]
    constructor <;> linarith

theorem mul_le_of_mul_le_div {a b n u : Nat} (hb : 0 < b) (hu : 0 < u) (h : n * u ≤ a * u / b) :
  n * b ≤ a
  := by
  rwa [Nat.le_div_iff_mul_le hb, mul_right_comm, Nat.mul_le_mul_right_iff hu] at h

/-- The whole part of a rounded quotient. -/
theorem truncate?_ofRatio_eq_some_iff {negative : Bool} {a b c : Nat} (hb : 0 < b) (hc : 1 < c)
    (hlimit : c < 2 ^ 52) :
  (ofRatio negative a b).truncate? = some (c : Int)
    ↔ negative = false ∧ ComesDownTo ((a : ℚ) / b) c
  := by
  rw [ofRatio]
  rcases roundUnits_cases negative (a * unitsPerOne) b with ⟨hinfinite, hhuge⟩ | ⟨m, s, hfinite, hm⟩
  · have hbeyond : roundedUpFrom (c + 1) ≤ (a : ℚ) / b := by
      apply roundedUpFrom_le_div hb
      apply le_trans (Nat.mul_le_mul_right b hlimit)
      apply mul_le_of_mul_le_div hb unitsPerOne_pos hhuge
    rw [hinfinite]
    simp only [truncate?, reduceCtorEq, false_iff]
    rintro ⟨-, -, hbelow⟩
    linarith
  · rw [hfinite, truncate?_finite_eq_some_iff (by omega), hm, le_roundedUnits_mul_iff hb hc hlimit.le,
      ← not_le, le_roundedUnits_mul_iff hb (by omega) hlimit, not_le]
    rfl

end DeploymentRecipes.Binary64
