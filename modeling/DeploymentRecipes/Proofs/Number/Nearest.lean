import DeploymentRecipes.Proofs.Number.Decimal

/-!
# Integers among the floating point numbers

An integer of more than 53 binary digits is rounded to the nearest multiple of a power of two.  Its
floating point number, whether it is made from the integer or read from its decimal text, stands for
this multiple.  Rounding keeps the order of integers, but brings neighbours together.
-/

namespace DeploymentRecipes.Binary64

/-! ### The nearest multiple -/

section RoundDiv

variable {a b d k : Nat}

theorem roundDiv_mul_right (hk : 0 < k) :
  roundDiv (a * k) (b * k) = roundDiv a b
  := by
  have hless : b * k < 2 * (a % b * k) ↔ b < 2 * (a % b) := by
    rw [← mul_assoc, Nat.mul_lt_mul_right hk]
  have hhalf : 2 * (a % b * k) = b * k ↔ 2 * (a % b) = b := by
    rw [← mul_assoc, Nat.mul_left_inj hk.ne']
  rw [roundDiv_eq, roundDiv_eq, Nat.mul_div_mul_right a b hk, Nat.mul_mod_mul_right]
  simp only [hless, hhalf]

theorem roundDiv_mul_self (hd : 0 < d) :
  roundDiv (a * d) d = a
  := by
  rw [roundDiv_eq, Nat.mul_mod_left, Nat.mul_div_cancel a hd, if_neg]
  omega

theorem roundDiv_mono (h : a ≤ b) :
  roundDiv a d ≤ roundDiv b d
  := by
  rcases Nat.lt_or_eq_of_le (Nat.div_le_div_right (c := d) h) with hlt | heq
  · apply le_trans (roundDiv_le_succ a d)
    apply le_trans hlt (div_le_roundDiv b d)
  · have ha := Nat.div_add_mod a d
    have hb := Nat.div_add_mod b d
    rw [heq] at ha
    rw [roundDiv_eq, roundDiv_eq, heq]
    split <;> split <;> omega

/-- The multiple is off by half of the divisor at most, and if so it is an even one. -/
theorem two_mul_roundDiv_mul (hd : 0 < d) :
  2 * a ≤ 2 * (roundDiv a d * d) + d ∧ 2 * (roundDiv a d * d) ≤ 2 * a + d
    ∧ (2 * a = 2 * (roundDiv a d * d) + d ∨ 2 * (roundDiv a d * d) = 2 * a + d →
      2 ∣ roundDiv a d)
  := by
  have hdiv := Nat.div_add_mod a d
  have hmod := Nat.mod_lt a hd
  rw [mul_comm] at hdiv
  rw [roundDiv_eq]
  split
  · rw [add_mul, one_mul]
    omega
  · omega

end RoundDiv

/-! ### Rounded integers -/

theorem roundedUnits_one (n : Nat) :
  roundedUnits n 1 = roundDiv n (2 ^ shiftFor n) * 2 ^ shiftFor n
  := by
  rw [roundedUnits, Nat.div_one, one_mul]
  rfl

/-- Integers of up to 53 binary digits are not rounded. -/
theorem roundedUnits_of_lt {n : Nat} (h : n < 2 ^ 53) :
  roundedUnits n 1 = n
  := by
  have hshift : shiftFor n = 0 := by
    by_contra hne
    have hle := two_pow_shiftFor_le hne
    have hpower : 2 ^ 53 ≤ 2 ^ (shiftFor n + 52) := Nat.pow_le_pow_right (by decide) (by omega)
    omega
  have hself : roundDiv (n * 1) 1 = n := roundDiv_mul_self Nat.one_pos
  rw [mul_one] at hself
  rw [roundedUnits_one, hshift, pow_zero, mul_one, hself]

theorem roundedUnits_mono {a b : Nat} (h : a ≤ b) :
  roundedUnits a 1 ≤ roundedUnits b 1
  := by
  have halt := lt_two_pow_shiftFor a
  have hblt := lt_two_pow_shiftFor b
  have hale := two_pow_shiftFor_le (w := a)
  have hble := two_pow_shiftFor_le (w := b)
  rw [roundedUnits_one, roundedUnits_one]
  generalize shiftFor a = s at halt hale ⊢
  generalize shiftFor b = t at hblt hble ⊢
  rcases lt_trichotomy s t with hst | rfl | hts
  · -- the greatest number of one binade is the least of the next one
    have hdouble : 2 * 2 ^ s ≤ 2 ^ t := by
      rw [← Nat.pow_succ']
      apply Nat.pow_le_pow_right (by decide) hst
    have hlow : roundDiv a (2 ^ s) ≤ 2 ^ 53 := by
      apply le_trans (roundDiv_le_succ _ _)
      rw [Nat.succ_le_iff, Nat.div_lt_iff_lt_mul (Nat.two_pow_pos s), ← pow_add, add_comm]
      exact halt
    have hhigh : 2 ^ 52 ≤ roundDiv b (2 ^ t) := by
      apply le_roundDiv (Nat.two_pow_pos t)
      rw [← pow_add, add_comm]
      apply hble (by omega)
    have hleft := Nat.mul_le_mul_right (2 ^ s) hlow
    have hright := Nat.mul_le_mul_right (2 ^ t) hhigh
    omega
  · apply Nat.mul_le_mul_right
    apply roundDiv_mono h
  · have hpower : 2 ^ (t + 53) ≤ 2 ^ (s + 52) := Nat.pow_le_pow_right (by decide) (by omega)
    have hlow := hale (by omega)
    omega

/-- An integer is rounded in units as it is rounded in ones. -/
theorem roundedUnits_mul_unitsPerOne (n : Nat) :
  roundedUnits (n * unitsPerOne) 1 = roundedUnits n 1 * unitsPerOne
  := by
  by_cases hn : n = 0
  · rw [hn, zero_mul, roundedUnits_of_lt (by decide), zero_mul]
  obtain ⟨k, hk⟩ : ∃ k, k = 1074 := ⟨1074, rfl⟩
  have hunits : unitsPerOne = 2 ^ k := by
    rw [unitsPerOne_eq (n := 0) (k := k) (by omega), pow_zero, one_mul]
  have hlog : (n * 2 ^ k).log2 = n.log2 + k := by
    rw [Nat.log2_eq_iff (Nat.mul_ne_zero hn (Nat.two_pow_pos k).ne'), add_right_comm, pow_add, pow_add]
    constructor
    · apply Nat.mul_le_mul_right _ (Nat.log2_self_le hn)
    · apply Nat.mul_lt_mul_of_pos_right Nat.lt_log2_self (Nat.two_pow_pos k)
  rw [hunits, roundedUnits_one (n * 2 ^ k), shiftFor, hlog]
  by_cases hbig : 52 ≤ n.log2
  · have hshift : n.log2 + k + 1 - 53 = shiftFor n + k := by
      rw [shiftFor]
      omega
    rw [hshift, pow_add, roundDiv_mul_right (Nat.two_pow_pos k), ← mul_assoc, roundedUnits_one]
  · -- both ways nothing is rounded
    have hsmall : n < 2 ^ 53 := by
      apply lt_of_lt_of_le Nat.lt_log2_self
      apply Nat.pow_le_pow_right (by decide)
      omega
    obtain ⟨j, hj⟩ : ∃ j, k = j + (n.log2 + k + 1 - 53) := ⟨52 - n.log2, by omega⟩
    generalize n.log2 + k + 1 - 53 = t at hj ⊢
    rw [roundedUnits_of_lt hsmall, hj, pow_add, ← mul_assoc, roundDiv_mul_self (Nat.two_pow_pos t)]

/-! ### The floating point number of an integer -/

/-- The integer that the floating point number of an integer stands for. -/
def nearest (n : Int) : Int := if n < 0 then -(roundedUnits n.natAbs 1) else roundedUnits n.natAbs 1

theorem nearest_of_lt {n : Int} (h : n.natAbs < 2 ^ 53) :
  nearest n = n
  := by
  rw [nearest, roundedUnits_of_lt h]
  split <;> omega

theorem nearest_mono {a b : Int} (h : a ≤ b) :
  nearest a ≤ nearest b
  := by
  rw [nearest, nearest]
  split
  · split
    · have hmono := roundedUnits_mono (a := b.natAbs) (b := a.natAbs) (by omega)
      omega
    · omega
  · have hmono := roundedUnits_mono (a := a.natAbs) (b := b.natAbs) (by omega)
    split <;> omega

/-- An integer of up to 53 binary digits shares its floating point number with no other one. -/
theorem eq_of_nearest_eq {a b : Int} (ha : a.natAbs < 2 ^ 53) (h : nearest a = nearest b) :
  a = b
  := by
  rw [nearest_of_lt ha] at h
  by_cases hb : b.natAbs < 2 ^ 53
  · rw [h, nearest_of_lt hb]
  · have hlimit : roundedUnits (2 ^ 53) 1 = 2 ^ 53 := by decide +kernel
    have hmono := roundedUnits_mono (a := 2 ^ 53) (b := b.natAbs) (by omega)
    rw [hlimit] at hmono
    rw [nearest] at h
    split at h <;> omega

/-- The distance of the floating point numbers of the size of an integer, as far as these are
integers. -/
def spacing (n : Int) : Nat := 2 ^ (n.natAbs.log2 - 52)

/-- An integer is rounded to a multiple of the spacing that is nearest to it, and to the even one of
two that are equally near. -/
structure RoundsTo (n x : Int) : Prop where
  dvd : (spacing n : Int) ∣ x
  near : 2 * (x - n).natAbs ≤ spacing n
  even : 2 * (x - n).natAbs = spacing n → (2 * spacing n : Int) ∣ x

theorem roundsTo_nearest (n : Int) :
  RoundsTo n (nearest n)
  := by
  have hshift : shiftFor n.natAbs = n.natAbs.log2 - 52 := by
    rw [shiftFor]
    omega
  have hnearest : nearest n = if n < 0 then -((roundDiv n.natAbs (spacing n) * spacing n : Nat) : Int)
      else (roundDiv n.natAbs (spacing n) * spacing n : Nat) := by
    rw [nearest, roundedUnits_one, hshift]
    rfl
  obtain ⟨hbelow, habove, heven⟩ :=
    two_mul_roundDiv_mul (a := n.natAbs) (Nat.two_pow_pos (n.natAbs.log2 - 52))
  rw [← spacing] at hbelow habove heven
  constructor
  · have hdvd : (spacing n : Int) ∣ (roundDiv n.natAbs (spacing n) * spacing n : Nat) := by
      rw [Int.natCast_dvd_natCast]
      apply Nat.dvd_mul_left
    rw [hnearest]
    split
    · rwa [Int.dvd_neg]
    · exact hdvd
  · rw [hnearest]
    split <;> omega
  · intro htie
    have hdvd : (2 * spacing n : Int) ∣ (roundDiv n.natAbs (spacing n) * spacing n : Nat) := by
      have htwo : 2 * spacing n ∣ roundDiv n.natAbs (spacing n) * spacing n := by
        apply Nat.mul_dvd_mul_right
        apply heven
        rw [hnearest] at htie
        split at htie <;> omega
      exact_mod_cast htwo
    rw [hnearest]
    split
    · rwa [Int.dvd_neg]
    · exact hdvd

theorem RoundsTo.unique {n x y : Int} (hx : RoundsTo n x) (hy : RoundsTo n y) :
  x = y
  := by
  have hpos : 0 < spacing n := Nat.two_pow_pos _
  have hxnear := hx.near
  have hynear := hy.near
  have hdvd : spacing n ∣ (x - y).natAbs := by
    rw [← Int.natCast_dvd]
    apply dvd_sub hx.dvd hy.dvd
  by_contra hne
  -- two multiples that differ and are both nearest are both even, but only one spacing apart
  have hle := Nat.le_of_dvd (by omega) hdvd
  have htwice : 2 * spacing n ∣ (x - y).natAbs := by
    rw [← Int.natCast_dvd]
    push_cast
    apply dvd_sub (hx.even (by omega)) (hy.even (by omega))
  have htwiceLe := Nat.le_of_dvd (by omega) htwice
  omega

theorem roundsTo_iff {n x : Int} :
  RoundsTo n x ↔ x = nearest n
  := by
  constructor
  · intro h
    exact h.unique (roundsTo_nearest n)
  · rintro rfl
    exact roundsTo_nearest n

/-- Two integers have one floating point number if they are rounded to one integer. -/
theorem exists_roundsTo_iff {a b : Int} :
  (∃ x, RoundsTo a x ∧ RoundsTo b x) ↔ nearest a = nearest b
  := by
  simp only [roundsTo_iff]
  constructor
  · rintro ⟨x, rfl, hb⟩
    exact hb
  · intro h
    exact ⟨nearest a, rfl, h⟩

theorem eq_of_finite?_eq {x y : Binary64} (h : x.finite? = some y) :
  x = y
  := by
  cases x with
  | finite negative m s => exact Option.some.inj h
  | _ => cases h

/-- The floating point number of an integer that is in its range. -/
theorem exists_ofInt?_eq {n : Int} (h : n.natAbs.log2 < 1000) :
  ∃ m s, ofInt? n = some (finite (decide (n < 0)) m s)
    ∧ units (decide (n < 0)) m s = nearest n * unitsPerOne
  := by
  have hmake : ofRatio (decide (n < 0)) n.natAbs 1 = make (decide (n < 0))
      (roundDiv (n.natAbs * unitsPerOne) (1 * 2 ^ shiftFor (n.natAbs * unitsPerOne / 1)))
      (shiftFor (n.natAbs * unitsPerOne / 1)) := by
    rw [ofRatio, roundUnits]
    rfl
  rcases make_cases (decide (n < 0))
      (roundDiv (n.natAbs * unitsPerOne) (1 * 2 ^ shiftFor (n.natAbs * unitsPerOne / 1)))
      (shiftFor (n.natAbs * unitsPerOne / 1)) with ⟨-, hshift⟩ | ⟨m, s, hfinite, hm⟩
  · -- the shift is too small for an infinite number
    rw [Nat.div_one] at hshift
    have hle := two_pow_shiftFor_le (w := n.natAbs * unitsPerOne) (by omega)
    generalize shiftFor (n.natAbs * unitsPerOne) = t at hshift hle
    obtain ⟨k, hk⟩ : ∃ k, k = 1074 := ⟨1074, rfl⟩
    have hunits : unitsPerOne = 2 ^ k := by
      rw [unitsPerOne_eq (n := 0) (k := k) (by omega), pow_zero, one_mul]
    have hlt : n.natAbs * 2 ^ k < 2 ^ (n.natAbs.log2 + 1) * 2 ^ k :=
      Nat.mul_lt_mul_of_pos_right Nat.lt_log2_self (Nat.two_pow_pos k)
    rw [hunits] at hle
    rw [← pow_add] at hlt
    have hexponent := (Nat.pow_lt_pow_iff_right (by decide)).mp (lt_of_le_of_lt hle hlt)
    omega
  · have hvalue := hmake.trans hfinite
    refine ⟨m, s, by rw [ofInt?, hvalue, finite?], ?_⟩
    have hrounded : magnitude m s = roundedUnits n.natAbs 1 * unitsPerOne := by
      rw [← roundedUnits_mul_unitsPerOne, hm]
      rfl
    rw [units, nearest, hrounded]
    generalize unitsPerOne = unitsOfOne
    by_cases hn : n < 0
    · simp [hn]
    · simp [hn]

end DeploymentRecipes.Binary64

namespace DeploymentRecipes.Numeral

open Binary64

/-- A number below `2 ^ 1000` has few digits. -/
theorem Fraction.IsCounted.count_lt {f : Fraction} (hf : f.IsCounted) (hzero : f.value ≠ 0)
    (h : f.value.log2 < 1000) :
  f.count < 400
  := by
  have hdigits : 2 ^ (3 * f.count) ≤ 10 ^ f.count := by
    rw [pow_mul]
    apply Nat.pow_le_pow_left (by decide)
  have hvalue : f.value < 2 ^ (f.value.log2 + 1) := Nat.lt_log2_self
  have hlt : 2 ^ (3 * f.count) < 2 ^ (f.value.log2 + 5) := by
    have hle := hf.le hzero
    rw [pow_add] at hvalue ⊢
    omega
  have hexponent := (Nat.pow_lt_pow_iff_right (by decide)).mp hlt
  omega

/-- The text of an integer is read as the floating point number of the integer. -/
theorem readFloat?_toString {n : Int} (h : n.natAbs.log2 < 1000) :
  readFloat? (toString n) = ofInt? n
  := by
  have hstrip : Text.strip (toString n) = toString n := by
    rw [← Decimal.text_ofInt, Decimal.strip_text, Decimal.text]
    simp [Decimal.ofInt]
  have hread := (Decimal.ofInt n).readFloat?_strip_text
  have hcounted := (Decimal.ofInt n).isCounted_toFraction
  have hvalue : (Decimal.ofInt n).toFraction.value = n.natAbs := by
    have hdigits : (Decimal.ofInt n).digits = Nat.toDigits 10 n.natAbs := List.append_nil _
    rw [Decimal.toFraction, hdigits, Decimal.digitsValue_toDigits]
  have hplaces : (Decimal.ofInt n).toFraction.places = 0 := rfl
  have hsign : decide ((Decimal.ofInt n).sign = some '-') = decide (n < 0) := by
    by_cases hn : n < 0 <;> simp [Decimal.ofInt, hn]
  rw [Decimal.text_ofInt, hstrip, hsign] at hread
  rw [hread]
  generalize (Decimal.ofInt n).toFraction = f at hcounted hvalue hplaces ⊢
  by_cases hzero : f.value = 0
  · have hn : n = 0 := by omega
    have hnone : ofInt? 0 = some (finite false 0 0) := by decide +kernel
    rw [Fraction.toBinary, if_pos hzero, hn, hnone]
    rfl
  · have hfew := hcounted.count_lt hzero (by rwa [hvalue])
    obtain ⟨m, s, hofInt, -⟩ := exists_ofInt?_eq h
    have hratio := eq_of_finite?_eq hofInt
    rw [hofInt, Fraction.toBinary, hplaces, if_neg hzero, if_neg (by omega), if_neg (by omega),
      if_neg (by omega), hvalue, ← hratio]
    simp

end DeploymentRecipes.Numeral
