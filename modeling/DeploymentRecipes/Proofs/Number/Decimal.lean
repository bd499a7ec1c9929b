import DeploymentRecipes.Number.Numeral
import DeploymentRecipes.Proofs.Number.Rounding
import DeploymentRecipes.Proofs.Text.Trim

/-!
# Decimal numerals

A numeral in decimal digits of any script, with an optional sign and fraction and with blanks around
it, is read as the floating point number nearest to its value.
-/

namespace DeploymentRecipes

/-! ### Digits -/

namespace Numeral

theorem exists_zero_of_digitValue {c : Char} {d : Nat} (h : Text.digitValue? c = some d) :
  ∃ z ∈ Text.digitZeros, c.toNat = z + d ∧ d < 10
  := by
  rw [Text.digitValue?, Option.map_eq_some_iff] at h
  obtain ⟨z, hfind, rfl⟩ := h
  have hrange := List.find?_some hfind
  simp only [Bool.and_eq_true, decide_eq_true_eq] at hrange
  exact ⟨z, List.mem_of_find?_eq_some hfind, by omega, by omega⟩

theorem isBlank_of_isDigit {c : Char} (h : Text.isDigit c = true) :
  Text.isBlank c = false
  := by
  obtain ⟨d, hd⟩ := Option.isSome_iff_exists.mp h
  obtain ⟨z, hz, hc, hlt⟩ := exists_zero_of_digitValue hd
  have hall : ∀ z ∈ Text.digitZeros, ∀ d < 10, Text.inRanges Text.blankRanges (z + d) = false := by
    decide +kernel
  rw [Text.isBlank, hc, hall z hz d hlt]

/-- A digit of any script is read as the ASCII digit of its value. -/
theorem asciiDigit_of_digitValue {c : Char} {d : Nat} (h : Text.digitValue? c = some d) :
  asciiDigit c = Nat.digitChar d
  := by
  obtain ⟨z, hz, hc, hlt⟩ := exists_zero_of_digitValue h
  rw [asciiDigit]
  split
  · have hall : ∀ z ∈ Text.digitZeros, z < 0x80 → z = 48 := by decide
    have hzero := hall z hz (by omega)
    apply Char.toNat_inj.mp
    rw [hc, hzero, Nat.toNat_digitChar_of_lt_ten hlt]
  · rw [h]

/-- The value of a digit. -/
def digitAt (c : Char) : Nat := (Text.digitValue? c).getD 0

/-- The value of decimal digits of any script. -/
def digitsValue (cs : List Char) : Nat := cs.foldl (fun n c => n * 10 + digitAt c) 0

theorem isDigit_asciiDigit {c : Char} (h : Text.isDigit c = true) :
  (asciiDigit c).isDigit = true ∧ (asciiDigit c).toNat - 48 = digitAt c
  := by
  obtain ⟨d, hd⟩ := Option.isSome_iff_exists.mp h
  obtain ⟨-, -, -, hlt⟩ := exists_zero_of_digitValue hd
  rw [asciiDigit_of_digitValue hd, Nat.isDigit_digitChar, digitAt, hd, Nat.toNat_digitChar_of_lt_ten hlt]
  simp [hlt]

theorem valueOf_map_asciiDigit {cs : List Char} (h : ∀ c ∈ cs, Text.isDigit c = true) :
  valueOf (cs.map asciiDigit) = digitsValue cs
  := by
  rw [valueOf, digitsValue, List.foldl_map]
  apply List.foldl_ext
  intro n c hc
  rw [(isDigit_asciiDigit (h c hc)).2]

/-! ### The size of a value -/

theorem foldl_digit (cs : List Char) (n : Nat) :
  cs.foldl (fun n c => n * 10 + (c.toNat - 48)) n = n * 10 ^ cs.length + valueOf cs
  := by
  induction cs generalizing n with
  | nil => simp [valueOf]
  | cons c cs ih =>
      have hvalue : valueOf (c :: cs) = (0 * 10 + (c.toNat - 48)) * 10 ^ cs.length + valueOf cs :=
        ih _
      rw [List.foldl_cons, ih, hvalue, List.length_cons]
      ring

theorem valueOf_cons (c : Char) (cs : List Char) :
  valueOf (c :: cs) = (c.toNat - 48) * 10 ^ cs.length + valueOf cs
  := by
  rw [valueOf, List.foldl_cons, foldl_digit]
  ring

theorem valueOf_lt {cs : List Char} (h : ∀ c ∈ cs, c.isDigit = true) :
  valueOf cs < 10 ^ cs.length
  := by
  induction cs with
  | nil => simp [valueOf]
  | cons c cs ih =>
      rw [List.forall_mem_cons] at h
      have hc := Char.isDigit_iff_toNat.mp h.1
      have hdigit : c.toNat - 48 ≤ 9 := by
        have hnine : '9'.toNat = 57 := rfl
        omega
      have hlt := ih h.2
      have hle := Nat.mul_le_mul_right (10 ^ cs.length) hdigit
      rw [valueOf_cons, List.length_cons, pow_succ]
      omega

/-- The number of digits that is counted fits the value. -/
structure Fraction.IsCounted (f : Fraction) : Prop where
  lt : f.value < 10 ^ f.count
  le : f.value ≠ 0 → 10 ^ f.count ≤ 10 * f.value

theorem isCounted_of_isDigit {cs : List Char} (h : ∀ c ∈ cs, c.isDigit = true) (places : Nat) :
  Fraction.IsCounted ⟨valueOf cs, (cs.dropWhile (· == '0')).length, places⟩
  := by
  induction cs with
  | nil => exact ⟨by simp [valueOf], by simp [valueOf]⟩
  | cons c cs ih =>
      have htail := List.forall_mem_cons.mp h
      by_cases hzero : c = '0'
      · subst hzero
        have hvalue : valueOf ('0' :: cs) = valueOf cs := by
          rw [valueOf_cons]
          simp
        rw [hvalue, List.dropWhile_cons_of_pos (by rfl)]
        apply ih htail.2
      · rw [List.dropWhile_cons_of_neg (by simpa using hzero)]
        constructor
        · apply valueOf_lt h
        · intro
          have hc := Char.isDigit_iff_toNat.mp htail.1
          have hdigit : 1 ≤ c.toNat - 48 := by
            have hne : c.toNat ≠ 48 := fun heq => hzero (Char.toNat_inj.mp heq)
            have hnought : '0'.toNat = 48 := rfl
            omega
          have hle := Nat.mul_le_mul_right (10 ^ cs.length) hdigit
          rw [valueOf_cons, List.length_cons, pow_succ]
          dsimp only
          omega

/-- A fraction with many more digits than places exceeds the numbers below `10 ^ 16`. -/
theorem mul_pow_le_value {f : Fraction} (hf : f.IsCounted) (hzero : f.value ≠ 0)
    (hcount : f.places + 17 ≤ f.count) {n : Nat} (hn : n ≤ 10 ^ 16) :
  n * 10 ^ f.places ≤ f.value
  := by
  have hle : 10 ^ (f.places + 17) ≤ 10 * f.value :=
    le_trans (Nat.pow_le_pow_right (by decide) hcount) (hf.le hzero)
  have hmul := Nat.mul_le_mul_right (10 ^ f.places) hn
  rw [pow_add] at hle
  omega

open Binary64

theorem truncate?_zero_ne {negative : Bool} {n : Nat} (hn : 0 < n) :
  (finite negative 0 0).truncate? ≠ some (n : Int)
  := by
  intro h
  obtain ⟨-, hle, -⟩ := (truncate?_finite_eq_some_iff hn).mp h
  have hpos := Nat.mul_pos hn unitsPerOne_pos
  rw [magnitude, zero_mul] at hle
  omega

/-- The whole part of a fraction that is read. -/
theorem truncate?_toBinary_eq_some_iff {f : Fraction} (hf : f.IsCounted) {negative : Bool} {n : Nat}
    (hn : 1 < n) (hlimit : n < 2 ^ 52) :
  (f.toBinary negative 0).truncate? = some (n : Int)
    ↔ negative = false ∧ ComesDownTo ((f.value : ℚ) / (10 ^ f.places : Nat)) n
  := by
  have hplaces : 0 < 10 ^ f.places := Nat.pow_pos (by decide)
  have hsmall (h : f.value < 10 ^ f.places) :
      (finite negative 0 0).truncate? = some (n : Int)
        ↔ negative = false ∧ ComesDownTo ((f.value : ℚ) / (10 ^ f.places : Nat)) n := by
    apply iff_of_false (truncate?_zero_ne (by omega))
    rintro ⟨-, hcomes⟩
    apply not_comesDownTo_of_lt_one hn hlimit.le _ hcomes
    rw [div_lt_one (by exact_mod_cast hplaces)]
    exact_mod_cast h
  rw [Fraction.toBinary]
  split
  · rename_i hzero
    apply hsmall
    rwa [hzero]
  · rename_i hzero
    split
    · have hlarge : (n + 1) * 10 ^ f.places ≤ f.value := mul_pow_le_value hf hzero (by omega) (by omega)
      have hbeyond := roundedUpFrom_le_div hplaces hlarge
      simp only [truncate?, reduceCtorEq, false_iff]
      rintro ⟨-, -, hbelow⟩
      linarith
    · split
      · apply hsmall
        apply lt_of_lt_of_le hf.lt
        apply Nat.pow_le_pow_right (by decide)
        omega
      · split
        · have hexponent : (0 - (f.places : Int)).natAbs = f.places := by omega
          rw [hexponent]
          apply truncate?_ofRatio_eq_some_iff hplaces hn hlimit
        · have hexponent : f.places = 0 := by omega
          have hwhole : f.value * Nat.pow 10 (0 - (f.places : Int)).natAbs = f.value := by
            rw [hexponent]
            simp
          rw [hwhole, truncate?_ofRatio_eq_some_iff Nat.one_pos hn hlimit, hexponent, pow_zero]

theorem toBinary_ne_nan (f : Fraction) (negative : Bool) (power : Int) :
  f.toBinary negative power ≠ nan
  := by
  have hratio (a b : Nat) : ofRatio negative a b ≠ nan := by
    rw [ofRatio]
    rcases roundUnits_cases negative (a * unitsPerOne) b with ⟨hinfinite, -⟩ | ⟨m, s, hfinite, -⟩
    · rw [hinfinite]
      exact Binary64.noConfusion
    · rw [hfinite]
      exact Binary64.noConfusion
  rw [Fraction.toBinary]
  split_ifs
  · exact Binary64.noConfusion
  · exact Binary64.noConfusion
  · exact Binary64.noConfusion
  · apply hratio
  · apply hratio

/-! ### Reading a numeral -/

/-- The point and the digits behind it, if there is a point. -/
def pointed : Option (List Char) → List Char
  | none => []
  | some cs => '.' :: cs

theorem toLower_of_isDigit {c : Char} (h : c.isDigit = true) :
  c.toLower = c
  := by
  have hnine := (Char.isDigit_iff_toNat.mp h).2
  apply dif_neg
  rintro ⟨hlow, -⟩
  have hle : 65 ≤ c.toNat := hlow
  have hdigit : '9'.toNat = 57 := rfl
  omega

theorem plainDigits_append {cs rest : List Char} (hcs : ∀ c ∈ cs, c.isDigit = true)
    (hrest : ∀ c ∈ rest.head?, c.isDigit = false) :
  plainDigits (cs ++ rest) = (cs, rest)
  := by
  rw [plainDigits, List.takeWhile_append_of_pos hcs, List.dropWhile_append_of_pos hcs]
  cases rest with
  | nil => simp
  | cons c rest =>
      have hc : c.isDigit = false := hrest c rfl
      simp [hc]

theorem readUnsigned_eq {whole : List Char} {fraction : Option (List Char)} (hne : whole ≠ [])
    (hwhole : ∀ c ∈ whole, c.isDigit = true) (hfraction : ∀ c ∈ fraction.getD [], c.isDigit = true)
    (negative : Bool) :
  readUnsigned negative (whole ++ pointed fraction)
    = some (Fraction.toBinary ⟨valueOf (whole ++ fraction.getD []),
        ((whole ++ fraction.getD []).dropWhile (· == '0')).length, (fraction.getD []).length⟩ negative 0)
  := by
  obtain ⟨c, cs, rfl⟩ := List.exists_cons_of_ne_nil hne
  have hc := hwhole c List.mem_cons_self
  -- no name of a number starts with a digit
  have hname (name : String) (hhead : name.toList.head?.any Char.isDigit = false) :
      (String.ofList ((c :: cs ++ pointed fraction).map Char.toLower) == name) = false := by
    rw [beq_eq_false_iff_ne]
    rintro rfl
    rw [String.toList_ofList, List.cons_append, List.map_cons, toLower_of_isDigit hc,
      List.head?_cons, Option.any_some, hc] at hhead
    cases hhead
  rw [readUnsigned]
  dsimp only
  rw [hname "inf" (by decide), hname "infinity" (by decide), hname "nan" (by decide)]
  cases fraction with
  | none =>
      have hplain := @plainDigits_append (c :: cs) [] hwhole (by simp)
      simp only [pointed, hplain]
      simp [readPower]
  | some places =>
      have hplain := @plainDigits_append (c :: cs) ('.' :: places) hwhole (by simp)
      have hplaces := @plainDigits_append places [] hfraction (by simp)
      rw [List.append_nil] at hplaces
      simp only [pointed, hplain, hplaces]
      simp [readPower]

theorem lowLinesSound_of_forall {prev : Char} {cs : List Char} (hprev : prev ≠ '_')
    (h : ∀ c ∈ cs, c ≠ '_') :
  lowLinesSound prev cs = true
  := by
  induction cs generalizing prev with
  | nil => simpa [lowLinesSound] using hprev
  | cons c cs ih =>
      rw [List.forall_mem_cons] at h
      rw [lowLinesSound, if_neg h.1, ih h.1 h.2]
      simp [hprev]

theorem takeSign_append {sign : Option Char} (hsign : ∀ c ∈ sign, c = '+' ∨ c = '-')
    {cs : List Char} (hcs : ∀ c ∈ cs.head?, c.isDigit = true) :
  takeSign (sign.toList ++ cs) = (decide (sign = some '-'), cs)
  := by
  cases sign with
  | none =>
      cases cs with
      | nil => rfl
      | cons c cs =>
          have hc : c.isDigit = true := hcs c rfl
          rw [Option.toList_none, List.nil_append, takeSign]
          · rfl
          · rintro rest ⟨⟩
            cases hc
          · rintro rest ⟨⟩
            cases hc
  | some c =>
      rcases hsign c rfl with rfl | rfl
      · rfl
      · rfl

end Numeral

/-- A decimal numeral: an optional sign, digits of any script and an optional fraction, with blanks
around them. -/
structure Decimal where
  lead : List Char
  sign : Option Char
  whole : List Char
  fraction : Option (List Char)
  trail : List Char
  lead_blank : ∀ c ∈ lead, Text.isBlank c = true
  sign_eq : ∀ c ∈ sign, c = '+' ∨ c = '-'
  whole_ne_nil : whole ≠ []
  whole_digit : ∀ c ∈ whole, Text.isDigit c = true
  fraction_digit : ∀ c ∈ fraction.getD [], Text.isDigit c = true
  trail_blank : ∀ c ∈ trail, Text.isBlank c = true

namespace Decimal

open Numeral Binary64

variable (d : Decimal)

/-- The numeral without the blanks. -/
def body : List Char := d.sign.toList ++ (d.whole ++ pointed d.fraction)

def text : String := String.ofList (d.lead ++ d.body ++ d.trail)

/-- The digits on both sides of the point. -/
def digits : List Char := d.whole ++ d.fraction.getD []

/-- The number that the numeral denotes. -/
def value : ℚ :=
  let magnitude : ℚ := digitsValue d.digits / (10 ^ (d.fraction.getD []).length : Nat)
  if d.sign = some '-' then -magnitude else magnitude

/-- The characters of a numeral are signs, points and digits. -/
theorem mem_body {c : Char} (h : c ∈ d.body) :
  c = '+' ∨ c = '-' ∨ c = '.' ∨ Text.isDigit c = true
  := by
  rw [body, List.mem_append, List.mem_append, Option.mem_toList] at h
  rcases h with hsign | hwhole | hfraction
  · rcases d.sign_eq c hsign with rfl | rfl
    · exact Or.inl rfl
    · exact Or.inr (Or.inl rfl)
  · exact Or.inr (Or.inr (Or.inr (d.whole_digit c hwhole)))
  · have hdigit := d.fraction_digit
    cases hfrac : d.fraction with
    | none =>
        rw [hfrac] at hfraction
        cases hfraction
    | some cs =>
        rw [hfrac] at hfraction hdigit
        rcases List.mem_cons.mp hfraction with rfl | hmem
        · exact Or.inr (Or.inr (Or.inl rfl))
        · exact Or.inr (Or.inr (Or.inr (hdigit c hmem)))

theorem isBlank_of_mem_body {c : Char} (h : c ∈ d.body) :
  Text.isBlank c = false
  := by
  rcases d.mem_body h with rfl | rfl | rfl | hdigit
  · decide
  · decide
  · decide
  · exact isBlank_of_isDigit hdigit

theorem asciiDigit_ne_of_mem_body {c : Char} (h : c ∈ d.body) :
  asciiDigit c ≠ '_'
  := by
  rcases d.mem_body h with rfl | rfl | rfl | hdigit
  · decide
  · decide
  · decide
  · intro hline
    have hascii := (isDigit_asciiDigit hdigit).1
    rw [hline] at hascii
    cases hascii

theorem strip_text :
  Text.strip d.text = String.ofList d.body
  := by
  rw [Text.strip, text, String.toList_ofList,
    Text.trimBoth_append d.lead_blank (fun c hc => d.isBlank_of_mem_body hc) d.trail_blank]

/-- The numeral in ASCII digits. -/
theorem map_asciiDigit_body :
  d.body.map asciiDigit = d.sign.toList ++ (d.whole.map asciiDigit
    ++ pointed (d.fraction.map (·.map asciiDigit)))
  := by
  have hsign : d.sign.toList.map asciiDigit = d.sign.toList := by
    have hcases := d.sign_eq
    cases hopt : d.sign with
    | none => rfl
    | some c =>
        rcases hcases c hopt with rfl | rfl
        · rfl
        · rfl
  have hpointed : (pointed d.fraction).map asciiDigit
      = pointed (d.fraction.map (·.map asciiDigit)) := by
    cases d.fraction with
    | none => rfl
    | some cs => rfl
  rw [body, List.map_append, List.map_append, hsign, hpointed]

theorem isDigit_of_mem_digits {c : Char} (h : c ∈ d.digits) :
  Text.isDigit c = true
  := by
  rcases List.mem_append.mp h with hwhole | hfraction
  · exact d.whole_digit c hwhole
  · exact d.fraction_digit c hfraction

theorem isDigit_of_mem_map_digits {c : Char} (h : c ∈ d.digits.map asciiDigit) :
  c.isDigit = true
  := by
  obtain ⟨c, hmem, rfl⟩ := List.mem_map.mp h
  exact (isDigit_asciiDigit (d.isDigit_of_mem_digits hmem)).1

theorem map_asciiDigit_digits :
  d.digits.map asciiDigit
    = d.whole.map asciiDigit ++ (d.fraction.map (·.map asciiDigit)).getD []
  := by
  rw [digits, List.map_append]
  cases d.fraction with
  | none => rfl
  | some cs => rfl

/-- The fraction that is read from the digits. -/
def toFraction : Fraction :=
  ⟨digitsValue d.digits, ((d.digits.map asciiDigit).dropWhile (· == '0')).length,
    (d.fraction.getD []).length⟩

theorem isCounted_toFraction :
  d.toFraction.IsCounted
  := by
  have hascii : ∀ c ∈ d.digits.map asciiDigit, c.isDigit = true :=
    fun c hc => d.isDigit_of_mem_map_digits hc
  have hcounted := isCounted_of_isDigit hascii (d.fraction.getD []).length
  rwa [valueOf_map_asciiDigit fun c hc => d.isDigit_of_mem_digits hc] at hcounted

theorem readFloat?_strip_text :
  readFloat? (Text.strip d.text) = some (d.toFraction.toBinary (decide (d.sign = some '-')) 0)
  := by
  have hmargin : Text.trimBoth isMargin d.body = d.body := by
    have htrim := @Text.trimBoth_append isMargin [] d.body [] (by simp)
      (fun c hc => by rw [isMargin, d.isBlank_of_mem_body hc, Bool.false_and]) (by simp)
    rwa [List.nil_append, List.append_nil] at htrim
  have hline : ∀ c ∈ d.body.map asciiDigit, c ≠ '_' := by
    intro c hc
    obtain ⟨c, hmem, rfl⟩ := List.mem_map.mp hc
    exact d.asciiDigit_ne_of_mem_body hmem
  have hfilter : (d.body.map asciiDigit).filter (· != '_') = d.body.map asciiDigit := by
    rw [List.filter_eq_self]
    intro c hc
    simpa using hline c hc
  have hdigits := d.map_asciiDigit_digits
  have hascii : ∀ c ∈ d.digits.map asciiDigit, c.isDigit = true :=
    fun c hc => d.isDigit_of_mem_map_digits hc
  rw [hdigits, List.forall_mem_append] at hascii
  have hne : d.whole.map asciiDigit ≠ [] := by simpa using d.whole_ne_nil
  have hhead : ∀ c ∈ (d.whole.map asciiDigit
      ++ pointed (d.fraction.map (·.map asciiDigit))).head?, c.isDigit = true := by
    rw [List.head?_append_of_ne_nil _ hne]
    intro c hc
    exact hascii.1 c (List.mem_of_mem_head? hc)
  have hread := readUnsigned_eq hne hascii.1 hascii.2 (decide (d.sign = some '-'))
  have hlength : ((d.fraction.map (·.map asciiDigit)).getD []).length
      = (d.fraction.getD []).length := by
    cases d.fraction with
    | none => rfl
    | some cs => simp
  rw [← hdigits, hlength, valueOf_map_asciiDigit fun c hc => d.isDigit_of_mem_digits hc] at hread
  rw [readFloat?, strip_text, String.toList_ofList, hmargin]
  dsimp only
  rw [if_pos (lowLinesSound_of_forall (by decide) hline), hfilter, map_asciiDigit_body,
    takeSign_append d.sign_eq hhead]
  exact hread

/-- A numeral is read as a number, whose whole part is what the value comes down to. -/
theorem exists_readFloat :
  ∃ x, readFloat? (Text.strip d.text) = some x ∧ x ≠ nan
    ∧ ∀ n : Nat, 1 < n → n < 2 ^ 52 → (x.truncate? = some (n : Int) ↔ ComesDownTo d.value n)
  := by
  refine ⟨_, d.readFloat?_strip_text, toBinary_ne_nan _ _ _, ?_⟩
  intro n hn hlimit
  rw [truncate?_toBinary_eq_some_iff d.isCounted_toFraction hn hlimit, value]
  by_cases hminus : d.sign = some '-'
  · apply iff_of_false
    · simp [hminus]
    · rw [if_pos hminus]
      apply not_comesDownTo_of_lt_one hn hlimit.le
      have hnonneg : (0 : ℚ) ≤ digitsValue d.digits / (10 ^ (d.fraction.getD []).length : Nat) := by
        positivity
      linarith
  · rw [if_neg hminus]
    simp [hminus, toFraction]

/-! ### Integers -/

theorem digitAt_of_isDigit {c : Char} (h : c.isDigit = true) :
  Text.isDigit c = true ∧ digitAt c = c.toNat - 48
  := by
  have hrange := Char.isDigit_iff_toNat.mp h
  have hfind : Text.digitValue? c = some (c.toNat - 48) := by
    rw [Text.digitValue?, Text.digitZeros, List.find?_cons_of_pos]
    · rfl
    · simpa using hrange
  rw [Text.isDigit, digitAt, hfind]
  exact ⟨rfl, rfl⟩

theorem digitsValue_toDigits (n : Nat) :
  digitsValue (Nat.toDigits 10 n) = n
  := by
  conv_rhs => rw [← @Nat.ofDigitChars_toDigits 10 n (by decide) (by decide), Nat.ofDigitChars]
  rw [digitsValue]
  apply List.foldl_ext
  intro m c hc
  rw [(digitAt_of_isDigit (Nat.isDigit_of_mem_toDigits (by decide) (by decide) hc)).2, mul_comm]
  rfl

/-- The decimal numeral of an integer. -/
def ofInt (n : Int) : Decimal where
  lead := []
  sign := if n < 0 then some '-' else none
  whole := Nat.toDigits 10 n.natAbs
  fraction := none
  trail := []
  lead_blank := by simp
  sign_eq := by
    intro c hc
    split at hc
    · cases hc
      exact Or.inr rfl
    · cases hc
  whole_ne_nil := Nat.toDigits_ne_nil
  whole_digit := by
    intro c hc
    exact (digitAt_of_isDigit (Nat.isDigit_of_mem_toDigits (by decide) (by decide) hc)).1
  fraction_digit := by simp
  trail_blank := by simp

theorem text_ofInt (n : Int) :
  (ofInt n).text = toString n
  := by
  have htext : (ofInt n).text = String.ofList ((if n < 0 then some '-' else none).toList
      ++ Nat.toDigits 10 n.natAbs) := by
    simp [text, body, ofInt, pointed]
  rw [htext, Int.toString_eq_repr, Int.repr_eq_if]
  by_cases hn : n < 0
  · have habs : (-n).toNat = n.natAbs := by omega
    rw [if_pos hn, if_neg (by omega), habs, Nat.repr_eq_ofList_toDigits, String.ofList_append]
    rfl
  · have habs : n.toNat = n.natAbs := by omega
    rw [if_neg hn, if_pos (by omega), habs, Nat.repr_eq_ofList_toDigits]
    rfl

theorem value_ofInt (n : Int) :
  (ofInt n).value = n
  := by
  have hdigits : (ofInt n).digits = Nat.toDigits 10 n.natAbs := List.append_nil _
  have hmagnitude : ((n.natAbs : Nat) : ℚ) = |(n : ℚ)| := by
    rw [Nat.cast_natAbs, Int.cast_abs]
  have hsign : (ofInt n).sign = if n < 0 then some '-' else none := rfl
  rw [value, hdigits, digitsValue_toDigits, hsign, hmagnitude]
  have hplaces : (((ofInt n).fraction.getD []).length) = 0 := rfl
  rw [hplaces, pow_zero, Nat.cast_one, div_one]
  by_cases hn : n < 0
  · have hn' : (n : ℚ) < 0 := by exact_mod_cast hn
    rw [if_pos hn, if_pos rfl, abs_of_neg hn', neg_neg]
  · have hn' : (0 : ℚ) ≤ n := by exact_mod_cast not_lt.mp hn
    rw [if_neg hn, if_neg (by simp), abs_of_nonneg hn']

end Decimal
end DeploymentRecipes
