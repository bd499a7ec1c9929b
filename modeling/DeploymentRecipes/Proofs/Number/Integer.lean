import DeploymentRecipes.Proofs.Number.Decimal
import Mathlib.Data.Nat.Digits.Defs

/-!
# Integer numerals

Which texts are read as integers.  A numeral holds nothing but a sign, digits and low lines between its
margins, and the text of an integer is read as the integer.  The information separators are blanks but
no margins of a numeral: a text that is a numeral once its blanks are gone is one itself just when no
separator stands in it.
-/

namespace DeploymentRecipes.Numeral

/-! ### Digits in a run -/

theorem digitValue_of_digitIn {c : Char} {d : Nat} (h : digitIn 10 c = some d) :
  Text.digitValue? c = some d
  := by
  rw [digitIn, Option.filter_eq_some_iff] at h
  obtain ⟨hvalue, hlt⟩ := h
  rw [decide_eq_true_eq] at hlt
  split at hvalue
  · have := Option.some.inj hvalue
    omega
  · split at hvalue
    · have := Option.some.inj hvalue
      omega
    · exact hvalue

theorem digitIn_of_isDigit {c : Char} (h : c.isDigit = true) :
  digitIn 10 c = some (digitAt c)
  := by
  have hrange := Char.isDigit_iff_toNat.mp h
  have hzero : '0'.toNat = 48 := rfl
  have hnine : '9'.toNat = 57 := rfl
  obtain ⟨hdigit, hvalue⟩ := Decimal.digitAt_of_isDigit h
  obtain ⟨d, hd⟩ := Option.isSome_iff_exists.mp hdigit
  have hat : d = digitAt c := by rw [digitAt, hd, Option.getD_some]
  have hlower : ¬ ('a' ≤ c) := by
    intro hle
    have : 97 ≤ c.toNat := hle
    omega
  have hupper : ¬ ('A' ≤ c) := by
    intro hle
    have : 65 ≤ c.toNat := hle
    omega
  simp only [digitIn, hlower, hupper, decide_false, Bool.false_and, Bool.false_eq_true, if_false, hd]
  rw [← hat, Option.filter_some, if_pos]
  rw [decide_eq_true_eq]
  omega

/-- No blank is part of a run. -/
theorem digitIn_of_isBlank {c : Char} (h : Text.isBlank c = true) :
  digitIn 10 c = none ∧ c ≠ '_'
  := by
  constructor
  · cases hdigit : digitIn 10 c with
    | none => rfl
    | some d =>
        have hvalue := digitValue_of_digitIn hdigit
        rw [isBlank_of_isDigit (by rw [Text.isDigit, hvalue]; rfl)] at h
        cases h
  · rintro rfl
    cases h

/-! ### Runs -/

theorem digitRun_cons_of_none {c : Char} (h : digitIn 10 c = none) (hline : c ≠ '_') (cs : List Char)
    (value count : Nat) (line : Bool) :
  digitRun 10 (c :: cs) value count line = ⟨value, count, !line, c :: cs⟩
  := by
  rw [digitRun]
  simp [h, hline]

/-- A run that takes all characters takes them in front of something else too. -/
theorem digitRun_append {cs rest : List Char} {value count : Nat} {line : Bool}
    (h : (digitRun 10 cs value count line).rest = [])
    (hrest : ∀ c ∈ rest.head?, digitIn 10 c = none ∧ c ≠ '_') :
  digitRun 10 (cs ++ rest) value count line
    = { digitRun 10 cs value count line with rest := rest }
  := by
  induction cs generalizing value count line with
  | nil =>
      cases rest with
      | nil => rfl
      | cons c rest =>
          obtain ⟨hdigit, hline⟩ := hrest c rfl
          rw [List.nil_append, digitRun_cons_of_none hdigit hline]
          rfl
  | cons c cs ih =>
      rw [List.cons_append, digitRun]
      rw [digitRun] at h ⊢
      cases hdigit : digitIn 10 c with
      | some d =>
          simp only [hdigit] at h
          exact ih h
      | none =>
          simp only [hdigit] at h
          split at h
          · rename_i hc
            split at h
            · cases h
            · rename_i hline
              simp only [hc, if_true, if_neg hline]
              exact ih h
          · cases h

/-- Such a run has nothing but digits and low lines in it. -/
theorem mem_of_digitRun {cs : List Char} {value count : Nat} {line : Bool}
    (h : (digitRun 10 cs value count line).rest = []) :
  ∀ c ∈ cs, Text.isDigit c = true ∨ c = '_'
  := by
  induction cs generalizing value count line with
  | nil => simp
  | cons c cs ih =>
      rw [List.forall_mem_cons]
      rw [digitRun] at h
      cases hdigit : digitIn 10 c with
      | some d =>
          simp only [hdigit] at h
          refine ⟨Or.inl ?_, ih h⟩
          rw [Text.isDigit, digitValue_of_digitIn hdigit]
          rfl
      | none =>
          simp only [hdigit] at h
          split at h
          · rename_i hc
            split at h
            · cases h
            · exact ⟨Or.inr hc, ih h⟩
          · cases h

theorem digitRun_of_isDigit {cs : List Char} (hne : cs ≠ []) (h : ∀ c ∈ cs, c.isDigit = true)
    (value count : Nat) (line : Bool) :
  digitRun 10 cs value count line
    = ⟨cs.foldl (fun n c => n * 10 + digitAt c) value, count + cs.length, true, []⟩
  := by
  induction cs generalizing value count line with
  | nil => exact absurd rfl hne
  | cons c cs ih =>
      rw [List.forall_mem_cons] at h
      rw [digitRun]
      simp only [digitIn_of_isDigit h.1, List.foldl_cons, List.length_cons]
      by_cases hcs : cs = []
      · rw [hcs]
        rfl
      · rw [ih hcs h.2]
        congr 1
        omega

/-! ### Reading -/

/-- What characters without margins are read as. -/
def readWhole (cs : List Char) : Except Fault Int :=
  let run := digitRun 10 (takeSign cs).2 0 0 true
  if run.count = 0 || !run.sound then .error .malformed
  else if run.count > digitLimit then .error (.tooManyDigits run.count)
  else if run.rest ≠ [] then .error .malformed
  else .ok (if (takeSign cs).1 then -(run.value : Int) else run.value)

theorem readInt_eq (s : String) :
  readInt s = readWhole (Text.trimBoth isMargin s.toList)
  := by
  rw [readInt, readIntIn, readWhole]
  simp [markOf]

/-- A numeral has digits, not too many of them, low lines only between them, and ends with them. -/
theorem run_of_readWhole {cs : List Char} {n : Int} (h : readWhole cs = .ok n) :
  (digitRun 10 (takeSign cs).2 0 0 true).count ≠ 0
    ∧ (digitRun 10 (takeSign cs).2 0 0 true).sound = true
    ∧ (digitRun 10 (takeSign cs).2 0 0 true).count ≤ digitLimit
    ∧ (digitRun 10 (takeSign cs).2 0 0 true).rest = []
  := by
  simp only [readWhole] at h
  split at h
  · cases h
  · rename_i hsound
    split at h
    · cases h
    · rename_i hcount
      split at h
      · cases h
      · rename_i hrest
        rw [Bool.or_eq_true, not_or, decide_eq_true_eq, Bool.not_eq_true', Bool.not_eq_false] at hsound
        exact ⟨hsound.1, hsound.2, Nat.le_of_not_lt hcount, not_not.mp hrest⟩

theorem takeSign_cases (cs : List Char) :
  takeSign cs = (false, cs) ∨ ∃ c ds, (c = '-' ∨ c = '+') ∧ cs = c :: ds
    ∧ takeSign cs = (decide (c = '-'), ds)
  := by
  rw [takeSign.eq_def]
  split
  · exact Or.inr ⟨_, _, Or.inl rfl, rfl, rfl⟩
  · exact Or.inr ⟨_, _, Or.inr rfl, rfl, rfl⟩
  · exact Or.inl rfl

/-- The characters of a numeral. -/
def IsNumeralChar (c : Char) : Prop := c = '-' ∨ c = '+' ∨ c = '_' ∨ Text.isDigit c = true

instance : DecidablePred IsNumeralChar := fun _ => inferInstanceAs (Decidable (_ ∨ _))

theorem IsNumeralChar.isBlank {c : Char} (h : IsNumeralChar c) :
  Text.isBlank c = false
  := by
  rcases h with rfl | rfl | rfl | hdigit
  · rfl
  · rfl
  · rfl
  · exact isBlank_of_isDigit hdigit

theorem mem_of_readWhole {cs : List Char} {n : Int} (h : readWhole cs = .ok n) :
  ∀ c ∈ cs, IsNumeralChar c
  := by
  obtain ⟨-, -, -, hrest⟩ := run_of_readWhole h
  have hdigits := mem_of_digitRun hrest
  have hmem : ∀ c ∈ (takeSign cs).2, IsNumeralChar c := by
    intro c hc
    rcases hdigits c hc with hdigit | hline
    · exact Or.inr (Or.inr (Or.inr hdigit))
    · exact Or.inr (Or.inr (Or.inl hline))
  rcases takeSign_cases cs with heq | ⟨c, ds, hc, rfl, heq⟩
  · rwa [heq] at hmem
  · rw [heq] at hmem
    rw [List.forall_mem_cons]
    exact ⟨hc.imp_right Or.inl, hmem⟩

theorem takeSign_append_of_ne_nil {cs : List Char} (h : cs ≠ []) (rest : List Char) :
  takeSign (cs ++ rest) = ((takeSign cs).1, (takeSign cs).2 ++ rest)
  := by
  obtain ⟨c, ds, rfl⟩ := List.exists_cons_of_ne_nil h
  rw [List.cons_append, takeSign.eq_def, takeSign.eq_def (c :: ds)]
  split <;> simp_all

/-- With blanks at its ends a numeral is none. -/
theorem readWhole_append_append {lead body trail : List Char} {n : Int} (h : readWhole body = .ok n)
    (hlead : ∀ c ∈ lead, Text.isBlank c = true) (htrail : ∀ c ∈ trail, Text.isBlank c = true)
    (hne : ¬ (lead = [] ∧ trail = [])) :
  readWhole (lead ++ body ++ trail) = .error .malformed
  := by
  cases lead with
  | cons c lead =>
      obtain ⟨hdigit, hline⟩ := digitIn_of_isBlank (hlead c List.mem_cons_self)
      have hsign : takeSign (c :: (lead ++ body ++ trail)) = (false, c :: (lead ++ body ++ trail)) := by
        rcases takeSign_cases (c :: (lead ++ body ++ trail)) with heq | ⟨c', ds, hc, heq, -⟩
        · exact heq
        · have hblank := hlead c List.mem_cons_self
          rw [(List.cons.inj heq).1] at hblank
          rcases hc with rfl | rfl
          · cases hblank
          · cases hblank
      simp only [List.cons_append, readWhole, hsign, digitRun_cons_of_none hdigit hline]
      rfl
  | nil =>
      obtain ⟨hcount, hsound, hlimit, hrest⟩ := run_of_readWhole h
      have hbody : body ≠ [] := by
        rintro rfl
        cases h
      have hhead : ∀ c ∈ trail.head?, digitIn 10 c = none ∧ c ≠ '_' := by
        intro c hc
        apply digitIn_of_isBlank (htrail c (List.mem_of_mem_head? hc))
      have htrail : trail ≠ [] := fun hnil => hne ⟨rfl, hnil⟩
      simp only [List.nil_append, readWhole, takeSign_append_of_ne_nil hbody,
        digitRun_append hrest hhead]
      rw [if_neg (by simp [hcount, hsound]), if_neg (by omega), if_pos htrail]

/-! ### Separators -/

/-- An information separator, which is a blank but no margin of a numeral. -/
def isSeparator (c : Char) : Bool := 0x1c ≤ c.toNat && c.toNat ≤ 0x1f

theorem isMargin_eq (c : Char) :
  isMargin c = (Text.isBlank c && !isSeparator c)
  := rfl

theorem isBlank_of_isMargin {c : Char} (h : isMargin c = true) :
  Text.isBlank c = true
  := by
  rw [isMargin_eq, Bool.and_eq_true] at h
  exact h.1

/-- Without its blanks a text has no margins. -/
theorem readInt_strip (s : String) :
  readInt (Text.strip s) = readWhole (Text.trimBoth Text.isBlank s.toList)
  := by
  rw [readInt_eq, Text.strip, String.toList_ofList,
    Text.trimBoth_trimBoth (fun _ => isBlank_of_isMargin)]

theorem isBlank_of_isSeparator {c : Char} (h : isSeparator c = true) :
  Text.isBlank c = true
  := by
  rw [isSeparator, Bool.and_eq_true, decide_eq_true_eq, decide_eq_true_eq] at h
  rw [Text.isBlank, Text.inRanges, List.any_eq_true]
  refine ⟨(0x1c, 0x20), by simp [Text.blankRanges], ?_⟩
  rw [Bool.and_eq_true, decide_eq_true_eq, decide_eq_true_eq]
  exact ⟨h.1, by omega⟩

/-- Blanks are all margins just when none of them is a separator. -/
theorem any_isSeparator_of_isBlank {cs : List Char} (h : ∀ c ∈ cs, Text.isBlank c = true) :
  cs.any isSeparator = false ↔ ∀ c ∈ cs, isMargin c = true
  := by
  rw [List.any_eq_false]
  apply forall₂_congr
  intro c hc
  rw [isMargin_eq, h c hc, Bool.true_and, Bool.not_eq_true', Bool.not_eq_true]

/-- No separator stands in a numeral. -/
theorem any_isSeparator_of_readWhole {cs : List Char} {n : Int} (h : readWhole cs = .ok n) :
  cs.any isSeparator = false
  := by
  rw [List.any_eq_false]
  intro c hc hseparator
  have hblank := isBlank_of_isSeparator hseparator
  rw [(mem_of_readWhole h c hc).isBlank] at hblank
  cases hblank

/-- A text that is a numeral without its blanks is one itself just when no separator stands in it. -/
theorem readInt_of_strip {s : String} {n : Int} (h : readInt (Text.strip s) = .ok n) :
  readInt s = if s.toList.any isSeparator then .error .malformed else .ok n
  := by
  rw [readInt_strip] at h
  obtain ⟨lead, trail, hs, hlead, htrail⟩ := Text.exists_margins Text.isBlank s.toList
  generalize Text.trimBoth Text.isBlank s.toList = body at h hs
  have hne : body ≠ [] := by
    rintro rfl
    cases h
  have hmargin : ∀ c ∈ body, isMargin c = false := by
    intro c hc
    rw [isMargin_eq, (mem_of_readWhole h c hc).isBlank, Bool.false_and]
  rw [readInt_eq, hs, Text.trimBoth_append_append hne hmargin, List.any_append, List.any_append,
    any_isSeparator_of_readWhole h, Bool.or_false]
  by_cases hseparator : (lead.any isSeparator || trail.any isSeparator) = true
  · rw [if_pos hseparator]
    apply readWhole_append_append h
    · intro c hc
      exact hlead c ((List.dropWhile_suffix _).subset hc)
    · intro c hc
      exact htrail c ((List.rdropWhile_prefix _ _).subset hc)
    · rintro ⟨hfront, hback⟩
      rw [List.dropWhile_eq_nil_iff] at hfront
      rw [List.rdropWhile_eq_nil_iff] at hback
      rw [(any_isSeparator_of_isBlank hlead).mpr hfront,
        (any_isSeparator_of_isBlank htrail).mpr hback] at hseparator
      cases hseparator
  · rw [if_neg hseparator]
    rw [Bool.not_eq_true, Bool.or_eq_false_iff] at hseparator
    rw [List.dropWhile_eq_nil_iff.mpr ((any_isSeparator_of_isBlank hlead).mp hseparator.1),
      List.rdropWhile_eq_nil_iff.mpr ((any_isSeparator_of_isBlank htrail).mp hseparator.2),
      List.nil_append, List.append_nil, h]

/-- Whatever else than blanks stands in such a text is part of the numeral. -/
theorem mem_of_readInt_strip {s : String} {n : Int} (h : readInt (Text.strip s) = .ok n) {c : Char}
    (hblank : Text.isBlank c = false) (hc : c ∈ s.toList) :
  IsNumeralChar c
  := by
  rw [readInt_strip] at h
  exact mem_of_readWhole h c (Text.mem_trimBoth hblank hc)

/-! ### Written integers -/

variable {n : Int}

theorem showInt_eq (h : n.natAbs < 10 ^ digitLimit) :
  showInt? n = some (toString n)
  := by rw [showInt?, Nat.pow_eq, if_pos h]

theorem toList_toString (n : Int) :
  (toString n).toList = (Decimal.ofInt n).body
  := by
  rw [← Decimal.text_ofInt, Decimal.text, String.toList_ofList]
  exact List.append_nil _

/-- No blank stands in the text of an integer. -/
theorem isBlank_of_mem_toString {c : Char} (h : c ∈ (toString n).toList) :
  Text.isBlank c = false
  := by
  rw [toList_toString] at h
  exact Decimal.isBlank_of_mem_body _ h

/-- The text of an integer that is not too long is read as the integer. -/
theorem readInt_toString (h : n.natAbs < 10 ^ digitLimit) :
  readInt (toString n) = .ok n
  := by
  have hdigit : ∀ c ∈ Nat.toDigits 10 n.natAbs, c.isDigit = true := by
    intro c hc
    exact Nat.isDigit_of_mem_toDigits (by decide) (by decide) hc
  have hmargin : ∀ c ∈ (toString n).toList, isMargin c = false := by
    intro c hc
    rw [isMargin_eq, isBlank_of_mem_toString hc, Bool.false_and]
  have hsign : takeSign (toString n).toList = (decide (n < 0), Nat.toDigits 10 n.natAbs) := by
    have hbody : (Decimal.ofInt n).body = (Decimal.ofInt n).sign.toList ++ Nat.toDigits 10 n.natAbs :=
      congrArg _ (List.append_nil _)
    rw [toList_toString, hbody, takeSign_append (Decimal.ofInt n).sign_eq
      (fun c hc => hdigit c (List.mem_of_mem_head? hc))]
    simp [Decimal.ofInt]
  have hlength : (Nat.toDigits 10 n.natAbs).length ≤ digitLimit := by
    apply Nat.toDigits_length 10 _ _ (by decide) h
  have hpos : (Nat.toDigits 10 n.natAbs).length ≠ 0 := by
    rw [ne_eq, List.length_eq_zero_iff]
    exact Nat.toDigits_ne_nil
  have hvalue : (Nat.toDigits 10 n.natAbs).foldl (fun m c => m * 10 + digitAt c) 0 = n.natAbs :=
    Decimal.digitsValue_toDigits n.natAbs
  rw [readInt_eq, Text.trimBoth_of_forall hmargin]
  simp only [readWhole, hsign, digitRun_of_isDigit Nat.toDigits_ne_nil hdigit, hvalue, Nat.zero_add]
  rw [if_neg (by simp [hpos]), if_neg (by omega), if_neg (by simp)]
  congr 1
  split
  · rename_i hneg
    rw [decide_eq_true_eq] at hneg
    omega
  · rename_i hneg
    rw [decide_eq_true_eq] at hneg
    omega

end DeploymentRecipes.Numeral
