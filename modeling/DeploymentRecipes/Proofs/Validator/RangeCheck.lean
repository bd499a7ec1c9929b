import DeploymentRecipes.Proofs.Number.Integer
import DeploymentRecipes.Proofs.Result
import DeploymentRecipes.Proofs.Text.CodePoints
import DeploymentRecipes.Validator.SettingCheck

/-!
# Range checks

A value that a range check accepts is an integer between the bounds, or a text that is one once its
blanks are gone.  As an integer the value is retrieved from it, unless an information separator stands
in the text: the check takes the separator for a blank, and the conversion takes it for no part of a
numeral.
-/

namespace DeploymentRecipes

/-! ### Texts that are no numerals -/

namespace Binary64

theorem mem_writtenOut (ds : List Char) (place : Int) :
  '.' ∈ writtenOut ds place
  := by
  rw [writtenOut]
  split
  · simp
  · split <;> simp

theorem mem_withPower (ds : List Char) (power : Int) :
  'e' ∈ withPower ds power
  := by
  simp [withPower]

/-- A point, a power of ten or the letter of a name tells a floating point number from an integer. -/
theorem exists_mem_text (x : Binary64) :
  ∃ c ∈ x.text.toList, c = '.' ∨ c = 'e' ∨ c = 'n'
  := by
  cases x with
  | nan => exact ⟨'n', by simp [text], Or.inr (Or.inr rfl)⟩
  | infinite negative =>
      refine ⟨'n', ?_, Or.inr (Or.inr rfl)⟩
      cases negative with
      | false => simp [text]
      | true => simp [text]
  | finite negative m e =>
      have hbody : ∀ body : List Char, (∃ c ∈ body, c = '.' ∨ c = 'e' ∨ c = 'n')
          → ∃ c ∈ (String.ofList (if negative then '-' :: body else body)).toList,
            c = '.' ∨ c = 'e' ∨ c = 'n' := by
        rintro body ⟨c, hc, hmark⟩
        refine ⟨c, ?_, hmark⟩
        rw [String.toList_ofList]
        split
        · exact List.mem_cons_of_mem _ hc
        · exact hc
      rw [text]
      apply hbody
      split
      · exact ⟨'.', by simp, Or.inl rfl⟩
      · dsimp only
        split
        · exact ⟨'e', mem_withPower _ _, Or.inr (Or.inl rfl)⟩
        · exact ⟨'.', mem_writtenOut _ _, Or.inl rfl⟩

end Binary64

namespace Numeral

/-- A character that is neither a blank nor part of a numeral. -/
def IsForeign (c : Char) : Prop := Text.isBlank c = false ∧ ¬ IsNumeralChar c

instance : DecidablePred IsForeign := fun _ => inferInstanceAs (Decidable (_ ∧ _))

variable {s : String} {c : Char}

theorem readInt_strip_ne_ok (hc : c ∈ s.toList) (hforeign : IsForeign c) (n : Int) :
  readInt (Text.strip s) ≠ .ok n
  := fun h => hforeign.2 (mem_of_readInt_strip h hforeign.1 hc)

/-- No text that has a minus behind a digit is read. -/
theorem readInt_strip_ne_ok_of_minus {cs : List Char} (hs : s.toList = c :: cs)
    (hc : c.isDigit = true) (hminus : '-' ∈ cs) (n : Int) :
  readInt (Text.strip s) ≠ .ok n
  := by
  have hblank : Text.isBlank c = false := isBlank_of_isDigit (Decimal.digitAt_of_isDigit hc).1
  intro h
  rw [readInt_strip, hs] at h
  obtain ⟨ds, hds⟩ := Text.exists_trimBoth_cons hblank cs
  have hmem : '-' ∈ ds := by
    have hkept := Text.mem_trimBoth (p := Text.isBlank) rfl (List.mem_cons_of_mem c hminus)
    rw [hds, List.mem_cons] at hkept
    rcases hkept with rfl | hkept
    · cases hc
    · exact hkept
  rw [hds] at h
  have hrun := mem_of_digitRun (run_of_readWhole h).2.2.2
  rcases takeSign_cases (c :: ds) with hsign | ⟨c', ds', hsign, heq, -⟩
  · rw [hsign] at hrun
    rcases hrun '-' (List.mem_cons_of_mem c hmem) with hrun | hrun
    · cases hrun
    · cases hrun
  · rw [(List.cons.inj heq).1] at hc
    rcases hsign with rfl | rfl
    · cases hc
    · cases hc

end Numeral

namespace Timestamp

theorem exists_padded (width n : Nat) :
  ∃ c cs, padded width n = String.ofList (c :: cs) ∧ c.isDigit = true
  := by
  have hdigits : ∀ c ∈ List.replicate (width - (Nat.toDigits 10 n).length) '0' ++ Nat.toDigits 10 n,
      c.isDigit = true := by
    intro c hc
    rw [List.mem_append] at hc
    rcases hc with hc | hc
    · rw [List.eq_of_mem_replicate hc]
      rfl
    · exact Nat.isDigit_of_mem_toDigits (by decide) (by decide) hc
  obtain ⟨c, cs, hcs⟩ := List.exists_cons_of_ne_nil
    (List.append_ne_nil_of_right_ne_nil
      (List.replicate (width - (Nat.toDigits 10 n).length) '0') (@Nat.toDigits_ne_nil n 10))
  rw [hcs] at hdigits
  refine ⟨c, cs, ?_, hdigits c List.mem_cons_self⟩
  rw [padded, hcs]

/-- A calendar value starts with a year, and a minus stands behind it. -/
theorem exists_text (t : Timestamp) :
  ∃ c cs, t.text.toList = c :: cs ∧ c.isDigit = true ∧ '-' ∈ cs
  := by
  obtain ⟨c, cs, hyear, hdigit⟩ := exists_padded 4 t.year
  have htext : t.text.toList = c :: (cs ++ '-' :: (padded 2 t.month ++ "-" ++ padded 2 t.day
      ++ t.time.elim "" (" " ++ timeText ·)).toList) := by
    rw [text, textWith, dateText, hyear]
    cases t.time <;> simp [toString]
  exact ⟨c, _, htext, hdigit, List.mem_append_right cs List.mem_cons_self⟩

end Timestamp

namespace Value

theorem mem_shownTuple (shown : List String) :
  '(' ∈ (shownTuple shown).toList
  := by
  cases shown with
  | nil => decide
  | cons s shown => cases shown <;> simp [shownTuple]

theorem exists_mem_shownSet (shown : List String) :
  ∃ c ∈ (shownSet shown).toList, c = '(' ∨ c = '{'
  := by
  cases shown with
  | nil => exact ⟨'(', by decide, Or.inl rfl⟩
  | cons s shown => exact ⟨'{', by simp [shownSet], Or.inr rfl⟩

/-- Whether an information separator stands in a text. -/
def isSeparated : Value → Bool
  | .str s => s.toList.any Numeral.isSeparator
  | _ => false

end Value

namespace Validator

variable {place : Place} {message : String} {lo hi : Int} {v : Value}

/-! ### Accepted values -/

/-- What a range check accepts has a text, and an integer between the bounds is found for it. -/
theorem rangeNumber_of_valid
    (h : checkValue place (.range message lo hi false) v = .ok .valid) :
  ∃ text n, asText v = .ok text ∧ rangeNumber? v text = some n ∧ lo ≤ n ∧ n ≤ hi
  := by
  rw [checkValue] at h
  obtain ⟨bounds, -, h⟩ := exists_of_bind_eq_ok h
  obtain ⟨text, htext, h⟩ := exists_of_bind_eq_ok h
  have hverdict : verdict (inRange lo hi (rangeNumber? v text)) _ = .valid := Except.ok.inj h
  cases hnumber : rangeNumber? v text with
  | none =>
      rw [hnumber] at hverdict
      cases hverdict
  | some n =>
      rw [hnumber, verdict, inRange] at hverdict
      split at hverdict
      · rename_i hbetween
        rw [Bool.and_eq_true, decide_eq_true_eq, decide_eq_true_eq] at hbetween
        exact ⟨text, n, htext, hnumber, hbetween⟩
      · cases hverdict

theorem text_of_asText {text : String} (hv : v.isNull = false) (h : asText v = .ok text) :
  v.text? = some text
  := by
  rw [asText] at h
  · cases hshown : v.text? with
    | none =>
        rw [hshown] at h
        cases h
    | some shown =>
        rw [hshown] at h
        rw [Except.ok.inj h]
  · rintro rfl
    cases hv

/-- Only integers and texts have texts that are integers. -/
theorem cases_of_readInt_strip {text : String} {n : Int} (htext : asText v = .ok text)
    (h : Numeral.readInt (Text.strip text) = .ok n) :
  (∃ m, v = .int m) ∨ v = .str text
  := by
  have hforeign : ∀ c ∈ text.toList, ¬ Numeral.IsForeign c := by
    intro c hc hforeign
    exact Numeral.readInt_strip_ne_ok hc hforeign n h
  cases v with
  | null =>
      rw [← Except.ok.inj htext] at h
      cases h
  | bool b =>
      rw [← Except.ok.inj htext] at hforeign
      cases b with
      | false => exact absurd (by decide) (hforeign 'e' (by decide))
      | true => exact absurd (by decide) (hforeign 'e' (by decide))
  | int m => exact Or.inl ⟨m, rfl⟩
  | float x =>
      obtain ⟨c, hc, hmark⟩ := x.exists_mem_text
      rw [← Except.ok.inj htext] at hforeign
      apply absurd _ (hforeign c hc)
      rcases hmark with rfl | rfl | rfl <;> decide
  | str s => exact Or.inr (congrArg Value.str (Except.ok.inj htext))
  | halfText codes hhalf =>
      rw [← Except.ok.inj htext] at hforeign
      exact absurd (by decide) (hforeign '\ufffd' (Text.mem_ofCodes_of_half hhalf))
  | bytes bs =>
      rw [← Except.ok.inj htext] at hforeign
      exact absurd (by decide) (hforeign 'b' (by simp [Text.shownBytes]))
  | list items =>
      obtain ⟨shown, -, rfl⟩ := Option.map_eq_some_iff.mp (text_of_asText rfl htext)
      exact absurd (by decide) (hforeign '[' (by simp))
  | tuple items =>
      obtain ⟨shown, -, rfl⟩ := Option.map_eq_some_iff.mp (text_of_asText rfl htext)
      exact absurd (by decide) (hforeign '(' (Value.mem_shownTuple shown))
  | unordered items =>
      obtain ⟨shown, -, rfl⟩ := Option.map_eq_some_iff.mp (text_of_asText rfl htext)
      obtain ⟨c, hc, hmark⟩ := Value.exists_mem_shownSet shown
      apply absurd _ (hforeign c hc)
      rcases hmark with rfl | rfl <;> decide
  | map entries =>
      obtain ⟨shown, -, rfl⟩ := Option.map_eq_some_iff.mp (text_of_asText rfl htext)
      exact absurd (by decide) (hforeign '{' (by simp))
  | date t =>
      obtain ⟨c, cs, ht, hdigit, hminus⟩ := t.exists_text
      rw [← Except.ok.inj htext] at h
      exact absurd h (Numeral.readInt_strip_ne_ok_of_minus ht hdigit hminus n)
  | loop isMapping =>
      rw [← Except.ok.inj htext] at hforeign
      cases isMapping with
      | false => exact absurd (by decide) (hforeign '[' (by decide))
      | true => exact absurd (by decide) (hforeign '{' (by decide))

/-- Only for integers, and for texts that are read, there is an integer to check. -/
theorem cases_of_rangeNumber {text : String} {n : Int} (htext : asText v = .ok text)
    (h : rangeNumber? v text = some n) :
  v = .int n ∨ ∃ s, v = .str s ∧ Numeral.readInt (Text.strip s) = .ok n
  := by
  cases hread : Numeral.readInt (Text.strip text) with
  | ok m =>
      rcases cases_of_readInt_strip htext hread with ⟨k, rfl⟩ | rfl
      · exact Or.inl (congrArg Value.int (Option.some.inj h))
      · have hnumber : (Numeral.readInt (Text.strip text)).toOption = some n := h
        rw [hread] at hnumber
        rw [Option.some.inj hnumber] at hread
        exact Or.inr ⟨text, rfl, hread⟩
  | error fault =>
      have hnone : (Numeral.readInt (Text.strip text)).toOption = none := by
        rw [hread]
        rfl
      cases v with
      | bool b => cases h
      | int m => exact Or.inl (congrArg Value.int (Option.some.inj h))
      | _ => cases hnone.symm.trans h

/-- A text that the check reads is converted to the integer read, unless a separator stands in it. -/
theorem textToInt_of_strip {s : String} {n : Int} (h : Numeral.readInt (Text.strip s) = .ok n) :
  Value.textToInt s
    = if s.toList.any Numeral.isSeparator then .error (.notInteger s) else .ok n
  := by
  rw [Value.textToInt, Numeral.readInt_of_strip h]
  cases s.toList.any Numeral.isSeparator with
  | false => rfl
  | true => rfl

/-! ### Integers and their texts -/

variable {n : Int} {allowEmpty : Bool}

theorem asText_int (hn : n.natAbs < 10 ^ Numeral.digitLimit) :
  asText (.int n) = .ok (toString n)
  := by
  have htext : (Value.int n).text? = Numeral.showInt? n := rfl
  rw [asText, htext, Numeral.showInt_eq hn]
  rintro ⟨⟩

/-- The text of an integer that is not too long is checked like the integer. -/
theorem checkValue_toString (hn : n.natAbs < 10 ^ Numeral.digitLimit) :
  checkValue place (.range message lo hi allowEmpty) (.str (toString n))
    = checkValue place (.range message lo hi allowEmpty) (.int n)
  := by
  have hstrip : Text.strip (toString n) = toString n := by
    rw [Text.strip, Text.trimBoth_of_forall (fun c => Numeral.isBlank_of_mem_toString),
      String.ofList_toList]
  have hnumber : rangeNumber? (.str (toString n)) (toString n) = some n := by
    rw [rangeNumber?, hstrip, Numeral.readInt_toString hn]
    · rfl
    · rintro _ ⟨⟩
    · rintro _ ⟨⟩
  have hint : rangeNumber? (.int n) (toString n) = some n := rfl
  have hstr : asText (.str (toString n)) = .ok (toString n) := rfl
  rw [checkValue, checkValue, asText_int hn, hstr]
  simp only [bind, Except.bind, hnumber, hint]

/-- The bounds of a check have texts if neither is too long. -/
theorem exists_boundTexts_iff :
  (∃ texts, boundTexts lo hi = .ok texts)
    ↔ lo.natAbs < 10 ^ Numeral.digitLimit ∧ hi.natAbs < 10 ^ Numeral.digitLimit
  := by
  have hbound : ∀ m : Int, (∃ text, boundText m = .ok text)
      ↔ m.natAbs < 10 ^ Numeral.digitLimit := by
    intro m
    rw [boundText, Numeral.showInt?, Nat.pow_eq]
    by_cases hm : m.natAbs < 10 ^ Numeral.digitLimit
    · rw [if_pos hm]
      exact iff_of_true ⟨_, rfl⟩ hm
    · rw [if_neg hm]
      apply iff_of_false _ hm
      rintro ⟨text, htext⟩
      cases htext
  rw [← hbound, ← hbound]
  constructor
  · rintro ⟨texts, htexts⟩
    obtain ⟨loText, hlo, htexts⟩ := exists_of_bind_eq_ok htexts
    obtain ⟨hiText, hhi, -⟩ := exists_of_bind_eq_ok htexts
    exact ⟨⟨loText, hlo⟩, ⟨hiText, hhi⟩⟩
  · rintro ⟨⟨loText, hlo⟩, ⟨hiText, hhi⟩⟩
    rw [boundTexts, hlo, hhi]
    exact ⟨_, rfl⟩

/-- An integer is accepted between the bounds, if these have texts. -/
theorem checkValue_int_iff (hn : n.natAbs < 10 ^ Numeral.digitLimit) :
  checkValue place (.range message lo hi allowEmpty) (.int n) = .ok .valid
    ↔ (lo.natAbs < 10 ^ Numeral.digitLimit ∧ hi.natAbs < 10 ^ Numeral.digitLimit)
      ∧ lo ≤ n ∧ n ≤ hi
  := by
  have hne : toString n ≠ "" := by
    intro hempty
    have hread := Numeral.readInt_toString hn
    rw [hempty] at hread
    cases hread
  have hint : rangeNumber? (.int n) (toString n) = some n := rfl
  rw [checkValue, asText_int hn, ← exists_boundTexts_iff]
  cases hbounds : boundTexts lo hi with
  | error cause => exact iff_of_false nofun (fun h => nomatch h.1)
  | ok bounds =>
      rw [and_iff_right ⟨bounds, rfl⟩]
      simp only [bind, Except.bind, pure, Except.pure, hint, inRange, beq_eq_false_iff_ne.mpr hne,
        Bool.and_false, Bool.false_or, Except.ok.injEq, verdict]
      simp

/-- A value that a range check accepts is retrieved as an integer between the bounds, but for texts with
an information separator in them.  An integer and its text are accepted alike, and just between the
bounds. -/
theorem convert_of_checkValue_range (place : Place) (message : String) (lo hi : Int) :
  (∀ v : Value, checkValue place (.range message lo hi false) v = .ok .valid
    → ∃ n, lo ≤ n ∧ n ≤ hi
      ∧ (v.isSeparated = false → v.convert .int = .ok (.int n))
      ∧ (v.isSeparated = true → ∃ s, v = .str s ∧ v.convert .int = .error (.notInteger s)))
    ∧ ∀ (n : Int) (allowEmpty : Bool), n.natAbs < 10 ^ Numeral.digitLimit
      → (checkValue place (.range message lo hi allowEmpty) (.int n) = .ok .valid
          ↔ checkValue place (.range message lo hi allowEmpty) (.str (toString n)) = .ok .valid)
        ∧ (checkValue place (.range message lo hi allowEmpty) (.int n) = .ok .valid
          ↔ (lo.natAbs < 10 ^ Numeral.digitLimit ∧ hi.natAbs < 10 ^ Numeral.digitLimit)
            ∧ lo ≤ n ∧ n ≤ hi)
  := by
  refine ⟨?_, ?_⟩
  · intro v hvalid
    obtain ⟨text, n, htext, hnumber, hlo, hhi⟩ := rangeNumber_of_valid hvalid
    refine ⟨n, hlo, hhi, ?_⟩
    rcases cases_of_rangeNumber htext hnumber with rfl | ⟨s, rfl, hread⟩
    · exact ⟨fun _ => rfl, nofun⟩
    · have hconvert : (Value.str s).convert .int = (Value.textToInt s).map .int := rfl
      rw [textToInt_of_strip hread] at hconvert
      constructor
      · intro hseparated
        rw [Value.isSeparated] at hseparated
        rw [hconvert, hseparated]
        rfl
      · intro hseparated
        rw [Value.isSeparated] at hseparated
        use s
        rw [hconvert, hseparated]
        exact ⟨rfl, rfl⟩
  · intro n allowEmpty hn
    rw [checkValue_toString hn]
    exact ⟨Iff.rfl, checkValue_int_iff hn⟩

/-- The range from one to ten. -/
def upToTen : Validator := .range "Out of range!" 1 10 false

theorem convert_of_checkValue_range_five :
  checkValue .empty upToTen (.str " 0_5\n") = .ok .valid
    ∧ (∃ n, 1 ≤ n ∧ n ≤ 10 ∧ (Value.str " 0_5\n").convert .int = .ok (.int n))
    ∧ (checkValue .empty upToTen (.int 5) = .ok .valid
      ↔ checkValue .empty upToTen (.str (toString (5 : Int))) = .ok .valid)
  := by
  have hrange := convert_of_checkValue_range .empty "Out of range!" 1 10
  have hvalid : checkValue .empty upToTen (.str " 0_5\n") = .ok .valid := by
    decide +kernel
  obtain ⟨n, hlo, hhi, hconvert, -⟩ := hrange.1 (.str " 0_5\n") hvalid
  exact ⟨hvalid, ⟨n, hlo, hhi, hconvert (by decide)⟩, (hrange.2 5 false (by decide +kernel)).1⟩

/-- The check accepts a separator and an integer behind it, which cannot be retrieved as an integer. -/
theorem convert_ne_ok_separated :
  checkValue .empty upToTen (.str "\x1c5") = .ok .valid
    ∧ ¬ ∃ n, (Value.str "\x1c5").convert .int = .ok (.int n)
  := by
  constructor
  · decide +kernel
  · rintro ⟨n, hn⟩
    cases hn

end Validator
end DeploymentRecipes
