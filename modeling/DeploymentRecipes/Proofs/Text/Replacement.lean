import DeploymentRecipes.Text.Substring
import Mathlib.Data.List.Basic

/-!
# Finding and replacing a text

A text starts with another one or does not.  Where a text is found it is replaced, and what its first
character does not occur in is kept.
-/

namespace DeploymentRecipes.Text

/-! ### What a text starts with -/

section

variable {α : Type} [DecidableEq α]

theorem dropLead?_eq_some_iff {lead cs rest : List α} :
  dropLead? lead cs = some rest ↔ cs = lead ++ rest
  := by
  induction lead generalizing cs with
  | nil => simp [dropLead?]
  | cons p lead ih =>
      cases cs with
      | nil => simp [dropLead?]
      | cons c cs =>
          rw [dropLead?, List.cons_append, List.cons.injEq]
          split
          · rename_i hp
            rw [ih]
            simp [hp]
          · rename_i hp
            simp [Ne.symm hp]

theorem dropLead?_isSome_iff {lead cs : List α} :
  (dropLead? lead cs).isSome = true ↔ lead <+: cs
  := by
  rw [Option.isSome_iff_exists, List.IsPrefix]
  simp only [dropLead?_eq_some_iff, @eq_comm _ cs]

end

theorem startsWith_iff {s lead : String} :
  startsWith s lead = true ↔ ∃ rest, s = lead ++ rest
  := by
  rw [startsWith, Option.isSome_iff_exists]
  constructor
  · rintro ⟨rest, hrest⟩
    use String.ofList rest
    rw [← String.toList_inj, String.toList_append, String.toList_ofList]
    exact dropLead?_eq_some_iff.mp hrest
  · rintro ⟨rest, rfl⟩
    use rest.toList
    rw [dropLead?_eq_some_iff, String.toList_append]

/-! ### Replacing a text -/

section

variable {α : Type} [DecidableEq α] {old new : List α} {h : old ≠ []}

theorem replaceChars_lead (rest : List α) :
  replaceChars old new h (old ++ rest) = new ++ replaceChars old new h rest
  := by
  obtain ⟨c, old, rfl⟩ := List.exists_cons_of_ne_nil h
  rw [List.cons_append, replaceChars]
  split
  · rename_i more hmore
    rw [dropLead?_eq_some_iff, ← List.cons_append, List.append_cancel_left_eq] at hmore
    rw [hmore]
  · rename_i hnone
    have hsome : dropLead? (c :: old) (c :: (old ++ rest)) = some rest :=
      dropLead?_eq_some_iff.mpr rfl
    rw [hsome] at hnone
    cases hnone

theorem replaceChars_cons {c : α} {cs : List α} (hc : ¬ old <+: c :: cs) :
  replaceChars old new h (c :: cs) = c :: replaceChars old new h cs
  := by
  rw [replaceChars]
  split
  · rename_i rest hrest
    rw [dropLead?_eq_some_iff] at hrest
    exact (hc ⟨rest, hrest.symm⟩).elim
  · rfl

/-- What the first character of the text to replace does not occur in is kept. -/
theorem replaceChars_append {c : α} (hc : old.head? = some c) {kept : List α} (hkept : c ∉ kept)
    (rest : List α) :
  replaceChars old new h (kept ++ rest) = kept ++ replaceChars old new h rest
  := by
  induction kept with
  | nil => rfl
  | cons d kept ih =>
      rw [List.mem_cons, not_or] at hkept
      rw [List.cons_append, replaceChars_cons, ih hkept.2, List.cons_append]
      rintro ⟨more, hmore⟩
      obtain ⟨c', old, rfl⟩ := List.exists_cons_of_ne_nil h
      obtain rfl : c' = c := Option.some.inj hc
      rw [List.cons_append, List.cons.injEq] at hmore
      exact hkept.1 hmore.1

end

/-- A text that occurs once is replaced where it occurs. -/
theorem replaceAll_of_once {c : Char} {old lead trail : String} (hold : old.toList.head? = some c)
    (hlead : c ∉ lead.toList) (htrail : c ∉ trail.toList) (new : String) :
  replaceAll (lead ++ old ++ trail) old new = lead ++ new ++ trail
  := by
  have hne : old.toList ≠ [] := by
    rintro hnil
    simp [hnil] at hold
  have htrail' := @replaceChars_append _ _ old.toList new.toList hne c hold trail.toList htrail []
  rw [replaceChars, List.append_nil] at htrail'
  rw [replaceAll, replaceIn, dif_neg hne, String.toList_append, String.toList_append, List.append_assoc,
    replaceChars_append hold hlead, replaceChars_lead, htrail']
  simp [← String.toList_inj]

end DeploymentRecipes.Text
