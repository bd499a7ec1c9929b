import DeploymentRecipes.Proofs.Text.Replacement
import DeploymentRecipes.Value.Shown
import Mathlib.Logic.Function.Basic

/-!
# Texts and their code points

A text is determined by its code points, and no half of a surrogate pair is among them.  So what code
points are replaced by in a text is what its characters are replaced by.
-/

namespace DeploymentRecipes

namespace Text

/-! ### The code points of characters -/

/-- No character is half of a pair. -/
theorem isHalf_toNat (c : Char) :
  isHalf c.toNat = false
  := by
  have hvalid : c.toNat < 0xd800 ∨ 0xdfff < c.toNat ∧ c.toNat < 0x110000 := c.valid
  simp only [isHalf, Bool.and_eq_false_iff, decide_eq_false_iff_not]
  omega

theorem isHalf_of_mem_codes {s : String} {code : Nat} (h : code ∈ codes s) :
  isHalf code = false
  := by
  obtain ⟨c, -, rfl⟩ := List.mem_map.mp h
  exact isHalf_toNat c

/-- A half of a pair is shown by the replacement character. -/
theorem mem_ofCodes_of_half {cs : List Nat} (h : cs.any isHalf = true) :
  '\ufffd' ∈ (ofCodes cs).toList
  := by
  obtain ⟨code, hcode, hhalf⟩ := List.any_eq_true.mp h
  rw [ofCodes, String.toList_ofList, List.mem_map]
  exact ⟨code, hcode, if_pos hhalf⟩

/-! ### Replacing -/

section

variable {α β : Type} [DecidableEq α] [DecidableEq β] {f : α → β} (hf : Function.Injective f)

include hf

theorem dropLead?_map (lead cs : List α) :
  dropLead? (lead.map f) (cs.map f) = (dropLead? lead cs).map (List.map f)
  := by
  induction lead generalizing cs with
  | nil => rfl
  | cons p lead ih =>
      cases cs with
      | nil => rfl
      | cons c cs =>
          rw [List.map_cons, List.map_cons, dropLead?, dropLead?, ih, apply_ite (Option.map _)]
          simp only [hf.eq_iff]
          rfl

theorem replaceChars_map {old : List α} (h : old ≠ []) (new cs : List α) :
  replaceChars (old.map f) (new.map f) (by simpa using h) (cs.map f)
    = (replaceChars old new h cs).map f
  := by
  induction cs using replaceChars.induct old h with
  | case1 => simp [replaceChars]
  | case2 c cs rest hrest ih =>
      rw [dropLead?_eq_some_iff] at hrest
      rw [hrest, List.map_append, replaceChars_lead, replaceChars_lead, ih, List.map_append]
  | case3 c cs hnone ih =>
      have hother : ¬ old <+: c :: cs := by
        rw [← dropLead?_isSome_iff, hnone]
        simp
      have hother' : ¬ old.map f <+: f c :: cs.map f := by
        rw [← dropLead?_isSome_iff, ← List.map_cons, dropLead?_map hf, hnone]
        simp
      rw [List.map_cons, replaceChars_cons hother', replaceChars_cons hother, ih, List.map_cons]

theorem replaceIn_map (cs old new : List α) :
  replaceIn (cs.map f) (old.map f) (new.map f) = (replaceIn cs old new).map f
  := by
  by_cases h : old = []
  · rw [h, List.map_nil, replaceIn, dif_pos rfl, replaceIn, dif_pos rfl]
    induction cs with
    | nil => rfl
    | cons c cs ih => rw [List.map_cons, List.foldr_cons, List.foldr_cons, ih]; simp
  · have h' : old.map f ≠ [] := by simpa using h
    rw [replaceIn, dif_neg h', replaceIn, dif_neg h, replaceChars_map hf h]

end

/-- Replacing a text by its code points is replacing it by its characters. -/
theorem replaceIn_codes (s old new : String) :
  replaceIn (codes s) (codes old) (codes new) = codes (replaceAll s old new)
  := by
  have hinj : Function.Injective Char.toNat := fun _ _ => Char.toNat_inj.mp
  rw [codes, codes, codes, replaceIn_map hinj, replaceAll, codes, String.toList_ofList]

end Text

namespace Value

/-- The code points of a text make up the text. -/
theorem ofCodes_codes (s : String) :
  ofCodes (Text.codes s) = .str s
  := by
  have hhalf : ¬ (Text.codes s).any Text.isHalf = true := by
    rw [Bool.not_eq_true, List.any_eq_false]
    intro code hcode
    simp [Text.isHalf_of_mem_codes hcode]
  rw [ofCodes, dif_neg hhalf, Text.codes, List.map_map]
  simp [Function.comp_def]

theorem ofCodes_of_half {codes : List Nat} (h : codes.any Text.isHalf = true) :
  ofCodes codes = .halfText codes h
  := dif_pos h

theorem isNull_ofCodes (codes : List Nat) :
  (ofCodes codes).isNull = false
  := by
  rw [ofCodes]
  split <;> rfl

end Value
end DeploymentRecipes
