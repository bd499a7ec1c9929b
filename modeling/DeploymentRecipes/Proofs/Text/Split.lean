import DeploymentRecipes.Text.Substring

/-!
# Splitting a text

A text that is put together with a separator between two parts is split into the pieces of both,
and a text without the separator is a piece by itself.  The pieces make up the text again.
-/

namespace DeploymentRecipes.Text

theorem splitChars_ne_nil (sep : Char) (cs : List Char) :
  splitChars sep cs ≠ []
  := by
  induction cs with
  | nil => simp [splitChars]
  | cons c cs ih =>
      rw [splitChars]
      split
      · simp
      · split <;> simp

theorem splitChars_append_cons (sep : Char) (cs ds : List Char) :
  splitChars sep (cs ++ sep :: ds) = splitChars sep cs ++ splitChars sep ds
  := by
  induction cs with
  | nil => simp [splitChars]
  | cons c cs ih =>
      rw [List.cons_append, splitChars, splitChars, ih]
      by_cases hc : c = sep
      · rw [if_pos hc, if_pos hc, List.cons_append]
      · rw [if_neg hc, if_neg hc]
        cases hsplit : splitChars sep cs with
        | nil => apply (splitChars_ne_nil sep cs hsplit).elim
        | cons piece pieces => rfl

theorem splitChars_of_not_mem {sep : Char} {cs : List Char} (h : sep ∉ cs) :
  splitChars sep cs = [cs]
  := by
  induction cs with
  | nil => rfl
  | cons c cs ih =>
      rw [List.mem_cons, not_or] at h
      rw [splitChars, if_neg (Ne.symm h.1), ih h.2]

theorem not_mem_of_mem_splitChars {sep : Char} {cs piece : List Char}
    (h : piece ∈ splitChars sep cs) :
  sep ∉ piece
  := by
  induction cs generalizing piece with
  | nil =>
      rw [splitChars, List.mem_singleton] at h
      simp [h]
  | cons c cs ih =>
      rw [splitChars] at h
      split at h
      · rcases List.mem_cons.mp h with rfl | h
        · simp
        · exact ih h
      · rename_i hc
        split at h
        · rename_i first pieces hsplit
          rw [hsplit, List.forall_mem_cons] at ih
          rcases List.mem_cons.mp h with rfl | h
          · rw [List.mem_cons, not_or]
            exact ⟨Ne.symm hc, ih.1⟩
          · exact ih.2 _ h
        · rw [List.mem_singleton] at h
          simpa [h] using Ne.symm hc

theorem split_ne_nil (sep : Char) (s : String) :
  split sep s ≠ []
  := by simpa [split] using splitChars_ne_nil sep s.toList

/-- The pieces of two texts with the separator between them are the pieces of both. -/
theorem split_append_append (sep : Char) (s t : String) :
  split sep (s ++ String.singleton sep ++ t) = split sep s ++ split sep t
  := by
  rw [split, split, split, ← List.map_append, ← splitChars_append_cons]
  simp

/-- A text without the separator is its only piece. -/
theorem split_of_not_mem {sep : Char} {s : String} (h : sep ∉ s.toList) :
  split sep s = [s]
  := by
  rw [split, splitChars_of_not_mem h, List.map_singleton, String.ofList_toList]

/-- No piece of a text has the separator in it. -/
theorem not_mem_of_mem_split {sep : Char} {s piece : String} (h : piece ∈ split sep s) :
  sep ∉ piece.toList
  := by
  obtain ⟨cs, hcs, rfl⟩ := List.mem_map.mp h
  rw [String.toList_ofList]
  apply not_mem_of_mem_splitChars hcs

/-! ### Joining -/

theorem join_cons_cons (sep a b : String) (rest : List String) :
  join sep (a :: b :: rest) = a ++ sep ++ join sep (b :: rest)
  := rfl

/-- Two lists of texts are joined with the separator between what each of them makes. -/
theorem join_append (sep : String) {ss ts : List String} (hss : ss ≠ []) (hts : ts ≠ []) :
  join sep (ss ++ ts) = join sep ss ++ sep ++ join sep ts
  := by
  induction ss with
  | nil => cases hss rfl
  | cons s ss ih =>
      cases ss with
      | nil =>
          obtain ⟨t, ts, rfl⟩ := List.exists_cons_of_ne_nil hts
          rfl
      | cons s' ss =>
          have htail : s' :: (ss ++ ts) = s' :: ss ++ ts := rfl
          rw [List.cons_append, List.cons_append, join_cons_cons, join_cons_cons, htail,
            ih (by simp)]
          simp only [String.append_assoc]

theorem toList_join_splitChars (sep : Char) (cs : List Char) :
  (join (String.singleton sep) ((splitChars sep cs).map String.ofList)).toList = cs
  := by
  induction cs with
  | nil => rfl
  | cons c cs ih =>
      obtain ⟨piece, pieces, hsplit⟩ := List.exists_cons_of_ne_nil (splitChars_ne_nil sep cs)
      rw [hsplit] at ih
      rw [splitChars]
      split
      · rename_i hc
        rw [hsplit, List.map_cons, List.map_cons, join_cons_cons, ← List.map_cons,
          String.toList_append, String.toList_append, ih, hc]
        simp
      · rw [hsplit]
        cases pieces with
        | nil => simpa [join] using ih
        | cons next pieces =>
            simp only [List.map_cons, join_cons_cons, String.toList_append, String.toList_ofList]
              at ih ⊢
            rw [← ih]
            simp

/-- The pieces of a text, joined again, are the text. -/
theorem join_split (sep : Char) (s : String) :
  join (String.singleton sep) (split sep s) = s
  := by rw [← String.toList_inj, split, toList_join_splitChars]

end DeploymentRecipes.Text
