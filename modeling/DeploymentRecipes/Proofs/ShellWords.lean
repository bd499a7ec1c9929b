import DeploymentRecipes.Proofs.Result
import DeploymentRecipes.ShellWords

/-!
# Longer command lines

A command line that can be split ends outside quotes, so what follows it behind a blank is split on
its own and takes none of its words back.
-/

namespace DeploymentRecipes.ShellWords

/-- Between words nothing is begun. -/
theorem scan_between (acc cs : List Char) :
  scan .between acc cs = scan .between [] cs
  := by
  induction cs with
  | nil => rw [scan, scan]
  | cons c cs ih =>
      rw [scan, scan]
      split
      · exact ih
      · rfl

/-- A character leads to a mode and a word begun, and completes words, whatever follows it. -/
theorem exists_scan_cons (mode : Mode) (acc : List Char) (c : Char) :
  ∃ mode' acc' done, ∀ cs, scan mode acc (c :: cs) = (scan mode' acc' cs).map (done ++ ·)
  := by
  have hsame : ∀ result : Except Fault (List (List Char)), result = result.map ([] ++ ·) := by
    intro result
    cases result <;> rfl
  cases mode with
  | between =>
      by_cases hc : isSeparator c = true
      · exact ⟨.between, acc, [], fun cs => by rw [scan, if_pos hc, ← hsame]⟩
      · exact ⟨_, _, [], fun cs => by rw [scan, if_neg hc, ← hsame]⟩
  | word =>
      by_cases hc : isSeparator c = true
      · exact ⟨.between, [], [acc], fun cs => by rw [scan, if_pos hc]; rfl⟩
      · exact ⟨_, _, [], fun cs => by rw [scan, if_neg hc, ← hsame]⟩
  | quote mark =>
      by_cases hmark : c = mark
      · exact ⟨_, _, [], fun cs => by rw [scan, if_pos hmark, ← hsame]⟩
      · by_cases hescape : (c = '\\' && mark = '"') = true
        · exact ⟨_, _, [], fun cs => by rw [scan, if_neg hmark, if_pos hescape, ← hsame]⟩
        · exact ⟨_, _, [], fun cs => by rw [scan, if_neg hmark, if_neg hescape, ← hsame]⟩
  | escape => exact ⟨_, _, [], fun cs => by rw [scan, ← hsame]⟩
  | quotedEscape =>
      by_cases hc : (c = '"' || c = '\\') = true
      · exact ⟨_, _, [], fun cs => by rw [scan, if_pos hc, ← hsame]⟩
      · exact ⟨_, _, [], fun cs => by rw [scan, if_neg hc, ← hsame]⟩

/-- What stands behind a separator is split on its own. -/
theorem scan_append {mode : Mode} {acc cs : List Char} {words : List (List Char)}
    (h : scan mode acc cs = .ok words) {separator : Char} (hseparator : isSeparator separator = true)
    (rest : List Char) :
  scan mode acc (cs ++ separator :: rest) = (scan .between [] rest).map (words ++ ·)
  := by
  induction cs generalizing mode acc words with
  | nil =>
      cases mode with
      | between =>
          rw [scan] at h
          cases h
          rw [List.nil_append, scan, if_pos hseparator, scan_between]
          cases scan .between [] rest <;> rfl
      | word =>
          rw [scan] at h
          cases h
          rw [List.nil_append, scan, if_pos hseparator]
          rfl
      | quote mark => rw [scan] at h; cases h
      | escape => rw [scan] at h; cases h
      | quotedEscape => rw [scan] at h; cases h
  | cons c cs ih =>
      obtain ⟨mode', acc', done, hcons⟩ := exists_scan_cons mode acc c
      rw [hcons] at h
      obtain ⟨later, hlater, rfl⟩ := exists_of_map_eq_ok h
      rw [List.cons_append, hcons, ih hlater, map_map]
      congr 1
      funext more
      symm
      apply List.append_assoc

/-- A command line that can be split keeps its words, whatever follows it behind a blank. -/
theorem split_append {s : String} {words : List String} (h : split s = .ok words) (rest : String) :
  split (s ++ " " ++ rest) = (split rest).map (words ++ ·)
  := by
  have hchars : (s ++ " " ++ rest).toList = s.toList ++ ' ' :: rest.toList := by simp
  obtain ⟨first, hfirst, rfl⟩ := exists_of_map_eq_ok h
  rw [split, split, hchars, scan_append hfirst rfl, map_map, map_map]
  congr 1
  funext more
  apply List.map_append

end DeploymentRecipes.ShellWords
