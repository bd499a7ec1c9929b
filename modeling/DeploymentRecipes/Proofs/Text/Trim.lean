import DeploymentRecipes.Text.Classes
import Mathlib.Data.List.DropRight
import Mathlib.Data.List.Infix
import Mathlib.Data.List.TakeWhile

/-!
# Texts without their margins

What is trimmed from a text are the characters of a class at its ends.  The text between two margins is
left, no other character is lost, and a text without margins is left in front of what is added to it.
-/

namespace DeploymentRecipes.Text

variable {p : Char → Bool}

theorem dropWhile_append_of_neg {cs rest : List Char} (hne : cs ≠ [])
    (hcs : ∀ c ∈ cs, p c = false) :
  (cs ++ rest).dropWhile p = cs ++ rest
  := by
  obtain ⟨c, cs, rfl⟩ := List.exists_cons_of_ne_nil hne
  have hc : ¬ p c = true := by simp [hcs c List.mem_cons_self]
  rw [List.cons_append, List.dropWhile_cons_of_neg hc]

/-- The text between two margins is what is left without them. -/
theorem trimBoth_append {lead body trail : List Char}
    (hlead : ∀ c ∈ lead, p c = true) (hbody : ∀ c ∈ body, p c = false)
    (htrail : ∀ c ∈ trail, p c = true) :
  trimBoth p (lead ++ body ++ trail) = body
  := by
  rw [trimBoth, List.append_assoc, List.dropWhile_append_of_pos hlead]
  by_cases hne : body = []
  · have hnone := @List.dropWhile_append_of_pos _ p trail [] htrail
    rw [List.append_nil, List.dropWhile_nil] at hnone
    rw [hne, List.nil_append, hnone]
    rfl
  · have hreverse := @dropWhile_append_of_neg p body.reverse [] (by simpa using hne)
      (by simpa using hbody)
    rw [List.append_nil] at hreverse
    rw [dropWhile_append_of_neg hne hbody, List.reverse_append,
      List.dropWhile_append_of_pos (by simpa using htrail), hreverse, List.reverse_reverse]

theorem trimBoth_of_forall {cs : List Char} (h : ∀ c ∈ cs, p c = false) :
  trimBoth p cs = cs
  := by
  have htrim := @trimBoth_append p [] cs [] (by simp) h (by simp)
  rwa [List.nil_append, List.append_nil] at htrim

/-- A character outside the class stays. -/
theorem mem_trimBoth {c : Char} (hp : p c = false) {cs : List Char} (h : c ∈ cs) :
  c ∈ trimBoth p cs
  := by
  have hdrop : ∀ {ds : List Char}, c ∈ ds → c ∈ ds.dropWhile p := by
    intro ds hds
    rw [← @List.takeWhile_append_dropWhile _ p ds, List.mem_append] at hds
    rcases hds with hds | hds
    · have htaken := List.mem_takeWhile_imp hds
      rw [hp] at htaken
      cases htaken
    · exact hds
  rw [trimBoth, List.mem_reverse]
  apply hdrop
  rw [List.mem_reverse]
  apply hdrop h

/-- A text without margins stays in front of what is added behind a character of the class. -/
theorem trimBoth_append_cons {body : List Char} (hbody : trimBoth p body = body)
    (hne : body ≠ []) {c : Char} (hc : p c = true) (rest : List Char) :
  trimBoth p (body ++ c :: rest) = body
    ∨ ∃ kept, trimBoth p (body ++ c :: rest) = body ++ c :: kept
  := by
  have hfirst : body.dropWhile p = body := by
    have hinner : ((body.dropWhile p).reverse.dropWhile p).length ≤ (body.dropWhile p).reverse.length :=
      (List.dropWhile_suffix p).length_le
    have houter : (body.dropWhile p).length ≤ body.length := (List.dropWhile_suffix p).length_le
    have hlength := congrArg List.length hbody
    rw [trimBoth, List.length_reverse] at hlength
    rw [List.length_reverse] at hinner
    apply (List.dropWhile_suffix p).eq_of_length
    omega
  have hlast : body.reverse.dropWhile p = body.reverse := by
    rw [trimBoth, hfirst] at hbody
    rw [← List.reverse_reverse (body.reverse.dropWhile p), hbody]
  rw [trimBoth, List.dropWhile_append, hfirst, if_neg (by simpa using hne), List.reverse_append,
    List.reverse_cons, List.append_assoc, List.dropWhile_append]
  split
  · left
    rw [List.singleton_append, List.dropWhile_cons_of_pos hc, hlast, List.reverse_reverse]
  · right
    use (rest.reverse.dropWhile p).reverse
    simp

/-- A first character outside the class stays the first. -/
theorem exists_trimBoth_cons {c : Char} (hp : p c = false) (cs : List Char) :
  ∃ ds, trimBoth p (c :: cs) = c :: ds
  := by
  have hkept := mem_trimBoth hp (@List.mem_cons_self _ c cs)
  have htrim : trimBoth p (c :: cs) = (c :: cs).rdropWhile p := by
    rw [trimBoth, List.dropWhile_cons_of_neg (by simp [hp])]
    rfl
  cases hds : trimBoth p (c :: cs) with
  | nil =>
      rw [hds] at hkept
      cases hkept
  | cons d ds =>
      obtain ⟨dropped, hdropped⟩ := List.rdropWhile_prefix p (c :: cs)
      rw [← htrim, hds] at hdropped
      rw [(List.cons.inj hdropped).1]
      exact ⟨ds, rfl⟩

/-! ### Two classes -/

/-- A text is what is left of it between two margins. -/
theorem exists_margins (p : Char → Bool) (cs : List Char) :
  ∃ lead trail, cs = lead ++ trimBoth p cs ++ trail
    ∧ (∀ c ∈ lead, p c = true) ∧ ∀ c ∈ trail, p c = true
  := by
  refine ⟨cs.takeWhile p, (cs.dropWhile p).rtakeWhile p, ?_, ?_, ?_⟩
  · have htrim : trimBoth p cs = (cs.dropWhile p).rdropWhile p := rfl
    rw [htrim, List.append_assoc, List.rdropWhile_append_rtakeWhile, List.takeWhile_append_dropWhile]
  · intro c hc
    exact List.mem_takeWhile_imp hc
  · intro c hc
    exact List.mem_rtakeWhile_imp hc

/-- Around a text without characters of the class, the margins are trimmed on their far sides. -/
theorem trimBoth_append_append {lead body trail : List Char} (hne : body ≠ [])
    (hbody : ∀ c ∈ body, p c = false) :
  trimBoth p (lead ++ body ++ trail) = lead.dropWhile p ++ body ++ trail.rdropWhile p
  := by
  have hfront : (lead ++ (body ++ trail)).dropWhile p = lead.dropWhile p ++ (body ++ trail) := by
    rw [List.dropWhile_append]
    split
    · rename_i hempty
      rw [List.isEmpty_iff.mp hempty, dropWhile_append_of_neg hne hbody, List.nil_append]
    · rfl
  have hback : (trail.reverse ++ (body.reverse ++ (lead.dropWhile p).reverse)).dropWhile p
      = trail.reverse.dropWhile p ++ (body.reverse ++ (lead.dropWhile p).reverse) := by
    rw [List.dropWhile_append]
    split
    · rename_i hempty
      rw [List.isEmpty_iff.mp hempty,
        dropWhile_append_of_neg (by simpa using hne) (by simpa using hbody), List.nil_append]
    · rfl
  rw [trimBoth, List.append_assoc, hfront, List.reverse_append, List.reverse_append,
    List.append_assoc, hback, List.rdropWhile]
  simp

/-- What is trimmed of a class is trimmed of every smaller class. -/
theorem trimBoth_trimBoth {q : Char → Bool} (h : ∀ c, q c = true → p c = true) (cs : List Char) :
  trimBoth q (trimBoth p cs) = trimBoth p cs
  := by
  have htrim : trimBoth p cs = (cs.dropWhile p).rdropWhile p := rfl
  have hback : (trimBoth p cs).rdropWhile q = trimBoth p cs := by
    rw [List.rdropWhile_eq_self_iff]
    intro hne hlast
    exact List.rdropWhile_last_not p (cs.dropWhile p) hne (h _ hlast)
  have hfront : (trimBoth p cs).dropWhile q = trimBoth p cs := by
    cases hcs : trimBoth p cs with
    | nil => rfl
    | cons c rest =>
        apply List.dropWhile_cons_of_neg
        intro hc
        obtain ⟨dropped, hdropped⟩ := List.rdropWhile_prefix p (cs.dropWhile p)
        rw [← htrim, hcs, List.cons_append] at hdropped
        have hhead := List.dropWhile_get_zero_not p cs (by simp [← hdropped])
        apply hhead
        simpa [← hdropped] using h c hc
  rw [trimBoth, hfront]
  exact hback

end DeploymentRecipes.Text
