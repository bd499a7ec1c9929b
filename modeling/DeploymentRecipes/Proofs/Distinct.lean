import Mathlib.Data.List.Induction
import Mathlib.Data.List.Nodup
import Mathlib.Data.List.Perm.Subperm

/-!
# Items that are added once

A list to which items are added only if they are new holds those that it held before and those that
were added, and no item twice if it held none twice.
-/

namespace DeploymentRecipes

variable {α : Type}

theorem pairwise_zipIdx (xs : List α) :
  xs.zipIdx.Pairwise fun p q => p.2 < q.2
  := by
  have hnumbers : (xs.zipIdx.map Prod.snd).Pairwise (· < ·) := by
    rw [List.zipIdx_map_snd]
    apply List.pairwise_lt_range' 1
  rwa [List.pairwise_map] at hnumbers

variable [BEq α]

/-- The list with the items that are new to it. -/
def addNew (acc xs : List α) : List α :=
  xs.foldl (fun acc x => if acc.contains x then acc else acc ++ [x]) acc

theorem addNew_cons (acc xs : List α) (x : α) :
  addNew acc (x :: xs) = addNew (if acc.contains x then acc else acc ++ [x]) xs
  := rfl

theorem addNew_append (acc xs ys : List α) :
  addNew acc (xs ++ ys) = addNew (addNew acc xs) ys
  := by
  rw [addNew, List.foldl_append]
  rfl

variable [LawfulBEq α]

theorem mem_addNew {acc xs : List α} {y : α} :
  y ∈ addNew acc xs ↔ y ∈ acc ∨ y ∈ xs
  := by
  induction xs generalizing acc with
  | nil => simp [addNew]
  | cons x xs ih =>
      rw [addNew_cons, ih, List.mem_cons]
      by_cases hx : x ∈ acc
      · rw [if_pos (by simpa using hx), ← or_assoc]
        apply or_congr_left
        rw [iff_self_or]
        rintro rfl
        exact hx
      · rw [if_neg (by simpa using hx), List.mem_append, List.mem_singleton, or_assoc]

theorem nodup_addNew {acc : List α} (h : acc.Nodup) (xs : List α) :
  (addNew acc xs).Nodup
  := by
  induction xs generalizing acc with
  | nil => exact h
  | cons x xs ih =>
      rw [addNew_cons]
      apply ih
      split
      · exact h
      · rename_i hx
        rw [← List.concat_eq_append]
        apply h.concat
        simpa using hx

/-- Items that all differ are added one behind the other. -/
theorem addNew_of_nodup {xs : List α} (h : xs.Nodup) :
  addNew [] xs = xs
  := by
  have hadd : ∀ acc : List α, (acc ++ xs).Nodup → addNew acc xs = acc ++ xs := by
    clear h
    induction xs with
    | nil => simp [addNew]
    | cons x xs ih =>
        intro acc hacc
        have hx : x ∉ acc := by
          intro hmem
          exact (List.nodup_append.mp hacc).2.2 x hmem x List.mem_cons_self rfl
        rw [addNew_cons, if_neg (by simpa using hx), ih]
        · rw [List.append_assoc, List.singleton_append]
        · rwa [List.append_assoc, List.singleton_append]
  apply hadd [] h

/-- Of items that stand at places in order, one is added before another if it stands somewhere before
all places of the other one. -/
theorem pairwise_addNew {β : Type} {before : β → β → Prop} {ps : List (β × α)}
    (h : ps.Pairwise fun p q => before p.1 q.1) :
  (addNew [] (ps.map (·.2))).Pairwise
    fun x y => ∃ p, (p, x) ∈ ps ∧ ∀ q, (q, y) ∈ ps → before p q
  := by
  induction ps using List.reverseRecOn with
  | nil => exact List.Pairwise.nil
  | append_singleton ps last ih =>
      obtain ⟨hps, -, hlast⟩ := List.pairwise_append.mp h
      have hadded : (addNew [] (ps.map (·.2))).Pairwise
          fun x y => ∃ p, (p, x) ∈ ps ++ [last] ∧ ∀ q, (q, y) ∈ ps ++ [last] → before p q := by
        apply (ih hps).imp
        rintro x y ⟨p, hp, hbefore⟩
        refine ⟨p, List.mem_append_left [last] hp, ?_⟩
        intro q hq
        rcases List.mem_append.mp hq with hq | hq
        · exact hbefore q hq
        · exact hlast (p, x) hp (q, y) hq
      rw [List.map_append, addNew_append, List.map_singleton, addNew_cons]
      change List.Pairwise _ (if _ then _ else _)
      split
      · exact hadded
      · rename_i hnew
        rw [List.pairwise_append]
        refine ⟨hadded, List.pairwise_singleton _ _, ?_⟩
        intro x hx y hy
        obtain rfl := List.mem_singleton.mp hy
        have hx' : x ∈ ps.map (·.2) := by simpa [mem_addNew] using hx
        obtain ⟨p, hp, rfl⟩ := List.mem_map.mp hx'
        refine ⟨p.1, List.mem_append_left [last] hp, ?_⟩
        intro q hq
        rcases List.mem_append.mp hq with hq | hq
        · have hknown : last.2 ∈ ps.map (·.2) := List.mem_map.mpr ⟨_, hq, rfl⟩
          exact (hnew (by simpa [mem_addNew] using hknown)).elim
        · exact hlast p hp (q, last.2) hq

/-- No item is passed over just when all differ. -/
theorem length_addNew_eq_iff {xs : List α} :
  (addNew [] xs).length = xs.length ↔ xs.Nodup
  := by
  constructor
  · intro hlength
    have hnodup := nodup_addNew List.nodup_nil xs
    have hsubset : addNew [] xs ⊆ xs := by
      intro x hx
      simpa [mem_addNew] using hx
    have hperm := (List.Nodup.subperm hnodup hsubset).perm_of_length_le (Nat.le_of_eq hlength.symm)
    exact hperm.nodup_iff.mp hnodup
  · intro hnodup
    rw [addNew_of_nodup hnodup]

/-- A list has more than one entry if two differ or one is repeated. -/
theorem one_lt_length_iff {xs : List α} :
  1 < xs.length ↔ ∃ x ∈ xs, (∃ y ∈ xs, y ≠ x) ∨ 1 < xs.count x
  := by
  constructor
  · intro h
    match xs, h with
    | x :: y :: rest, _ =>
        use x, List.mem_cons_self
        by_cases hsame : y = x
        · right
          rw [hsame, List.count_cons_self, List.count_cons_self]
          omega
        · exact Or.inl ⟨y, by simp, hsame⟩
  · rintro ⟨x, hx, ⟨y, hy, hne⟩ | htwice⟩
    · have hpos := List.length_pos_of_mem hx
      by_contra hle
      have hone : xs.length = 1 := by omega
      obtain ⟨z, rfl⟩ := List.length_eq_one_iff.mp hone
      rw [List.mem_singleton] at hx hy
      exact hne (hy.trans hx.symm)
    · apply Nat.lt_of_lt_of_le htwice List.count_le_length

end DeploymentRecipes
