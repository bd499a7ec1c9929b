import DeploymentRecipes.Setting.Override
import DeploymentRecipes.Setting.Path
import Mathlib.Data.List.Basic
import Mathlib.Tactic.Use

/-!
# Trees of settings

How the walk through a tree of settings, its size, and the tree without overrides fit together, and
which settings stand on the way to a place.  Two trees are the same apart from their overrides when
they are equal without overrides.
-/

namespace DeploymentRecipes.Setting

/-- What holds of no settings, and of settings as soon as it holds of the children of the first one
and of those after it, holds of all settings. -/
@[elab_as_elim]
theorem forestInd {motive : List Setting → Prop} (nil : motive [])
    (cons : ∀ s ss, motive s.children → motive ss → motive (s :: ss)) :
  ∀ ss, motive ss
  | [] => nil
  | .node d v cs :: ss => cons (.node d v cs) ss (forestInd nil cons cs) (forestInd nil cons ss)

/-! ### The walk -/

theorem walk_eq (s : Setting) :
  walk s = s :: walkAll s.children
  := by
  cases s
  rfl

theorem walkAll_cons (s : Setting) (ss : List Setting) :
  walkAll (s :: ss) = s :: walkAll s.children ++ walkAll ss
  := by
  rw [walkAll, walk_eq]

theorem mem_walkAll_cons {t s : Setting} {ss : List Setting} :
  t ∈ walkAll (s :: ss) ↔ t = s ∨ t ∈ walkAll s.children ∨ t ∈ walkAll ss
  := by
  simp [walkAll_cons]

/-- What holds of all settings that the walk passes holds of the first one, of those below it and of
those after it. -/
theorem forall_mem_walkAll_cons {p : Setting → Prop} {s : Setting} {ss : List Setting} :
  (∀ t ∈ walkAll (s :: ss), p t)
    ↔ p s ∧ (∀ t ∈ walkAll s.children, p t) ∧ ∀ t ∈ walkAll ss, p t
  := by
  simp [mem_walkAll_cons, or_imp, forall_and]

/-- The walk passes every setting it starts from. -/
theorem subset_walkAll (ss : List Setting) :
  ss ⊆ walkAll ss
  := by
  induction ss with
  | nil => apply List.nil_subset
  | cons s ss ih =>
      intro t ht
      rw [mem_walkAll_cons]
      rcases List.mem_cons.mp ht with rfl | ht
      · left
        rfl
      · right
        right
        apply ih ht

/-- The walk passes everything below what it passes. -/
theorem walkAll_children_subset {t : Setting} {ss : List Setting} (ht : t ∈ walkAll ss) :
  walkAll t.children ⊆ walkAll ss
  := by
  induction ss using forestInd with
  | nil => simp [walkAll] at ht
  | cons s ss ihchildren ihrest =>
      intro u hu
      rw [mem_walkAll_cons]
      rcases mem_walkAll_cons.mp ht with rfl | ht | ht
      · exact Or.inr (Or.inl hu)
      · exact Or.inr (Or.inl (ihchildren ht hu))
      · exact Or.inr (Or.inr (ihrest ht hu))

/-- A child of a setting that the walk passes is passed too. -/
theorem child_mem_walkAll {s c : Setting} {ss : List Setting} (hs : s ∈ walkAll ss)
    (hc : c ∈ s.children) :
  c ∈ walkAll ss
  := walkAll_children_subset hs (subset_walkAll s.children hc)

theorem sizeAll_cons (s : Setting) (ss : List Setting) :
  sizeAll (s :: ss) = sizeAll s.children + 1 + sizeAll ss
  := by
  cases s
  rfl

theorem length_walkAll (ss : List Setting) :
  (walkAll ss).length = sizeAll ss
  := by
  induction ss using forestInd with
  | nil => rfl
  | cons s ss ihchildren ihrest =>
      rw [walkAll_cons, sizeAll_cons, List.length_append, List.length_cons, ihchildren, ihrest]

/-! ### The tree without overrides -/

theorem clearAll_eq_map (ss : List Setting) :
  clearAll ss = ss.map clear
  := by
  induction ss with
  | nil => rfl
  | cons s ss ih => rw [clearAll, ih, List.map_cons]

@[simp]
theorem declaration_clear (s : Setting) :
  (clear s).declaration = s.declaration
  := by
  cases s
  rfl

@[simp]
theorem id_clear (s : Setting) :
  (clear s).id = s.id
  := by
  rw [id, declaration_clear, id]

@[simp]
theorem type_clear (s : Setting) :
  (clear s).type = s.type
  := by
  rw [type, declaration_clear, type]

@[simp]
theorem dependsOn_clear (s : Setting) :
  (clear s).dependsOn = s.dependsOn
  := by
  rw [dependsOn, declaration_clear, dependsOn]

@[simp]
theorem override_clear (s : Setting) :
  (clear s).override = .null
  := by
  cases s
  rfl

@[simp]
theorem children_clear (s : Setting) :
  (clear s).children = clearAll s.children
  := by
  cases s
  rfl

/-- A setting without overrides is what its declaration and its children without overrides say. -/
theorem clear_eq (s : Setting) :
  clear s = .node s.declaration .null (clearAll s.children)
  := by
  cases s
  rfl

theorem clearAll_cons (s : Setting) (ss : List Setting) :
  clearAll (s :: ss) = .node s.declaration .null (clearAll s.children) :: clearAll ss
  := by
  rw [clearAll, clear_eq]

theorem walkAll_clearAll (ss : List Setting) :
  walkAll (clearAll ss) = (walkAll ss).map clear
  := by
  induction ss using forestInd with
  | nil => rfl
  | cons s ss ihchildren ihrest =>
      rw [clearAll, walkAll_cons, walkAll_cons, children_clear, ihchildren, ihrest]
      simp

@[simp]
theorem clearAll_clearAll (ss : List Setting) :
  clearAll (clearAll ss) = clearAll ss
  := by
  induction ss using forestInd with
  | nil => rfl
  | cons s ss ihchildren ihrest =>
      rw [clearAll_cons, clearAll_cons, ihrest, children, declaration, ihchildren]

@[simp]
theorem clear_clear (s : Setting) :
  clear (clear s) = clear s
  := by
  simp [clear_eq, declaration, children]

/-- Settings that are the same apart from their overrides, side by side. -/
theorem exists_clear_eq {s : Setting} {ss ts : List Setting} (h : clearAll ss = clearAll ts)
    (hs : s ∈ walkAll ss) :
  ∃ t ∈ walkAll ts, clear t = clear s
  := by
  have hmem : clear s ∈ walkAll (clearAll ss) := by
    rw [walkAll_clearAll]
    apply List.mem_map_of_mem hs
  rw [h, walkAll_clearAll, List.mem_map] at hmem
  exact hmem

theorem declaration_eq_of_clear_eq {s t : Setting} (h : clear s = clear t) :
  s.declaration = t.declaration
  := by
  rw [← declaration_clear s, h, declaration_clear]

theorem sizeAll_eq_of_clearAll_eq {ss ts : List Setting} (h : clearAll ss = clearAll ts) :
  sizeAll ss = sizeAll ts
  := by
  have hlength := congrArg List.length (congrArg walkAll h)
  rw [walkAll_clearAll, walkAll_clearAll, List.length_map, List.length_map] at hlength
  rw [← length_walkAll, ← length_walkAll, hlength]

/-! ### Ids -/

theorem id_ne_of_mem {s t : Setting} {ss : List Setting} (hnew : s.id ∉ ss.map id) (ht : t ∈ ss) :
  t.id ≠ s.id
  := by
  intro heq
  apply hnew
  rw [← heq]
  apply List.mem_map_of_mem ht

/-- The ids of siblings differ, at the top level and below every setting. -/
structure DistinctIds (ss : List Setting) : Prop where
  top : (ss.map id).Nodup
  below : ∀ s ∈ walkAll ss, (s.children.map id).Nodup

theorem distinctIds_iff {ss : List Setting} :
  DistinctIds ss ↔ (ss.map id).Nodup ∧ ∀ s ∈ walkAll ss, (s.children.map id).Nodup
  := by
  constructor
  · intro h
    exact ⟨h.top, h.below⟩
  · rintro ⟨htop, hbelow⟩
    exact ⟨htop, hbelow⟩

instance (ss : List Setting) : Decidable (DistinctIds ss) :=
  decidable_of_iff _ distinctIds_iff.symm

theorem DistinctIds.children {ss : List Setting} (h : DistinctIds ss) {s : Setting}
    (hs : s ∈ walkAll ss) :
  DistinctIds s.children
  where
  top := h.below s hs
  below t ht := h.below t (walkAll_children_subset hs ht)

theorem distinctIds_nil :
  DistinctIds []
  := by
  constructor
  · apply List.nodup_nil
  · simp [walkAll]

/-- The ids of the first sibling and the others. -/
theorem distinctIds_cons_iff {s : Setting} {ss : List Setting} :
  DistinctIds (s :: ss) ↔
    s.id ∉ ss.map id ∧ DistinctIds s.children ∧ DistinctIds ss
  := by
  constructor
  · intro h
    have hnodup := List.nodup_cons.mp h.top
    exact ⟨hnodup.1, h.children (subset_walkAll _ List.mem_cons_self), hnodup.2,
      (forall_mem_walkAll_cons.mp h.below).2.2⟩
  · rintro ⟨hnew, hchildren, hrest⟩
    constructor
    · exact List.nodup_cons.mpr ⟨hnew, hrest.top⟩
    · exact forall_mem_walkAll_cons.mpr ⟨hchildren.top, hchildren.below, hrest.below⟩

theorem map_id_clearAll (ss : List Setting) :
  (clearAll ss).map id = ss.map id
  := by
  rw [clearAll_eq_map, List.map_map]
  apply List.map_congr_left
  intro s _
  apply id_clear

theorem DistinctIds.of_clearAll_eq {ss ts : List Setting} (h : clearAll ss = clearAll ts)
    (hss : DistinctIds ss) :
  DistinctIds ts
  := by
  constructor
  · rw [← map_id_clearAll, ← h, map_id_clearAll]
    apply hss.top
  · intro t ht
    obtain ⟨s, hs, hst⟩ := exists_clear_eq h.symm ht
    have hchildren := congrArg Setting.children hst
    rw [children_clear, children_clear] at hchildren
    rw [← map_id_clearAll, ← hchildren, map_id_clearAll]
    apply hss.below s hs

/-- Every id can be a part of a dotted path: it is not empty and holds no dot. -/
def PathIds (ss : List Setting) : Prop := ∀ s ∈ walkAll ss, s.id ≠ "" ∧ '.' ∉ s.id.toList

instance (ss : List Setting) : Decidable (PathIds ss) :=
  inferInstanceAs (Decidable (∀ s ∈ walkAll ss, s.id ≠ "" ∧ '.' ∉ s.id.toList))

theorem PathIds.of_clearAll_eq {ss ts : List Setting} (h : clearAll ss = clearAll ts)
    (hss : PathIds ss) :
  PathIds ts
  := by
  intro t ht
  obtain ⟨s, hs, hst⟩ := exists_clear_eq h.symm ht
  have hid : t.id = s.id := by rw [id, ← declaration_eq_of_clear_eq hst, id]
  rw [hid]
  apply hss s hs

/-! ### Places -/

/-- The settings on the way to a place, from the top level down to the setting at the place. -/
def trail (ss : List Setting) : Spot → List Setting
  | [] => []
  | i :: rest =>
    match ss[i]? with
    | none => []
    | some s => s :: trail s.children rest

theorem trail_cons {ss : List Setting} {i : Nat} {rest : Spot} {s : Setting}
    (h : ss[i]? = some s) :
  trail ss (i :: rest) = s :: trail s.children rest
  := by
  rw [trail, h]

theorem trail_clearAll (ss : List Setting) (spot : Spot) :
  trail (clearAll ss) spot = (trail ss spot).map clear
  := by
  induction spot generalizing ss with
  | nil => rfl
  | cons i rest ih =>
      cases h : ss[i]? with
      | none => rw [trail, trail, clearAll_eq_map, List.getElem?_map, h]; rfl
      | some s =>
          have hclear : (clearAll ss)[i]? = some (clear s) := by
            rw [clearAll_eq_map, List.getElem?_map, h, Option.map_some]
          rw [trail_cons h, trail_cons hclear, children_clear, ih, List.map_cons]

/-- The setting at a place. -/
def at? (ss : List Setting) : Spot → Option Setting
  | [] => none
  | i :: rest => ss[i]?.bind fun s => if rest.isEmpty then some s else at? s.children rest

@[simp]
theorem at?_singleton (ss : List Setting) (i : Nat) :
  at? ss [i] = ss[i]?
  := by
  simp [at?]

theorem at?_cons_cons (ss : List Setting) (i j : Nat) (rest : Spot) :
  at? ss (i :: j :: rest) = ss[i]?.bind fun s => at? s.children (j :: rest)
  := by
  simp [at?]

/-- The way to a place where something stands is not empty. -/
theorem trail_ne_nil {ss : List Setting} {spot : Spot} {t : Setting} (h : at? ss spot = some t) :
  trail ss spot ≠ []
  := by
  cases spot with
  | nil => simp [at?] at h
  | cons i rest =>
      cases hs : ss[i]? with
      | none => simp [at?, hs] at h
      | some s => simp [trail_cons hs]

/-- What stands at a place is passed by the walk. -/
theorem mem_walkAll_of_at? {ss : List Setting} {spot : Spot} {t : Setting}
    (h : at? ss spot = some t) :
  t ∈ walkAll ss
  := by
  induction spot generalizing ss with
  | nil => simp [at?] at h
  | cons i rest ih =>
      cases rest with
      | nil =>
          rw [at?_singleton] at h
          apply subset_walkAll ss (List.mem_of_getElem? h)
      | cons j rest =>
          rw [at?_cons_cons, Option.bind_eq_some_iff] at h
          obtain ⟨s, hs, ht⟩ := h
          apply walkAll_children_subset (subset_walkAll ss (List.mem_of_getElem? hs)) (ih ht)

end DeploymentRecipes.Setting
