import DeploymentRecipes.Proofs.Setting.Tree

/-!
# Addresses of settings

A setting is addressed by its dotted path, and found by following the segments of a path from the
top level down.  What is found stands at the place that is given with it, and the place has a path.
-/

namespace DeploymentRecipes.Setting

/-! ### Finding -/

theorem firstWithId_eq_some {id : String} {ss : List Setting} {i : Nat} {s : Setting}
    (h : firstWithId id ss = some (i, s)) :
  ss[i]? = some s ∧ s.id = id
  := by
  obtain ⟨⟨s', i'⟩, hfind, heq⟩ := Option.map_eq_some_iff.mp h
  obtain ⟨rfl, rfl⟩ := Prod.mk.inj heq
  constructor
  · apply List.mem_zipIdx_iff_getElem?.mp (List.mem_of_find?_eq_some hfind)
  · simpa using List.find?_some hfind

theorem firstWithId_clearAll (id : String) (ss : List Setting) :
  firstWithId id (clearAll ss) = (firstWithId id ss).map fun p => (p.1, clear p.2)
  := by
  simp [firstWithId, clearAll_eq_map, List.zipIdx_map, List.find?_map, Function.comp_def]

theorem at?_of_findSegments {segments : List String} {ss : List Setting} {spot : Spot}
    {t : Setting} (h : findSegments segments ss = some (spot, t)) :
  at? ss spot = some t
  := by
  induction segments generalizing ss spot with
  | nil => simp [findSegments] at h
  | cons segment rest ih =>
      rw [findSegments] at h
      cases hfirst : firstWithId segment ss with
      | none => simp [hfirst] at h
      | some p =>
          obtain ⟨i, s⟩ := p
          have hs := (firstWithId_eq_some hfirst).1
          simp only [hfirst] at h
          split at h
          · obtain ⟨rfl, rfl⟩ := Prod.mk.inj (Option.some.inj h)
            rw [at?_singleton, hs]
          · obtain ⟨⟨below, t'⟩, hfound, heq⟩ := Option.map_eq_some_iff.mp h
            obtain ⟨rfl, rfl⟩ := Prod.mk.inj heq
            have hat := ih hfound
            cases below with
            | nil => simp [at?] at hat
            | cons j below => rw [at?_cons_cons, hs, Option.bind_some, hat]

/-- What a path leads to stands at the place that is given with it. -/
theorem at?_of_locate {ss : List Setting} {path : Option String} {spot : Spot} {t : Setting}
    (h : locate ss path = some (spot, t)) :
  at? ss spot = some t
  := by
  cases path with
  | none => simp [locate] at h
  | some p =>
      rw [locate] at h
      split at h
      · simp at h
      · apply at?_of_findSegments h

theorem find_eq_some_iff {ss : List Setting} {path : Option String} {t : Setting} :
  find ss path = some t ↔ ∃ spot, locate ss path = some (spot, t)
  := by
  simp [find]

theorem findSegments_clearAll (segments : List String) (ss : List Setting) :
  findSegments segments (clearAll ss)
    = (findSegments segments ss).map fun p => (p.1, clear p.2)
  := by
  induction segments generalizing ss with
  | nil => rfl
  | cons segment rest ih =>
      rw [findSegments, findSegments, firstWithId_clearAll]
      cases firstWithId segment ss with
      | none => rfl
      | some p =>
          simp only [Option.map_some, type_clear, children_clear, ih]
          split
          · rfl
          · rw [Option.map_map, Option.map_map]
            rfl

/-- Overrides have no say in where a path leads. -/
theorem locate_clearAll (ss : List Setting) (path : Option String) :
  locate (clearAll ss) path = (locate ss path).map fun p => (p.1, clear p.2)
  := by
  cases path with
  | none => rfl
  | some p =>
      rw [locate, locate]
      split
      · rfl
      · apply findSegments_clearAll

theorem find_clearAll (ss : List Setting) (path : Option String) :
  find (clearAll ss) path = (find ss path).map clear
  := by
  rw [find, locate_clearAll, find, Option.map_map, Option.map_map]
  rfl

/-- Settings that differ in their overrides only are found at the same spots. -/
theorem exists_locate_of_clearAll_eq {ss ts : List Setting} (h : clearAll ss = clearAll ts)
    {path : Option String} {spot : Spot} {s : Setting} (hs : locate ss path = some (spot, s)) :
  ∃ t, locate ts path = some (spot, t) ∧ clear t = clear s
  := by
  have ht := locate_clearAll ts path
  rw [← h, locate_clearAll, hs, Option.map_some, eq_comm, Option.map_eq_some_iff] at ht
  obtain ⟨⟨spot', t⟩, ht, heq⟩ := ht
  obtain ⟨rfl, hclear⟩ := Prod.mk.inj heq
  use t

/-! ### Paths -/

theorem pathsUnderAll_cons (parent : String) (s : Setting) (ss : List Setting) :
  pathsUnderAll parent (s :: ss)
    = (pathUnder parent s.id, s) :: pathsUnderAll (pathUnder parent s.id) s.children
      ++ pathsUnderAll parent ss
  := by
  cases s
  rfl

/-- Every setting of a tree has a path, in the order of the walk. -/
theorem map_snd_pathsUnderAll (parent : String) (ss : List Setting) :
  (pathsUnderAll parent ss).map (·.2) = walkAll ss
  := by
  induction ss using forestInd generalizing parent with
  | nil => rfl
  | cons s ss ihchildren ihrest =>
      rw [pathsUnderAll_cons, walkAll_cons, List.map_append, List.map_cons, ihchildren, ihrest]

theorem mem_walkAll_of_path {parent path : String} {s : Setting} {ss : List Setting}
    (h : (path, s) ∈ pathsUnderAll parent ss) :
  s ∈ walkAll ss
  := by
  rw [← map_snd_pathsUnderAll parent]
  apply List.mem_map_of_mem h

theorem exists_path (parent : String) {s : Setting} {ss : List Setting} (h : s ∈ walkAll ss) :
  ∃ path, (path, s) ∈ pathsUnderAll parent ss
  := by
  rw [← map_snd_pathsUnderAll parent, List.mem_map] at h
  obtain ⟨⟨path, _⟩, hmem, rfl⟩ := h
  use path

/-- A setting at the top has the path that its id makes, and those below it have theirs below it. -/
theorem path_of_mem (parent : String) {s : Setting} {ss : List Setting} (hs : s ∈ ss) :
  (pathUnder parent s.id, s) :: pathsUnderAll (pathUnder parent s.id) s.children
    ⊆ pathsUnderAll parent ss
  := by
  induction ss with
  | nil => cases hs
  | cons t ss ih =>
      rw [pathsUnderAll_cons]
      rcases List.mem_cons.mp hs with rfl | hs
      · apply List.subset_append_left
      · apply List.Subset.trans (ih hs)
        apply List.subset_append_right

/-- The paths below a setting continue its own. -/
theorem pathsUnderAll_children_subset {parent path : String} {s : Setting} {ss : List Setting}
    (h : (path, s) ∈ pathsUnderAll parent ss) :
  pathsUnderAll path s.children ⊆ pathsUnderAll parent ss
  := by
  intro p hp
  induction ss using forestInd generalizing parent with
  | nil => simp [pathsUnderAll] at h
  | cons t ss ihchildren ihrest =>
      rw [pathsUnderAll_cons, List.mem_append, List.mem_cons] at h ⊢
      rcases h with (heq | h) | h
      · obtain ⟨rfl, rfl⟩ := Prod.mk.inj heq
        exact Or.inl (Or.inr hp)
      · exact Or.inl (Or.inr (ihchildren h))
      · exact Or.inr (ihrest h)

/-- The path of a child continues the path of its parent. -/
theorem child_path {parent path : String} {s c : Setting} {ss : List Setting}
    (h : (path, s) ∈ pathsUnderAll parent ss) (hc : c ∈ s.children) :
  (pathUnder path c.id, c) ∈ pathsUnderAll parent ss
  := pathsUnderAll_children_subset h (path_of_mem path hc List.mem_cons_self)

/-- The path of a place is the path of what stands there. -/
theorem exists_pathOf (parent : String) {ss : List Setting} {spot : Spot} {t : Setting}
    (h : at? ss spot = some t) :
  ∃ path, pathOf ss parent spot = some path ∧ (path, t) ∈ pathsUnderAll parent ss
  := by
  induction spot generalizing ss parent with
  | nil => simp [at?] at h
  | cons i rest ih =>
      cases rest with
      | nil =>
          rw [at?_singleton] at h
          use pathUnder parent t.id
          constructor
          · simp [pathOf, h]
          · apply path_of_mem parent (List.mem_of_getElem? h) List.mem_cons_self
      | cons j rest =>
          rw [at?_cons_cons, Option.bind_eq_some_iff] at h
          obtain ⟨s, hs, ht⟩ := h
          obtain ⟨path, hpath, hmem⟩ := ih (pathUnder parent s.id) ht
          use path
          constructor
          · simp only [pathOf, hs]
            exact hpath
          · apply path_of_mem parent (List.mem_of_getElem? hs) (List.mem_cons_of_mem _ hmem)

theorem pathsUnderAll_clearAll (parent : String) (ss : List Setting) :
  pathsUnderAll parent (clearAll ss)
    = (pathsUnderAll parent ss).map fun p => (p.1, clear p.2)
  := by
  induction ss using forestInd generalizing parent with
  | nil => rfl
  | cons s ss ihchildren ihrest =>
      rw [clearAll, pathsUnderAll_cons, pathsUnderAll_cons, children_clear, id_clear, ihchildren,
        ihrest]
      simp

theorem pathOf_clearAll (ss : List Setting) (parent : String) (spot : Spot) :
  pathOf (clearAll ss) parent spot = pathOf ss parent spot
  := by
  induction spot generalizing ss parent with
  | nil => rfl
  | cons i rest ih =>
      rw [pathOf, pathOf, clearAll_eq_map, List.getElem?_map]
      cases ss[i]? with
      | none => rfl
      | some s => simp only [Option.map_some, id_clear, children_clear, ih]

end DeploymentRecipes.Setting
