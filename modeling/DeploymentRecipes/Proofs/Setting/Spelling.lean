import DeploymentRecipes.Proofs.Setting.Address
import DeploymentRecipes.Proofs.Text.Split
import Mathlib.Data.List.Nodup

/-!
# Addresses and their spelling

The address of a setting is the list of the ids on the way to it, from the top level down.
Addresses tell settings apart as soon as sibling ids differ.  The dotted path of a setting spells
its address, and not every spelling can be read: an id with a dot in it looks like several ids, and
an empty id at the top level leaves no trace in the paths below it.
-/

namespace DeploymentRecipes.Setting

/-! ### Addresses -/

/-- The settings of a tree with their addresses, below a setting with the given address. -/
def addressesAll (above : List String) : List Setting → List (List String × Setting)
  | [] => []
  | .node d v cs :: ss =>
    (above ++ [d.id], .node d v cs) :: addressesAll (above ++ [d.id]) cs ++ addressesAll above ss

/-- The settings with their addresses, a setting before those below it. -/
def addresses (ss : List Setting) : List (List String × Setting) := addressesAll [] ss

theorem addressesAll_cons (above : List String) (s : Setting) (ss : List Setting) :
  addressesAll above (s :: ss)
    = (above ++ [s.id], s) :: addressesAll (above ++ [s.id]) s.children ++ addressesAll above ss
  := by
  cases s
  rw [addressesAll]
  rfl

/-- Every setting of a tree has an address, in the order of the walk. -/
theorem map_snd_addressesAll (above : List String) (ss : List Setting) :
  (addressesAll above ss).map (·.2) = walkAll ss
  := by
  induction ss using forestInd generalizing above with
  | nil => simp [addressesAll, walkAll]
  | cons s ss ihchildren ihrest =>
      rw [addressesAll_cons, walkAll_cons, List.map_append, List.map_cons, ihchildren, ihrest]

theorem length_addresses (ss : List Setting) :
  (addresses ss).length = sizeAll ss
  := by
  rw [← length_walkAll, ← map_snd_addressesAll [] ss, List.length_map, addresses]

/-- An address goes on with the id of a setting on the first level, and all further ids are those of
settings too. -/
theorem exists_of_mem_addressesAll {above : List String} {a : List String × Setting}
    {ss : List Setting} (h : a ∈ addressesAll above ss) :
  ∃ s ∈ ss, ∃ rest, a.1 = above ++ s.id :: rest ∧ ∀ id ∈ rest, ∃ t ∈ walkAll s.children, t.id = id
  := by
  induction ss using forestInd generalizing above with
  | nil => simp [addressesAll] at h
  | cons s ss ihchildren ihrest =>
      rw [addressesAll_cons, List.mem_append, List.mem_cons] at h
      rcases h with (rfl | h) | h
      · exact ⟨s, List.mem_cons_self, [], rfl, by simp⟩
      · obtain ⟨c, hc, rest, hrest, hids⟩ := ihchildren h
        refine ⟨s, List.mem_cons_self, c.id :: rest, ?_, ?_⟩
        · rw [hrest, List.append_assoc, List.singleton_append]
        · rw [List.forall_mem_cons]
          have hmem := subset_walkAll s.children hc
          refine ⟨⟨c, hmem, rfl⟩, ?_⟩
          intro id hid
          obtain ⟨t, ht, htid⟩ := hids id hid
          exact ⟨t, walkAll_children_subset hmem ht, htid⟩
      · obtain ⟨t, ht, hrest⟩ := ihrest h
        exact ⟨t, List.mem_cons_of_mem s ht, hrest⟩

/-- No two settings have the same address when sibling ids differ. -/
theorem nodup_addressesAll (above : List String) {ss : List Setting} (h : DistinctIds ss) :
  ((addressesAll above ss).map (·.1)).Nodup
  := by
  induction ss using forestInd generalizing above with
  | nil => simp [addressesAll]
  | cons s ss ihchildren ihrest =>
      obtain ⟨hnew, hchildren, hrest⟩ := distinctIds_cons_iff.mp h
      -- The addresses at and below `s` go on with the id of `s`.
      have hbelow : ∀ ids ∈ (above ++ [s.id])
            :: (addressesAll (above ++ [s.id]) s.children).map (·.1),
          ∃ rest, ids = above ++ s.id :: rest := by
        rw [List.forall_mem_cons, List.forall_mem_map]
        refine ⟨⟨[], rfl⟩, ?_⟩
        intro a ha
        obtain ⟨c, -, rest, hids, -⟩ := exists_of_mem_addressesAll ha
        use c.id :: rest
        rw [hids, List.append_assoc, List.singleton_append]
      rw [addressesAll_cons, List.map_append, List.map_cons, List.nodup_append, List.nodup_cons]
      refine ⟨⟨?_, ihchildren _ hchildren⟩, ihrest above hrest, ?_⟩
      · intro hmem
        obtain ⟨a, ha, heq⟩ := List.mem_map.mp hmem
        obtain ⟨c, -, rest, hids, -⟩ := exists_of_mem_addressesAll ha
        rw [heq] at hids
        simpa using congrArg List.length hids
      · intro ids hids ids' hids' heq
        obtain ⟨rest, hcons⟩ := hbelow ids hids
        obtain ⟨a, ha, rfl⟩ := List.mem_map.mp hids'
        obtain ⟨t, ht, rest', hcons', -⟩ := exists_of_mem_addressesAll ha
        rw [← heq, hcons, List.append_cancel_left_eq] at hcons'
        apply hnew
        rw [(List.cons.inj hcons').1]
        apply List.mem_map_of_mem ht

/-! ### Spelling -/

/-- The dotted path that spells an address. -/
def spelling (ids : List String) : String := ids.foldl pathUnder ""

theorem spelling_concat (ids : List String) (id : String) :
  spelling (ids ++ [id]) = pathUnder (spelling ids) id
  := by
  rw [spelling, List.foldl_append]
  rfl

theorem pathsUnderAll_spelling (above : List String) (ss : List Setting) :
  pathsUnderAll (spelling above) ss = (addressesAll above ss).map fun a => (spelling a.1, a.2)
  := by
  induction ss using forestInd generalizing above with
  | nil => simp [pathsUnderAll, addressesAll]
  | cons s ss ihchildren ihrest =>
      rw [pathsUnderAll_cons, addressesAll_cons, ← spelling_concat, ihchildren, ihrest,
        List.map_append, List.map_cons]

/-- The paths of settings spell their addresses. -/
theorem pathsUnderAll_eq_map (ss : List Setting) :
  pathsUnderAll "" ss = (addresses ss).map fun a => (spelling a.1, a.2)
  := pathsUnderAll_spelling [] ss

/-- An address whose spelling can be read: no id holds a dot, and nothing follows an empty id at the
top level. -/
structure IsSpelled (ids : List String) : Prop where
  noDot : ∀ id ∈ ids, '.' ∉ id.toList
  below : ids.head? = some "" → ids.tail = []

instance (ids : List String) : Decidable (IsSpelled ids) :=
  decidable_of_iff ((∀ id ∈ ids, '.' ∉ id.toList) ∧ (ids.head? = some "" → ids.tail = []))
    ⟨fun ⟨h₁, h₂⟩ => ⟨h₁, h₂⟩, fun ⟨h₁, h₂⟩ => ⟨h₁, h₂⟩⟩

/-- Below a path that is not empty, ids without dots are the last pieces of a path. -/
theorem split_foldl_pathUnder {parent : String} (hparent : parent ≠ "") {ids : List String}
    (h : ∀ id ∈ ids, '.' ∉ id.toList) :
  Text.split '.' (ids.foldl pathUnder parent) = Text.split '.' parent ++ ids
  := by
  induction ids generalizing parent with
  | nil => simp
  | cons id ids ih =>
      rw [List.forall_mem_cons] at h
      have hpath : pathUnder parent id = parent ++ "." ++ id := by
        rw [pathUnder, if_neg (by simpa using hparent)]
      have hne : parent ++ "." ++ id ≠ "" := by
        simp [String.append_eq_empty_iff]
      have hsplit : Text.split '.' (parent ++ "." ++ id) = Text.split '.' parent ++ [id] := by
        rw [← Text.split_of_not_mem h.1]
        apply Text.split_append_append
      rw [List.foldl_cons, hpath, ih hne h.2, hsplit, List.append_assoc, List.singleton_append]

/-- Such an address can be read off its spelling. -/
theorem split_spelling {ids : List String} (hne : ids ≠ []) (h : IsSpelled ids) :
  Text.split '.' (spelling ids) = ids
  := by
  cases ids with
  | nil => cases hne rfl
  | cons id ids =>
      obtain ⟨hdots, hbelow⟩ := h
      rw [List.forall_mem_cons] at hdots
      have hpath : pathUnder "" id = id := rfl
      rw [spelling, List.foldl_cons, hpath]
      by_cases hid : id = ""
      · have hnil : ids = [] := hbelow (by rw [List.head?_cons, hid])
        rw [hnil, List.foldl_nil, Text.split_of_not_mem hdots.1]
      · rw [split_foldl_pathUnder hid hdots.2, Text.split_of_not_mem hdots.1, List.singleton_append]

theorem ne_nil_of_mem_addresses {a : List String × Setting} {ss : List Setting}
    (h : a ∈ addresses ss) :
  a.1 ≠ []
  := by
  obtain ⟨s, -, rest, hids, -⟩ := exists_of_mem_addressesAll h
  simp [hids]

/-- Two settings whose addresses can be read have the same path only if they are the same. -/
theorem eq_of_spelling_eq {ss : List Setting} (hdistinct : DistinctIds ss)
    {a b : List String × Setting} (ha : a ∈ addresses ss) (hb : b ∈ addresses ss)
    (hspelled : IsSpelled a.1) (hspelled' : IsSpelled b.1) (heq : spelling a.1 = spelling b.1) :
  a = b
  := by
  have hids : a.1 = b.1 := by
    rw [← split_spelling (ne_nil_of_mem_addresses ha) hspelled, heq,
      split_spelling (ne_nil_of_mem_addresses hb) hspelled']
  exact List.inj_on_of_nodup_map (nodup_addressesAll [] hdistinct) ha hb hids

/-- No two settings have the same path if all addresses can be read. -/
theorem nodup_spellings {ss : List Setting} (hdistinct : DistinctIds ss)
    (hspelled : ∀ a ∈ addresses ss, IsSpelled a.1) :
  ((addresses ss).map fun a => spelling a.1).Nodup
  := by
  apply List.Nodup.map_on _ (nodup_addressesAll [] hdistinct).of_map
  intro a ha b hb heq
  apply eq_of_spelling_eq hdistinct ha hb (hspelled a ha) (hspelled b hb) heq

/-! ### Ids that can be parts of paths -/

/-- An address of ids that are not empty and hold no dot can be read. -/
theorem PathIds.isSpelled {ss : List Setting} (hids : PathIds ss) {a : List String × Setting}
    (ha : a ∈ addresses ss) :
  IsSpelled a.1
  := by
  obtain ⟨s, hs, rest, heq, hrest⟩ := exists_of_mem_addressesAll ha
  have hmem := subset_walkAll ss hs
  rw [List.nil_append] at heq
  rw [heq]
  constructor
  · rw [List.forall_mem_cons]
    refine ⟨(hids s hmem).2, ?_⟩
    intro id hid
    obtain ⟨t, ht, rfl⟩ := hrest id hid
    apply (hids t (walkAll_children_subset hmem ht)).2
  · intro hempty
    cases (hids s hmem).1 (Option.some.inj hempty)

/-- No two settings have the same path. -/
theorem nodup_paths {ss : List Setting} (hids : PathIds ss) (hdistinct : DistinctIds ss) :
  ((pathsUnderAll "" ss).map (·.1)).Nodup
  := by
  rw [pathsUnderAll_eq_map, List.map_map]
  apply nodup_spellings hdistinct
  intro a ha
  apply hids.isSpelled ha

/-- A path belongs to one setting. -/
theorem eq_of_path {path : String} {s t : Setting} {ss : List Setting} (hids : PathIds ss)
    (hdistinct : DistinctIds ss) (hs : (path, s) ∈ pathsUnderAll "" ss)
    (ht : (path, t) ∈ pathsUnderAll "" ss) :
  s = t
  := by
  have hpair := List.inj_on_of_nodup_map (nodup_paths hids hdistinct) hs ht rfl
  apply (Prod.mk.inj hpair).2

/-- The path of a setting is not empty. -/
theorem path_ne_empty {path : String} {t : Setting} {ss : List Setting} (hids : PathIds ss)
    (h : (path, t) ∈ pathsUnderAll "" ss) :
  path ≠ ""
  := by
  rw [pathsUnderAll_eq_map, List.mem_map] at h
  obtain ⟨a, ha, heq⟩ := h
  obtain ⟨rfl, -⟩ := Prod.mk.inj heq
  obtain ⟨s, hs, rest, hcons, -⟩ := exists_of_mem_addressesAll ha
  have hsplit := split_spelling (ne_nil_of_mem_addresses ha) (hids.isSpelled ha)
  intro hempty
  rw [hempty, hcons] at hsplit
  apply (hids s (subset_walkAll ss hs)).1
  exact (List.cons.inj hsplit).1.symm

end DeploymentRecipes.Setting
