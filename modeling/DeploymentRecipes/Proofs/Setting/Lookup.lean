import DeploymentRecipes.Proofs.Setting.Place
import DeploymentRecipes.Proofs.Setting.Spelling

/-!
# Looking up paths

Following a path leads to a setting, and the path of that setting is the part of the path that was
followed.  Following the path of a setting leads back to it unless a setting of type `keyValue` above
it ends the way.  The path of the node at a place is what a search through the tree finds that tries
one subtree after another and takes an empty path for none.  Paths are followed one after the other: two
of them with a point between lead to where the second one leads below the end of the first.
-/

namespace DeploymentRecipes.Setting

variable {ss : List Setting} {spot : Spot} {t : Setting}

/-! ### The ids on the way -/

theorem subset_walkAll_trail (ss : List Setting) (spot : Spot) :
  trail ss spot ⊆ walkAll ss
  := by
  induction spot generalizing ss with
  | nil => apply List.nil_subset
  | cons i rest ih =>
      cases hs : ss[i]? with
      | none =>
          rw [trail, hs]
          apply List.nil_subset
      | some s =>
          have hmem := subset_walkAll ss (List.mem_of_getElem? hs)
          rw [trail_cons hs, List.cons_subset]
          exact ⟨hmem, List.Subset.trans (ih s.children) (walkAll_children_subset hmem)⟩

/-- The path of a place is made of the ids on the way to it. -/
theorem pathOf_eq (parent : String) (h : at? ss spot = some t) :
  pathOf ss parent spot = some (((trail ss spot).map id).foldl pathUnder parent)
  := by
  induction spot generalizing ss parent with
  | nil => cases h
  | cons i rest ih =>
      cases hs : ss[i]? with
      | none => simp [at?, hs] at h
      | some s =>
          rw [trail_cons hs, pathOf, hs]
          cases rest with
          | nil => rfl
          | cons j rest =>
              rw [at?_cons_cons, hs, Option.bind_some] at h
              exact ih (pathUnder parent s.id) h

theorem pathOf_eq_spelling (h : at? ss spot = some t) :
  pathOf ss "" spot = some (spelling ((trail ss spot).map id))
  := pathOf_eq "" h

/-- The ids on the way to a setting can be read off its path. -/
theorem split_spelling_trail (hids : PathIds ss) (h : at? ss spot = some t) :
  Text.split '.' (spelling ((trail ss spot).map id)) = (trail ss spot).map id
  := by
  have hmem : ∀ part ∈ (trail ss spot).map id, part ≠ "" ∧ '.' ∉ part.toList := by
    rw [List.forall_mem_map]
    intro s hs
    apply hids s (subset_walkAll_trail ss spot hs)
  apply split_spelling
  · simpa using trail_ne_nil h
  · constructor
    · intro part hpart
      apply (hmem part hpart).2
    · intro hempty
      cases (hmem "" (List.mem_of_mem_head? hempty)).1 rfl

/-! ### From a path to a setting and back -/

/-- The segments that were followed are the ids on the way, and there are no others unless the way
ends early. -/
theorem trail_of_findSegments {segments : List String}
    (h : findSegments segments ss = some (spot, t)) :
  (trail ss spot).map id = segments.take spot.length
    ∧ (t.type ≠ .keyValue → spot.length = segments.length)
  := by
  induction segments generalizing ss spot with
  | nil => cases h
  | cons segment segments ih =>
      rw [findSegments] at h
      cases hfirst : firstWithId segment ss with
      | none =>
          rw [hfirst] at h
          cases h
      | some p =>
          obtain ⟨i, s⟩ := p
          obtain ⟨hs, hid⟩ := firstWithId_eq_some hfirst
          simp only [hfirst] at h
          split at h
          · rename_i hends
            obtain ⟨rfl, rfl⟩ := Prod.mk.inj (Option.some.inj h)
            constructor
            · rw [trail_cons hs, trail, List.map_singleton, hid]
              rfl
            · intro hgoes
              simpa [hgoes] using hends
          · obtain ⟨⟨below, t'⟩, hbelow, heq⟩ := Option.map_eq_some_iff.mp h
            obtain ⟨rfl, rfl⟩ := Prod.mk.inj heq
            obtain ⟨hways, hlength⟩ := ih hbelow
            constructor
            · rw [trail_cons hs, List.map_cons, hways, hid, List.length_cons, List.take_succ_cons]
            · intro hgoes
              rw [List.length_cons, List.length_cons, hlength hgoes]

/-- What a path leads to has the part of the path that was followed for its own path. -/
theorem pathOf_of_locate (hids : PathIds ss) {p : String}
    (h : locate ss (some p) = some (spot, t)) :
  ∃ path, pathOf ss "" spot = some path
    ∧ Text.split '.' path = (Text.split '.' p).take spot.length
    ∧ (path = p ∨ t.type = .keyValue ∧ ∃ key, p = path ++ "." ++ key)
  := by
  have hat := at?_of_locate h
  have hfound : findSegments (Text.split '.' p) ss = some (spot, t) := by
    rw [locate] at h
    split at h
    · cases h
    · exact h
  obtain ⟨hways, hlength⟩ := trail_of_findSegments hfound
  have hread := split_spelling_trail hids hat
  have hjoin := Text.join_split '.' (spelling ((trail ss spot).map id))
  have hsegments : (Text.split '.' p).take spot.length ++ (Text.split '.' p).drop spot.length
      = Text.split '.' p := List.take_append_drop _ _
  have hp := Text.join_split '.' p
  refine ⟨_, pathOf_eq_spelling hat, hread.trans hways, ?_⟩
  rw [hread, hways] at hjoin
  rw [hways]
  by_cases hrest : (Text.split '.' p).drop spot.length = []
  · left
    rw [hrest, List.append_nil] at hsegments
    rw [← hjoin, hsegments, hp]
  · right
    constructor
    · by_contra hgoes
      apply hrest
      rw [hlength hgoes, List.drop_length]
    · have hne : (Text.split '.' p).take spot.length ≠ [] := by
        rw [← hways]
        simpa using trail_ne_nil hat
      use Text.join "." ((Text.split '.' p).drop spot.length)
      calc
        p = Text.join "." ((Text.split '.' p).take spot.length
              ++ (Text.split '.' p).drop spot.length) := by
              rw [hsegments]
              exact hp.symm
        _ = _ := by
              rw [Text.join_append "." hne hrest, ← hjoin]
              rfl

/-! ### From a setting to its path and back -/

/-- The ids on the way to a setting lead to it unless the way ends early. -/
theorem findSegments_trail (hdistinct : DistinctIds ss) (h : at? ss spot = some t)
    (hgoes : ∀ s ∈ (trail ss spot).dropLast, s.type ≠ .keyValue) :
  findSegments ((trail ss spot).map id) ss = some (spot, t)
  := by
  induction spot generalizing ss with
  | nil => cases h
  | cons i rest ih =>
      cases hs : ss[i]? with
      | none => simp [at?, hs] at h
      | some s =>
          rw [trail_cons hs] at hgoes ⊢
          rw [List.map_cons, findSegments, firstWithId_eq_of_nodup hdistinct.top hs]
          cases rest with
          | nil =>
              rw [at?_singleton, hs] at h
              simp [trail, Option.some.inj h]
          | cons j rest =>
              rw [at?_cons_cons, hs, Option.bind_some] at h
              have hne := trail_ne_nil h
              rw [List.dropLast_cons_of_ne_nil hne, List.forall_mem_cons] at hgoes
              have hbelow := ih (hdistinct.children (subset_walkAll ss (List.mem_of_getElem? hs))) h
                hgoes.2
              simp [hgoes.1, hne, hbelow]

/-- The path of a setting leads back to it unless a setting above it ends the way. -/
theorem locate_of_pathOf (hids : PathIds ss) (hdistinct : DistinctIds ss)
    (h : at? ss spot = some t) (hgoes : ∀ s ∈ (trail ss spot).dropLast, s.type ≠ .keyValue) :
  ∃ path, pathOf ss "" spot = some path ∧ locate ss (some path) = some (spot, t)
  := by
  obtain ⟨path, hpath, hmem⟩ := exists_pathOf "" h
  refine ⟨path, hpath, ?_⟩
  have heq : path = spelling ((trail ss spot).map id) :=
    Option.some.inj (hpath.symm.trans (pathOf_eq_spelling h))
  rw [locate_of_ne_empty (path_ne_empty hids hmem), heq, split_spelling_trail hids h]
  apply findSegments_trail hdistinct h hgoes

/-! ### Searching the tree -/

/-- The path of the node at the place `target`, searched among settings that stand below the place
`above` from position `i` on. A node is tried before those below it and those before the nodes next
to it; an empty path from below counts as none. -/
def searchFrom (target above : Spot) (i : Nat) (parent : String) : List Setting → Option String
  | [] => none
  | .node d _ cs :: ss =>
    let path := pathUnder parent d.id
    let found :=
      if above ++ [i] = target then some path
      else (searchFrom target (above ++ [i]) 0 path cs).filter (· != "")
    found.or (searchFrom target above (i + 1) parent ss)

theorem searchFrom_cons (target above : Spot) (i : Nat) (parent : String) (s : Setting)
    (ss : List Setting) :
  searchFrom target above i parent (s :: ss)
    = (if above ++ [i] = target then some (pathUnder parent s.id)
        else (searchFrom target (above ++ [i]) 0 (pathUnder parent s.id) s.children).filter
          (· != "")).or (searchFrom target above (i + 1) parent ss)
  := by
  cases s
  rw [searchFrom]
  rfl

/-- A search that does not come by the target finds nothing. -/
theorem searchFrom_eq_none {target above : Spot} {i : Nat} (parent : String)
    (h : ∀ j, i ≤ j → ¬ above ++ [j] <+: target) :
  searchFrom target above i parent ss = none
  := by
  induction ss using forestInd generalizing above i parent with
  | nil => simp [searchFrom]
  | cons s ss ihchildren ihrest =>
      have hhere : above ++ [i] ≠ target := by
        rintro rfl
        exact h i (Nat.le_refl i) List.prefix_rfl
      have hbelow : searchFrom target (above ++ [i]) 0 (pathUnder parent s.id) s.children = none := by
        apply ihchildren
        intro j _ hprefix
        apply h i (Nat.le_refl i)
        exact (List.prefix_append _ _).trans hprefix
      have hrest : searchFrom target above (i + 1) parent ss = none := by
        apply ihrest
        intro j hj
        apply h j (by omega)
      rw [searchFrom_cons, if_neg hhere, hbelow, hrest]
      rfl

theorem pathUnder_ne_empty (parent : String) {id : String} (h : id ≠ "") :
  pathUnder parent id ≠ ""
  := by
  rw [pathUnder]
  split
  · exact h
  · simp [String.append_eq_empty_iff]

/-- No path of a setting is empty. -/
theorem pathOf_ne_empty (hids : PathIds ss) {parent path : String}
    (h : pathOf ss parent spot = some path) :
  path ≠ ""
  := by
  induction spot generalizing ss parent with
  | nil => cases h
  | cons i rest ih =>
      rw [pathOf] at h
      cases hs : ss[i]? with
      | none =>
          rw [hs] at h
          cases h
      | some s =>
          have hmem := subset_walkAll ss (List.mem_of_getElem? hs)
          simp only [hs] at h
          split at h
          · obtain rfl := Option.some.inj h
            apply pathUnder_ne_empty parent (hids s hmem).1
          · apply ih _ h
            intro u hu
            apply hids u (walkAll_children_subset hmem hu)

theorem searchFrom_eq_pathOf (hids : PathIds ss) (above : Spot) (i k : Nat) (rest : Spot)
    (parent : String) :
  searchFrom (above ++ (i + k) :: rest) above i parent ss = pathOf ss parent (k :: rest)
  := by
  induction ss using forestInd generalizing above i k rest parent with
  | nil => simp [searchFrom, pathOf]
  | cons s ss ihchildren ihrest =>
      have hsplit := forall_mem_walkAll_cons.mp hids
      rw [searchFrom_cons]
      cases k with
      | zero =>
          rw [Nat.add_zero, pathOf, List.getElem?_cons_zero]
          cases rest with
          | nil => simp
          | cons j rest =>
              have htarget : above ++ i :: j :: rest = (above ++ [i]) ++ (0 + j) :: rest := by simp
              have hnext : searchFrom (above ++ i :: j :: rest) above (i + 1) parent ss = none := by
                apply searchFrom_eq_none
                rintro j hj ⟨below, hbelow⟩
                have hhead := (List.append_cancel_left_eq above _ _).mp
                  ((List.append_assoc _ _ _).symm.trans hbelow)
                have := (List.cons.inj hhead).1
                omega
              rw [hnext, Option.or_none, if_neg (by simp), htarget, ihchildren hsplit.2.1]
              cases hpath : pathOf s.children (pathUnder parent s.id) (j :: rest) with
              | none => simp [hpath]
              | some path =>
                  have hne := pathOf_ne_empty hsplit.2.1 hpath
                  simp [hpath, hne]
      | succ k =>
          have hbelow : searchFrom (above ++ (i + (k + 1)) :: rest) (above ++ [i]) 0
              (pathUnder parent s.id) s.children = none := by
            apply searchFrom_eq_none
            rintro j - ⟨below, hbelow⟩
            simp only [List.append_assoc, List.append_cancel_left_eq] at hbelow
            have := (List.cons.inj hbelow).1
            omega
          have hindex : i + (k + 1) = (i + 1) + k := by omega
          have hne : above ++ [i] ≠ above ++ (i + (k + 1)) :: rest := by
            intro heq
            have := (List.cons.inj ((List.append_cancel_left_eq above _ _).mp heq)).1
            omega
          rw [if_neg hne, hbelow, Option.filter_none, Option.none_or, hindex,
            ihrest hsplit.2.2, pathOf, pathOf, List.getElem?_cons_succ]

/-- The search through the whole tree finds the path of the place. -/
theorem search_eq_pathOf (hids : PathIds ss) (spot : Spot) :
  searchFrom spot [] 0 "" ss = pathOf ss "" spot
  := by
  cases spot with
  | nil =>
      rw [pathOf]
      apply searchFrom_eq_none
      simp
  | cons k rest =>
      have hsearch := searchFrom_eq_pathOf hids [] 0 k rest ""
      rwa [List.nil_append, Nat.zero_add] at hsearch

/-! ### Paths and places -/

/-- Following a path and making the path of a place undo each other. The path of what a path leads to
is made of the segments that were followed, and these are all of them unless a setting of type
`keyValue` took the rest for a key. The path of a place leads back to it if no setting above it is of
that type. It is what a search of the tree for the place finds. -/
theorem pathOf_locate (hids : PathIds ss) (hdistinct : DistinctIds ss) :
  (∀ p spot t, locate ss (some p) = some (spot, t) →
    at? ss spot = some t ∧ ∃ path, pathOf ss "" spot = some path
      ∧ Text.split '.' path = (Text.split '.' p).take spot.length
      ∧ (path = p ∨ t.type = .keyValue ∧ ∃ key, p = path ++ "." ++ key))
    ∧ (∀ spot t, at? ss spot = some t → (∀ s ∈ (trail ss spot).dropLast, s.type ≠ .keyValue) →
      ∃ path, pathOf ss "" spot = some path ∧ locate ss (some path) = some (spot, t))
    ∧ ∀ spot, searchFrom spot [] 0 "" ss = pathOf ss "" spot
  := by
  refine ⟨?_, ?_, search_eq_pathOf hids⟩
  · intro p spot t h
    exact ⟨at?_of_locate h, pathOf_of_locate hids h⟩
  · intro spot t
    apply locate_of_pathOf hids hdistinct

/-- A setting without rules and validators. -/
def unruled (id : String) (type : SettingType) (children : List Setting) : Setting :=
  .node ⟨id, id, "", type, .null, false, true, [], []⟩ .null children

/-- A service with a machine, and tags that are shared by all its parts. -/
def taggedService : List Setting := [
  unruled "Machine" .object [unruled "Size" .string []],
  unruled "Service" .object [
    unruled "Network" .object [unruled "Size" .int []],
    unruled "Tags" .keyValue [unruled "Owner" .string []]]]

/-- A path that goes on below the tags ends at them, their own path leads to them, and so does the path
of a setting below them. -/
theorem pathOf_locate_taggedService :
  ∃ tags, locate taggedService (some "Service.Tags.Owner") = some ([1, 1], tags)
    ∧ pathOf taggedService "" [1, 1] = some "Service.Tags"
    ∧ locate taggedService (some "Service.Tags") = some ([1, 1], tags)
    ∧ (∃ size, at? taggedService [1, 0, 0] = some size
      ∧ locate taggedService (some "Service.Network.Size") = some ([1, 0, 0], size))
    ∧ searchFrom [1, 1, 0] [] 0 "" taggedService = some "Service.Tags.Owner"
  := by
  have hids : PathIds taggedService := by decide
  have hdistinct : DistinctIds taggedService := by decide
  obtain ⟨hfollow, hback, hsearch⟩ := pathOf_locate hids hdistinct
  have htags : locate taggedService (some "Service.Tags.Owner")
      = some ([1, 1], unruled "Tags" .keyValue [unruled "Owner" .string []]) := by rfl
  have hsize : at? taggedService [1, 0, 0] = some (unruled "Size" .int []) := by rfl
  obtain ⟨hat, -⟩ := hfollow _ _ _ htags
  obtain ⟨path', hpath', hlocate⟩ := hback _ _ hat (by decide)
  obtain rfl : path' = "Service.Tags" := Option.some.inj (hpath'.symm.trans (by rfl))
  obtain ⟨path'', hpath'', hlocate'⟩ := hback _ _ hsize (by decide)
  obtain rfl : path'' = "Service.Network.Size" := Option.some.inj (hpath''.symm.trans (by rfl))
  refine ⟨_, htags, hpath', hlocate, ⟨_, hsize, hlocate'⟩, ?_⟩
  rw [hsearch]
  rfl

/-! ### Paths that are put together -/

/-- Two paths with a point between them lead to where the second one leads below the setting that
the first one leads to, and to that setting itself if it is of type `keyValue`. Ids may repeat, be
empty and hold points. The place that is reached below a setting continues the setting's own. -/
theorem find_append (ss : List Setting) {p q : String} (hp : p ≠ "") (hq : q ≠ "") :
  (find ss (some (p ++ "." ++ q)) = (find ss (some p)).bind fun s =>
    if s.type = .keyValue then some s else find s.children (some q))
    ∧ locate ss (some (p ++ "." ++ q)) = (locate ss (some p)).bind fun found =>
      if found.2.type = .keyValue then some found
      else (locate found.2.children (some q)).map fun below => (found.1 ++ below.1, below.2)
  := by
  have hlocate : locate ss (some (p ++ "." ++ q)) = (locate ss (some p)).bind fun found =>
      if found.2.type = .keyValue then some found
      else (locate found.2.children (some q)).map fun below => (found.1 ++ below.1, below.2) := by
    rw [locate_append hp]
    simp only [locate_of_ne_empty hq]
  refine ⟨?_, hlocate⟩
  rw [find, hlocate, find]
  cases locate ss (some p) with
  | none => rfl
  | some found =>
      rw [Option.bind_some, Option.map_some, Option.bind_some]
      split
      · rfl
      · rw [Option.map_map, find]
        rfl

/-- A group with a part that has no name, and another group of the same name. -/
def namelessParts : List Setting := [
  unruled "Group" .object [
    unruled "" .object [unruled "Size" .int [], unruled "" .keyValue [], unruled "Size" .list []]],
  unruled "Group" .string []]

/-- The segments between points that stand side by side are empty, and lead to the parts without a
name. Of the settings with one id the first is found. -/
theorem find_append_namelessParts :
  (∃ size, locate namelessParts (some "Group..Size") = some ([0, 0, 0], size) ∧ size.type = .int)
    ∧ locate namelessParts (some "Group...Owner") = some ([0, 0, 1], unruled "" .keyValue [])
    ∧ find namelessParts (some "Group.Size") = none
  := by
  have hgroup := find_append namelessParts (p := "Group") (q := "Size") (by decide) (by decide)
  have hsize := find_append namelessParts (p := "Group.") (q := "Size") (by decide) (by decide)
  have howner := find_append namelessParts (p := "Group..") (q := "Owner") (by decide) (by decide)
  refine ⟨⟨unruled "Size" .int [], ?_, rfl⟩, ?_, ?_⟩
  · exact hsize.2
  · exact howner.2
  · exact hgroup.1

end DeploymentRecipes.Setting
