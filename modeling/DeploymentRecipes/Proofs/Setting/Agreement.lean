import DeploymentRecipes.Proofs.Setting.Evaluation
import DeploymentRecipes.Proofs.Setting.Override

/-!
# What an evaluation depends on

Two states of the same settings that agree on the overrides of a setting and of everything that the
setting reaches in the dependency graph are alike from there on: the targets of its rules are, and so
are the children of an object.  An evaluation goes nowhere else, so it comes to the same in both.
-/

namespace DeploymentRecipes.Setting

variable {ss ts : List Setting} {path : String} {s t : Setting}

/-- Two states of the same settings, each of which has a path of its own. -/
structure States (ss ts : List Setting) : Prop where
  clearAll_eq : clearAll ss = clearAll ts
  ids : PathIds ss
  distinct : DistinctIds ss

/-- Two states agree on the override of the setting at a path and on those of all settings that it
reaches. -/
def AgreeFrom (g : Graph) (ss ts : List Setting) (path : String) : Prop :=
  ∀ q u v, (q, u) ∈ pathsUnderAll "" ss → (q, v) ∈ pathsUnderAll "" ts →
    q = path ∨ g.Reaches path q → u.override = v.override

/-- Agreement goes along the edges of the graph. -/
theorem AgreeFrom.of_edge {g : Graph} (h : AgreeFrom g ss ts path) {path' : String}
    (hedge : g.Edge path path') :
  AgreeFrom g ss ts path'
  := by
  intro q u v hu hv hq
  apply h q u v hu hv
  right
  rcases hq with rfl | hq
  · apply Relation.TransGen.single hedge
  · apply Relation.TransGen.head hedge hq

/-- A setting at a path in two states that agree from there on. -/
structure Alike (ss ts : List Setting) (path : String) (s t : Setting) : Prop where
  left : (path, s) ∈ pathsUnderAll "" ss
  right : (path, t) ∈ pathsUnderAll "" ts
  agree : AgreeFrom (dependencyGraph ss) ss ts path

theorem Alike.override_eq (h : Alike ss ts path s t) :
  s.override = t.override
  := h.agree path s t h.left h.right (Or.inl rfl)

/-- A path belongs to the same setting in both states. -/
theorem Alike.clear_eq (h : Alike ss ts path s t) (hstates : States ss ts) :
  clear s = clear t
  := by
  have hs : (path, clear s) ∈ pathsUnderAll "" (clearAll ss) := by
    rw [pathsUnderAll_clearAll]
    apply List.mem_map_of_mem h.left
  have ht : (path, clear t) ∈ pathsUnderAll "" (clearAll ss) := by
    rw [hstates.clearAll_eq, pathsUnderAll_clearAll]
    apply List.mem_map_of_mem h.right
  have hclear : clearAll ss = clearAll (clearAll ss) := (clearAll_clearAll ss).symm
  apply eq_of_path (hstates.ids.of_clearAll_eq hclear) (hstates.distinct.of_clearAll_eq hclear) hs
    ht

theorem Alike.declaration_eq (h : Alike ss ts path s t) (hstates : States ss ts) :
  s.declaration = t.declaration
  := declaration_eq_of_clear_eq (h.clear_eq hstates)

theorem Alike.id_eq (h : Alike ss ts path s t) (hstates : States ss ts) :
  s.id = t.id
  := by
  rw [id, h.declaration_eq hstates, id]

theorem Alike.dependsOn_eq (h : Alike ss ts path s t) (hstates : States ss ts) :
  s.dependsOn = t.dependsOn
  := by
  rw [dependsOn, h.declaration_eq hstates, dependsOn]

/-- The children of an object are alike, one by one. -/
theorem Alike.children (h : Alike ss ts path s t) (hstates : States ss ts)
    (hobject : s.type = .object) :
  List.Forall₂ (fun c d => Alike ss ts (pathUnder path c.id) c d) s.children t.children
  := by
  have hpairs : List.Forall₂ (· = ·) (s.children.map clear) (t.children.map clear) := by
    rw [← clearAll_eq_map, ← clearAll_eq_map, ← children_clear, h.clear_eq hstates, children_clear]
    apply List.forall₂_refl
  rw [List.forall₂_map_left_iff, List.forall₂_map_right_iff] at hpairs
  obtain ⟨hlength, hget⟩ := List.forall₂_iff_get.mp hpairs
  apply List.forall₂_iff_get.mpr
  use hlength
  intro i hi hi'
  have hc := s.children.get_mem ⟨i, hi⟩
  have hd := child_path h.right (t.children.get_mem ⟨i, hi'⟩)
  rw [id, ← declaration_eq_of_clear_eq (hget i hi hi'), ← id] at hd
  constructor
  · apply child_path h.left hc
  · exact hd
  · apply h.agree.of_edge
    apply edge_of_child hstates.ids hstates.distinct h.left hobject hc

/-- The targets of rules are alike. -/
theorem Alike.target (h : Alike ss ts path s t) (hstates : States ss ts) {rule : DependencyRule}
    (hrule : rule ∈ s.dependsOn) {u : Setting} (hu : find ss (some rule.target) = some u) :
  ∃ path' v, find ts (some rule.target) = some v ∧ Alike ss ts path' u v
  := by
  obtain ⟨spot, hlocate⟩ := find_eq_some_iff.mp hu
  obtain ⟨v, hlocate', -⟩ := exists_locate_of_clearAll_eq hstates.clearAll_eq hlocate
  obtain ⟨path', hpath', hleft, hedge⟩ :=
    edge_of_locate hstates.ids hstates.distinct h.left hrule hlocate
  obtain ⟨path'', hpath'', hright⟩ := exists_pathOf "" (at?_of_locate hlocate')
  rw [← pathOf_clearAll, ← hstates.clearAll_eq, pathOf_clearAll, hpath', Option.some.injEq]
    at hpath''
  subst hpath''
  use path', v, find_eq_some_iff.mpr ⟨spot, hlocate'⟩
  exact ⟨hleft, hright, h.agree.of_edge hedge⟩

/-! ### Evaluation of what is alike -/

section

variable {tokens : TokenTable} {shown : List (String × Bool)}

theorem Alike.bareValue_eq_of_children (h : Alike ss ts path s t) (hstates : States ss ts)
    (hchildren : s.type = .object →
      childValues tokens shown s.children [] = childValues tokens shown t.children []) :
  bareValue tokens shown s = bareValue tokens shown t
  := by
  have hoverride := h.override_eq
  have hdeclaration := h.declaration_eq hstates
  obtain ⟨d, v, cs⟩ := s
  obtain ⟨d', v', cs'⟩ := t
  obtain rfl : v = v' := hoverride
  obtain rfl : d = d' := hdeclaration
  rw [bareValue, bareValue]
  by_cases hobject : d.type = .object
  · have hvalues : childValues tokens shown cs [] = childValues tokens shown cs' [] :=
      hchildren hobject
    rw [if_pos hobject, if_pos hobject, hvalues]
  · rw [if_neg hobject, if_neg hobject]

theorem childValues_eq_of_alike (hstates : States ss ts) {cs ds : List Setting}
    (h : List.Forall₂ (fun c d => Alike ss ts (pathUnder path c.id) c d) cs ds)
    (acc : List (Value × Value)) :
  childValues tokens shown cs acc = childValues tokens shown ds acc
  := by
  induction cs using forestInd generalizing ds path shown acc with
  | nil => rw [List.forall₂_nil_left_iff.mp h]
  | cons c cs ihchildren ihrest =>
      obtain ⟨d, ds, hcd, hrest, rfl⟩ := List.forall₂_cons_left_iff.mp h
      have hvalue : bareValue tokens [] c = bareValue tokens [] d := by
        apply hcd.bareValue_eq_of_children hstates
        intro hobject
        apply ihchildren (hcd.children hstates hobject)
      rw [childValues, childValues, hcd.id_eq hstates, hvalue]
      simp only [ihrest hrest]

end

variable {scene scene' : Scene}

/-- The value of an object is the same if alike children are visible alike. -/
theorem Alike.valueBy_eq (hstates : States scene.settings scene'.settings)
    (htokens : scene.tokens = scene'.tokens)
    {visible visible' : Setting → Except ResolveError Bool}
    (hvisible : ∀ path c d, Alike scene.settings scene'.settings path c d → visible c = visible' d)
    (h : Alike scene.settings scene'.settings path s t) :
  scene.valueBy visible s = scene'.valueBy visible' t
  := by
  have htype : s.type = t.type := by rw [type, h.declaration_eq hstates, type]
  have hbare : ∀ shown, bareValue scene.tokens shown s = bareValue scene'.tokens shown t := by
    intro shown
    rw [htokens]
    apply h.bareValue_eq_of_children hstates
    intro hobject
    apply childValues_eq_of_alike hstates (h.children hstates hobject)
  rw [Scene.valueBy, Scene.valueBy, ← htype]
  by_cases hobject : s.type = .object
  · rw [if_pos hobject, if_pos hobject]
    have hshown : Scene.shownAll visible s.children [] = Scene.shownAll visible' t.children [] := by
      apply shownAll_forall₂
      apply (h.children hstates hobject).imp
      intro c d hcd
      exact ⟨hcd.id_eq hstates, hvisible _ _ _ hcd⟩
    rw [hshown]
    congr 1
    funext shown
    apply hbare
  · rw [if_neg hobject, if_neg hobject]
    apply hbare

/-- Settings that are alike are visible alike, whatever the bound of pending rules is. -/
theorem Alike.visibleWithin_eq (hstates : States scene.settings scene'.settings)
    (htokens : scene.tokens = scene'.tokens) (bound : Nat)
    (h : Alike scene.settings scene'.settings path s t) :
  scene.visibleWithin bound s = scene'.visibleWithin bound t
  := by
  induction bound generalizing path s t with
  | zero => rw [Scene.visibleWithin, Scene.visibleWithin, h.dependsOn_eq hstates]
  | succ bound ih =>
      rw [Scene.visibleWithin, Scene.visibleWithin, ← h.dependsOn_eq hstates]
      apply rulesHold_congr
      intro rule hrule
      cases hfind : find scene.settings (some rule.target) with
      | none =>
          have hfind' := find_clearAll scene'.settings (some rule.target)
          rw [← hstates.clearAll_eq, find_clearAll, hfind, Option.map_none, eq_comm,
            Option.map_eq_none_iff] at hfind'
          rw [hfind', Option.map_none, Option.map_none]
      | some u =>
          obtain ⟨path', v, hv, halike⟩ := h.target hstates hrule hfind
          rw [hv, Option.map_some, Option.map_some]
          congr 1
          apply halike.valueBy_eq hstates htokens
          intro path'' c d hcd
          apply ih hcd

/-- What is alike in two states with the same tokens has the same value, is visible in both or in
none, and goes wrong in the same way. -/
theorem Alike.evaluation_eq (hstates : States scene.settings scene'.settings)
    (htokens : scene.tokens = scene'.tokens)
    (h : Alike scene.settings scene'.settings path s t) :
  scene.value s = scene'.value t ∧ scene.isVisible s = scene'.isVisible t
  := by
  have hbound : scene.bound = scene'.bound := by
    rw [Scene.bound, Scene.bound, sizeAll_eq_of_clearAll_eq hstates.clearAll_eq]
  have hvisible : ∀ path c d, Alike scene.settings scene'.settings path c d →
      scene.isVisible c = scene'.isVisible d := by
    intro path c d hcd
    rw [Scene.isVisible, Scene.isVisible, hbound]
    apply hcd.visibleWithin_eq hstates htokens
  exact ⟨h.valueBy_eq hstates htokens hvisible, hvisible _ _ _ h⟩

/-! ### Changes elsewhere -/

theorem mem_pathsUnderAll_iff {parent : String} {p : String × Setting} :
  p ∈ pathsUnderAll parent ss ↔ ∃ s ∈ ss, p ∈ pathsUnder parent s
  := by
  induction ss with
  | nil => simp [pathsUnderAll]
  | cons s ss ih => simp [pathsUnderAll, ih]

theorem pathsUnder_eq (parent : String) (s : Setting) :
  pathsUnder parent s
    = (pathUnder parent s.id, s) :: pathsUnderAll (pathUnder parent s.id) s.children
  := by
  cases s
  rfl

/-- After a change at a place, what has a path stands at the place or below it, or has the override
that the setting with the path had before. -/
theorem paths_updateAt (change : Setting → Setting) {spot : Spot} (hs : at? ss spot = some s)
    (parent : String) :
  ∃ above, pathOf ss parent spot = some (pathUnder above s.id)
    ∧ ∀ q v, (q, v) ∈ pathsUnderAll parent (updateAt ss change spot) →
      (q, v) ∈ pathsUnder above (change s)
        ∨ ∃ u, (q, u) ∈ pathsUnderAll parent ss ∧ u.override = v.override
  := by
  induction spot generalizing ss parent with
  | nil => simp [at?] at hs
  | cons i rest ih =>
      cases rest with
      | nil =>
          rw [at?_singleton] at hs
          use parent
          constructor
          · simp [pathOf, hs]
          · intro q v hv
            rw [updateAt, hs] at hv
            obtain ⟨t, ht, hv⟩ := mem_pathsUnderAll_iff.mp hv
            rcases List.mem_or_eq_of_mem_set ht with ht | rfl
            · right
              use v, mem_pathsUnderAll_iff.mpr ⟨t, ht, hv⟩
            · exact Or.inl hv
      | cons j rest =>
          rw [at?_cons_cons, Option.bind_eq_some_iff] at hs
          obtain ⟨t, ht, hs⟩ := hs
          have hmem := path_of_mem parent (List.mem_of_getElem? ht)
          obtain ⟨above, hpath, hbelow⟩ := ih hs (pathUnder parent t.id)
          use above
          constructor
          · rw [pathOf, ht]
            exact hpath
          · intro q v hv
            rw [updateAt, ht] at hv
            obtain ⟨t', ht', hv⟩ := mem_pathsUnderAll_iff.mp hv
            rcases List.mem_or_eq_of_mem_set ht' with ht' | rfl
            · right
              use v, mem_pathsUnderAll_iff.mpr ⟨t', ht', hv⟩
            · rw [pathsUnder_eq] at hv
              rcases List.mem_cons.mp hv with heq | hv
              · obtain ⟨rfl, rfl⟩ := Prod.mk.inj heq
                right
                use t, hmem List.mem_cons_self
                rfl
              · rcases hbelow q v hv with hv | ⟨u, hu, heq⟩
                · exact Or.inl hv
                · exact Or.inr ⟨u, hmem (List.mem_cons_of_mem _ hu), heq⟩

/-- The paths of the settings whose overrides a set may change: those below an object, and of any
other setting its own. -/
def settable (path : String) (s : Setting) : List String :=
  if s.type = .object then (pathsUnderAll path s.children).map (·.1) else [path]

theorem override_setValue (judge : Judge) (value : Value) (hobject : s.type = .object) :
  (setValue judge value s).settings.override = s.override
  := by
  rcases settings_setValue judge value s with heq | heq | ⟨entries, heq⟩ | ⟨hleaf, -, -⟩
  · rw [heq]
  · rw [heq, override]
  · rw [heq, override]
  · exact (hleaf hobject).elim

theorem children_setValue (judge : Judge) (value : Value) (hleaf : s.type ≠ .object) :
  (setValue judge value s).settings.children = s.children
  := by
  obtain ⟨d, v, cs⟩ := s
  rw [type, declaration] at hleaf
  simp only [setValue, if_neg hleaf]
  split <;> rfl

theorem map_fst_pathsUnderAll {parent : String} (h : clearAll ss = clearAll ts) :
  (pathsUnderAll parent ss).map (·.1) = (pathsUnderAll parent ts).map (·.1)
  := by
  have hpaths := congrArg (List.map (·.1)) (congrArg (pathsUnderAll parent) h)
  rw [pathsUnderAll_clearAll, pathsUnderAll_clearAll, List.map_map, List.map_map] at hpaths
  exact hpaths

/-- A set at a place leaves all overrides but the settable ones as they were. -/
theorem agreeFrom_setValue (judge : Judge) (value : Value) {g : Graph} (hids : PathIds ss)
    (hdistinct : DistinctIds ss) {spot : Spot} (hs : at? ss spot = some s) {target : String}
    (htarget : pathOf ss "" spot = some target)
    (hfar : ∀ q ∈ settable target s, q ≠ path ∧ ¬ g.Reaches path q) :
  AgreeFrom g ss (updateAt ss (fun _ => (setValue judge value s).settings) spot) path
  := by
  intro q u v hu hv hq
  have hnew : q ∉ settable target s := by
    intro hmem
    rcases hq with heq | hreaches
    · apply (hfar q hmem).1 heq
    · apply (hfar q hmem).2 hreaches
  obtain ⟨path', hpath', hmem⟩ := exists_pathOf "" hs
  obtain rfl : target = path' := Option.some.inj (htarget.symm.trans hpath')
  obtain ⟨above, habove, hcases⟩ :=
    paths_updateAt (fun _ => (setValue judge value s).settings) hs ""
  rw [htarget, Option.some.injEq] at habove
  have hclear := clear_setValue judge value s
  have hid : (setValue judge value s).settings.id = s.id := by rw [← id_clear, hclear, id_clear]
  have hunique : ∀ w, (q, w) ∈ pathsUnderAll "" ss → u = w :=
    fun w hw => eq_of_path hids hdistinct hu hw
  rcases hcases q v hv with hv | ⟨w, hw, heq⟩
  · rw [pathsUnder_eq, hid, ← habove] at hv
    rcases List.mem_cons.mp hv with heq | hv
    · obtain ⟨rfl, rfl⟩ := Prod.mk.inj heq
      by_cases hobject : s.type = .object
      · rw [hunique s hmem, override_setValue judge value hobject]
      · simp [settable, hobject] at hnew
    · by_cases hobject : s.type = .object
      · have hchildren : clearAll (setValue judge value s).settings.children
            = clearAll s.children := by
          rw [← children_clear, hclear, children_clear]
        have hbelow : q ∈ (pathsUnderAll target s.children).map (·.1) := by
          rw [← map_fst_pathsUnderAll hchildren]
          apply List.mem_map_of_mem hv
        rw [settable, if_pos hobject] at hnew
        exact (hnew hbelow).elim
      · rw [children_setValue judge value hobject] at hv
        rw [hunique v (pathsUnderAll_children_subset hmem hv)]
  · rw [hunique w hw, heq]

end DeploymentRecipes.Setting
