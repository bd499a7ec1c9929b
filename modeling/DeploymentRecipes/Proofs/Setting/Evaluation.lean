import DeploymentRecipes.Proofs.Dependency.OfSettings
import DeploymentRecipes.Proofs.Result
import DeploymentRecipes.Proofs.Token.Table
import DeploymentRecipes.Setting.Resolution

/-!
# The end of an evaluation

Values and visibility are evaluated by each other: the visibility of a setting by the values of the
targets of its rules, and the value of an object by the visibility of its children.  Each of these
steps goes along an edge of the dependency graph.  So when the graph has no cycle, an evaluation
comes to its end, no more evaluations are nested in one another than there are settings, and all
that can go wrong is a rule for a setting that does not exist.
-/

namespace DeploymentRecipes.Setting

namespace Scene

mutual

/-- Whether a setting is visible, with at most `limit` evaluations nested in one another, this one
included. -/
def visibleNested (scene : Scene) : Nat → Setting → Except ResolveError Bool
  | 0, _ => .error .endless
  | limit + 1, s => scene.rulesHold (scene.valueNested limit) s.dependsOn

/-- The value of a setting, with at most `limit` evaluations nested in one another, this one
included. -/
def valueNested (scene : Scene) : Nat → Setting → Except ResolveError Value
  | 0, _ => .error .endless
  | limit + 1, s => scene.valueBy (scene.visibleNested limit) s

end

end Scene

/-! ### What an evaluation looks at -/

section

variable {scene scene' : Scene} {visible visible' : Setting → Except ResolveError Bool}
  {value value' : Setting → Except ResolveError Value}

/-- What is shown of settings hangs on their ids and their visibility. -/
theorem shownAll_forall₂ {cs ds : List Setting} {shown : List (String × Bool)}
    (h : List.Forall₂ (fun c d => c.id = d.id ∧ visible c = visible' d) cs ds) :
  Scene.shownAll visible cs shown = Scene.shownAll visible' ds shown
  := by
  induction h generalizing shown with
  | nil => rfl
  | cons hcd _ ih =>
      rw [Scene.shownAll, Scene.shownAll, hcd.1, hcd.2]
      congr 1
      funext b
      apply ih

theorem shownAll_map (copy : Setting → Setting) {cs : List Setting}
    {shown : List (String × Bool)}
    (h : ∀ c ∈ cs, (copy c).id = c.id ∧ visible' (copy c) = visible c) :
  Scene.shownAll visible' (cs.map copy) shown = Scene.shownAll visible cs shown
  := by
  apply shownAll_forall₂
  rw [List.forall₂_map_left_iff, List.forall₂_same]
  exact h

theorem shownAll_congr {cs : List Setting} {shown : List (String × Bool)}
    (h : ∀ c ∈ cs, visible c = visible' c) :
  Scene.shownAll visible cs shown = Scene.shownAll visible' cs shown
  := by
  rw [← shownAll_map (fun c => c) (fun c hc => ⟨rfl, h c hc⟩), List.map_id']

/-- The value of an object hangs on the visibility of its children, and no other on any. -/
theorem valueBy_congr {s : Setting}
    (h : s.type = .object → ∀ c ∈ s.children, visible c = visible' c) :
  scene.valueBy visible s = scene.valueBy visible' s
  := by
  rw [Scene.valueBy, Scene.valueBy]
  by_cases hobject : s.type = .object
  · rw [if_pos hobject, if_pos hobject, shownAll_congr (h hobject)]
  · rw [if_neg hobject, if_neg hobject]

/-- Rules hang on the values of their targets. -/
theorem rulesHold_congr {rules : List DependencyRule}
    (h : ∀ rule ∈ rules, (find scene.settings (some rule.target)).map value
      = (find scene'.settings (some rule.target)).map value') :
  scene.rulesHold value rules = scene'.rulesHold value' rules
  := by
  induction rules with
  | nil => rfl
  | cons rule rules ih =>
      rw [List.forall_mem_cons] at h
      rw [Scene.rulesHold, Scene.rulesHold, ih h.2]
      cases ht : find scene.settings (some rule.target) with
      | none =>
          rw [ht, Option.map_none, eq_comm, Option.map_eq_none_iff] at h
          simp only [h.1]
      | some t =>
          rw [ht, Option.map_some, eq_comm, Option.map_eq_some_iff] at h
          obtain ⟨⟨t', ht', hvalue⟩, -⟩ := h
          simp only [ht', hvalue]

/-! ### What goes wrong in an evaluation -/

theorem exists_error_of_shownAll {cs : List Setting} {shown : List (String × Bool)}
    {e : ResolveError} (h : Scene.shownAll visible cs shown = .error e) :
  ∃ c ∈ cs, visible c = .error e
  := by
  induction cs generalizing shown with
  | nil => cases h
  | cons c cs ih =>
      rw [Scene.shownAll] at h
      rcases eq_error_of_bind h with hvisible | ⟨b, -, hrest⟩
      · use c, List.mem_cons_self
      · obtain ⟨d, hd, hvisible⟩ := ih hrest
        use d, List.mem_cons_of_mem c hd

/-- A table of texts lets every setting have a value, once it is known what is shown. -/
theorem exists_bareValue {tokens : TokenTable} (htext : tokens.IsText)
    (shown : List (String × Bool)) (s : Setting) :
  ∃ v, bareValue tokens shown s = .ok v
  := by
  have fill : ∀ v, ∃ w, fillTokens tokens v = .ok w := by
    intro v
    obtain ⟨w, hw, -⟩ := Token.exists_substitute htext v
    use w
    rw [fillTokens, hw]
    rfl
  have node : ∀ (s : Setting) (shown : List (String × Bool)),
      (∀ acc, ∃ entries, childValues tokens shown s.children acc = .ok entries) →
        ∃ v, bareValue tokens shown s = .ok v := by
    rintro ⟨d, v, cs⟩ shown hchildren
    rw [bareValue]
    split
    · apply fill
    · split
      · obtain ⟨entries, hentries⟩ := hchildren []
        use mapOrNull entries
        rw [show childValues tokens shown cs [] = .ok entries from hentries]
        rfl
      · apply fill
  have all : ∀ (cs : List Setting) (shown : List (String × Bool)) (acc : List (Value × Value)),
      ∃ entries, childValues tokens shown cs acc = .ok entries := by
    intro cs
    induction cs using forestInd with
    | nil => exact fun _ acc => ⟨acc, rfl⟩
    | cons s ss ihchildren ihrest =>
        intro shown acc
        rw [childValues]
        split
        · obtain ⟨v, hv⟩ := node s [] (ihchildren [])
          rw [hv]
          apply ihrest
        · apply ihrest
  apply node s shown (all s.children shown)

/-- Only the visibility of a child of an object can keep a setting from having a value. -/
theorem exists_error_of_valueBy (htext : scene.tokens.IsText) {s : Setting} {e : ResolveError}
    (h : scene.valueBy visible s = .error e) :
  s.type = .object ∧ ∃ c ∈ s.children, visible c = .error e
  := by
  rw [Scene.valueBy] at h
  by_cases hobject : s.type = .object
  · use hobject
    rw [if_pos hobject] at h
    rcases eq_error_of_bind h with hshown | ⟨shown, -, hvalue⟩
    · apply exists_error_of_shownAll hshown
    · obtain ⟨v, hv⟩ := exists_bareValue htext shown s
      cases hv.symm.trans hvalue
  · rw [if_neg hobject] at h
    obtain ⟨v, hv⟩ := exists_bareValue htext [] s
    cases hv.symm.trans h

/-- Only a rule for an unknown setting and the value of a target can keep rules from a verdict. -/
theorem exists_error_of_rulesHold {rules : List DependencyRule} {e : ResolveError}
    (h : scene.rulesHold value rules = .error e) :
  ∃ rule ∈ rules,
    (find scene.settings (some rule.target) = none ∧ e = .notFound (some rule.target))
      ∨ ∃ t, find scene.settings (some rule.target) = some t ∧ value t = .error e
  := by
  induction rules with
  | nil => cases h
  | cons rule rules ih =>
      rw [Scene.rulesHold] at h
      cases hfind : find scene.settings (some rule.target) with
      | none =>
          rw [hfind] at h
          use rule, List.mem_cons_self
          exact Or.inl ⟨hfind, (Except.error.inj h).symm⟩
      | some t =>
          simp only [hfind] at h
          rcases eq_error_of_bind h with hvalue | ⟨v, -, hrest⟩
          · use rule, List.mem_cons_self
            exact Or.inr ⟨t, hfind, hvalue⟩
          · split at hrest
            · obtain ⟨rule', hrule', hcause⟩ := ih hrest
              use rule', List.mem_cons_of_mem rule hrule'
            · cases hrest

end

/-! ### Evaluation along a graph without cycles -/

section

variable {scene : Scene}

/-- A rule of some setting names a setting that does not exist. -/
def IsUnknownTarget (ss : List Setting) (e : ResolveError) : Prop :=
  ∃ s ∈ walkAll ss, ∃ rule ∈ s.dependsOn,
    find ss (some rule.target) = none ∧ e = .notFound (some rule.target)

theorem mem_walkAll_of_find {ss : List Setting} {path : Option String} {t : Setting}
    (h : find ss path = some t) :
  t ∈ walkAll ss
  := by
  obtain ⟨spot, hlocate⟩ := find_eq_some_iff.mp h
  apply mem_walkAll_of_at? (at?_of_locate hlocate)

/-- Apart from having no end, only a rule for an unknown setting can go wrong, with or without
cycles. -/
theorem error_of_visibleWithin (htext : scene.tokens.IsText) {bound : Nat} {s : Setting}
    (hs : s ∈ walkAll scene.settings) {e : ResolveError}
    (h : scene.visibleWithin bound s = .error e) :
  e = .endless ∨ IsUnknownTarget scene.settings e
  := by
  induction bound generalizing s with
  | zero =>
      rw [Scene.visibleWithin] at h
      split at h
      · cases h
      · exact Or.inl (Except.error.inj h).symm
  | succ bound ih =>
      obtain ⟨rule, hrule, ⟨hnone, he⟩ | ⟨t, ht, hvalue⟩⟩ := exists_error_of_rulesHold h
      · exact Or.inr ⟨s, hs, rule, hrule, hnone, he⟩
      · obtain ⟨-, c, hc, hvisible⟩ := exists_error_of_valueBy htext hvalue
        apply ih (child_mem_walkAll (mem_walkAll_of_find ht) hc) hvisible

theorem error_of_value (htext : scene.tokens.IsText) {s : Setting}
    (hs : s ∈ walkAll scene.settings) {e : ResolveError} (h : scene.value s = .error e) :
  e = .endless ∨ IsUnknownTarget scene.settings e
  := by
  obtain ⟨-, c, hc, hvisible⟩ := exists_error_of_valueBy htext h
  apply error_of_visibleWithin htext (child_mem_walkAll hs hc) hvisible

/-- Above the height of a setting, neither the limit of nested evaluations nor the bound of pending
rules matters. -/
theorem nested_eq (hids : PathIds scene.settings) (hdistinct : DistinctIds scene.settings)
    (hacyclic : (dependencyGraph scene.settings).Acyclic) {path : String} {s : Setting}
    (hs : (path, s) ∈ pathsUnderAll "" scene.settings) {limit bound : Nat}
    (hlimit : (dependencyGraph scene.settings).height path < limit)
    (hbound : (dependencyGraph scene.settings).height path ≤ bound) :
  scene.valueNested limit s = scene.valueBy (scene.visibleWithin bound) s
    ∧ scene.visibleNested limit s = scene.visibleWithin (bound + 1) s
  := by
  induction limit generalizing path s bound with
  | zero => simp at hlimit
  | succ limit ih =>
      constructor
      · rw [Scene.valueNested]
        apply valueBy_congr
        intro hobject c hc
        have hpath := child_path hs hc
        have hlower := Graph.height_lt_of_edge hacyclic
          (edge_of_child hids hdistinct hs hobject hc) (mem_nodes_of_path hids hdistinct hpath)
        obtain ⟨b, rfl⟩ : ∃ b, bound = b + 1 := Nat.exists_eq_add_one.mpr (by omega)
        apply (ih hpath (by omega) (by omega)).2
      · rw [Scene.visibleNested, Scene.visibleWithin]
        apply rulesHold_congr
        intro rule hrule
        apply Option.map_congr
        intro t ht
        obtain ⟨path', hpath', hedge⟩ := edge_of_rule hids hdistinct hs hrule ht
        have hlower := Graph.height_lt_of_edge hacyclic hedge
          (mem_nodes_of_path hids hdistinct hpath')
        apply (ih hpath' (by omega) (by omega)).1

/-- Above the height of a setting, only a rule for an unknown setting can go wrong. -/
theorem isUnknownTarget_of_nested (htext : scene.tokens.IsText) (hids : PathIds scene.settings)
    (hdistinct : DistinctIds scene.settings)
    (hacyclic : (dependencyGraph scene.settings).Acyclic) {path : String} {s : Setting}
    (hs : (path, s) ∈ pathsUnderAll "" scene.settings) {limit : Nat}
    (hlimit : (dependencyGraph scene.settings).height path < limit) {e : ResolveError}
    (h : scene.valueNested limit s = .error e ∨ scene.visibleNested limit s = .error e) :
  IsUnknownTarget scene.settings e
  := by
  induction limit generalizing path s with
  | zero => simp at hlimit
  | succ limit ih =>
      rcases h with h | h
      · obtain ⟨hobject, c, hc, hvisible⟩ := exists_error_of_valueBy htext h
        have hpath := child_path hs hc
        have hlower := Graph.height_lt_of_edge hacyclic
          (edge_of_child hids hdistinct hs hobject hc) (mem_nodes_of_path hids hdistinct hpath)
        apply ih hpath (by omega) (Or.inr hvisible)
      · rcases exists_error_of_rulesHold h with ⟨rule, hrule, hcause | ⟨t, ht, hvalue⟩⟩
        · exact ⟨s, mem_walkAll_of_path hs, rule, hrule, hcause⟩
        · obtain ⟨path', hpath', hedge⟩ := edge_of_rule hids hdistinct hs hrule ht
          have hlower := Graph.height_lt_of_edge hacyclic hedge
            (mem_nodes_of_path hids hdistinct hpath')
          apply ih hpath' (by omega) (Or.inl hvalue)

/-- Without cycles, as many nested evaluations as there are settings are enough for every value and
every visibility, and only rules for unknown settings can go wrong. -/
theorem evaluation_of_acyclic (htext : scene.tokens.IsText) (hids : PathIds scene.settings)
    (hdistinct : DistinctIds scene.settings)
    (hacyclic : (dependencyGraph scene.settings).Acyclic) {s : Setting}
    (hs : s ∈ walkAll scene.settings) :
  (∀ limit, sizeAll scene.settings ≤ limit →
      scene.valueNested limit s = scene.value s
        ∧ scene.visibleNested limit s = scene.isVisible s)
    ∧ (∀ e, scene.value s = .error e → IsUnknownTarget scene.settings e)
    ∧ ∀ e, scene.isVisible s = .error e → IsUnknownTarget scene.settings e
  := by
  obtain ⟨path, hpath⟩ := exists_path "" hs
  have hheight := Graph.height_lt_length hacyclic (mem_nodes_of_path hids hdistinct hpath)
  rw [length_nodes_dependencyGraph hids hdistinct] at hheight
  have hnested : ∀ limit, sizeAll scene.settings ≤ limit →
      scene.valueNested limit s = scene.value s
        ∧ scene.visibleNested limit s = scene.isVisible s := by
    intro limit hlimit
    constructor
    · apply (nested_eq hids hdistinct hacyclic hpath (by omega) _).1
      rw [Scene.bound]
      omega
    · apply (nested_eq hids hdistinct hacyclic hpath (by omega) _).2
      omega
  have hself := hnested (sizeAll scene.settings) (Nat.le_refl _)
  refine ⟨hnested, ?_, ?_⟩
  · intro e he
    rw [← hself.1] at he
    apply isUnknownTarget_of_nested htext hids hdistinct hacyclic hpath hheight (Or.inl he)
  · intro e he
    rw [← hself.2] at he
    apply isUnknownTarget_of_nested htext hids hdistinct hacyclic hpath hheight (Or.inr he)

end

end DeploymentRecipes.Setting
