import DeploymentRecipes.Proofs.Recommendation.Evaluation
import DeploymentRecipes.Proofs.Setting.Pinned
import Mathlib

/-!
# Redeployment

A deployment leaves the values of its settings by id.  Applied to the recipe as it was at first, they
give every setting the value that it had, also though hidden settings are left out: they pin the
settings that are shown, and where no target of a rule can be hidden below the top level, every rule
finds its target as before.
-/

namespace DeploymentRecipes

namespace Setting

/-! ### What is shown -/

/-- A visibility that is entered replaces the one before. -/
theorem isShown_recordShown (acc : List (String × Bool)) (id id' : String) (b : Bool) :
  isShown (recordShown acc id b) id' = if id' = id then b else isShown acc id'
  := by
  rw [recordShown]
  split
  · rename_i hany
    have hkeep : (fun p : String × Bool => p.1 == id') ∘ (fun p => if p.1 == id then (id, b) else p)
        = fun p => p.1 == id' := by
      funext p
      by_cases hp : p.1 = id <;> simp [hp]
    rw [isShown, List.find?_map, hkeep]
    by_cases hid : id' = id
    · subst hid
      cases hfind : acc.find? (·.1 == id') with
      | none =>
          obtain ⟨p, hp, hpid⟩ := List.any_eq_true.mp hany
          cases List.find?_eq_none.mp hfind p hp hpid
      | some p =>
          have hp : p.1 = id' := by simpa using List.find?_some hfind
          simp [hp]
    · rw [if_neg hid, isShown]
      cases hfind : acc.find? (·.1 == id') with
      | none => rfl
      | some p =>
          have hp : p.1 = id' := by simpa using List.find?_some hfind
          simp [hp, hid]
  · rename_i hany
    rw [isShown, List.find?_append]
    by_cases hid : id' = id
    · subst hid
      have hnone : acc.find? (·.1 == id') = none := by
        rw [List.find?_eq_none]
        intro p hp hpid
        apply hany
        exact List.any_eq_true.mpr ⟨p, hp, hpid⟩
      simp [hnone]
    · simp [isShown, hid, Ne.symm hid]

/-- Among settings with different ids, each is shown as its visibility says. -/
theorem isShown_of_shownAll {visible : Setting → Except ResolveError Bool} {cs : List Setting}
    (hnodup : (cs.map id).Nodup) {acc shown : List (String × Bool)}
    (h : Scene.shownAll visible cs acc = .ok shown) :
  (∀ id, id ∉ cs.map Setting.id → isShown shown id = isShown acc id)
    ∧ ∀ c ∈ cs, visible c = .ok (isShown shown c.id)
  := by
  induction cs generalizing acc with
  | nil =>
      rw [Scene.shownAll, Except.ok.injEq] at h
      simp [h]
  | cons c cs ih =>
      rw [List.map_cons, List.nodup_cons] at hnodup
      rw [Scene.shownAll] at h
      obtain ⟨b, hvisible, hrest⟩ := exists_of_bind_eq_ok h
      obtain ⟨hother, hown⟩ := ih hnodup.2 hrest
      constructor
      · intro id hid
        rw [List.map_cons, List.mem_cons, not_or] at hid
        rw [hother id hid.2, isShown_recordShown, if_neg hid.1]
      · rw [List.forall_mem_cons]
        constructor
        · rw [hvisible, hother c.id hnodup.1, isShown_recordShown, if_pos rfl]
        · apply hown

/-- When every visibility is known, so is what is shown. -/
theorem exists_shownAll {visible : Setting → Except ResolveError Bool} {cs : List Setting}
    (h : ∀ c ∈ cs, ∃ b, visible c = .ok b) (acc : List (String × Bool)) :
  ∃ shown, Scene.shownAll visible cs acc = .ok shown
  := by
  apply exists_eq_ok
  intro e he
  obtain ⟨c, hc, herror⟩ := exists_error_of_shownAll he
  obtain ⟨b, hb⟩ := h c hc
  cases hb.symm.trans herror

/-! ### Rules with plain targets -/

/-- Every rule names a setting that is no object, stands below objects only, and cannot be hidden
except by hiding the setting at the top level that it belongs to. -/
def PlainTargets (ss : List Setting) : Prop :=
  ∀ s ∈ walkAll ss, ∀ rule ∈ s.dependsOn, ∃ spot t, locate ss (some rule.target) = some (spot, t)
    ∧ t.type ≠ .object ∧ (∀ a ∈ (trail ss spot).dropLast, a.type = .object)
    ∧ ∀ a ∈ (trail ss spot).tail, a.dependsOn = []

theorem plainTargets_iff {ss : List Setting} :
  PlainTargets ss ↔ ∀ s ∈ walkAll ss, ∀ rule ∈ s.dependsOn, ∃ p ∈ locate ss (some rule.target),
    p.2.type ≠ .object ∧ (∀ a ∈ (trail ss p.1).dropLast, a.type = .object)
      ∧ ∀ a ∈ (trail ss p.1).tail, a.dependsOn.isEmpty
  := by
  simp [PlainTargets]

instance (ss : List Setting) : Decidable (PlainTargets ss) :=
  decidable_of_iff _ plainTargets_iff.symm

theorem PlainTargets.of_clearAll_eq {ss ts : List Setting} (h : clearAll ss = clearAll ts)
    (hss : PlainTargets ss) :
  PlainTargets ts
  := by
  intro u hu rule hrule
  obtain ⟨s, hs, hsu⟩ := exists_clear_eq h.symm hu
  rw [← dependsOn_clear, ← hsu, dependsOn_clear] at hrule
  obtain ⟨spot, t, hlocate, hleaf, hobjects, hrules⟩ := hss s hs rule hrule
  obtain ⟨t', hlocate', ht⟩ := exists_locate_of_clearAll_eq h hlocate
  have htrail : (trail ts spot).map clear = (trail ss spot).map clear := by
    rw [← trail_clearAll, ← h, trail_clearAll]
  refine ⟨spot, t', hlocate', ?_, ?_, ?_⟩
  · rwa [← type_clear, ht, type_clear]
  · intro a ha
    have hmem := List.mem_map_of_mem (f := clear) ha
    rw [List.map_dropLast, htrail, ← List.map_dropLast, List.mem_map] at hmem
    obtain ⟨b, hb, hba⟩ := hmem
    rw [← type_clear, ← hba, type_clear, hobjects b hb]
  · intro a ha
    have hmem := List.mem_map_of_mem (f := clear) ha
    rw [List.map_tail, htrail, ← List.map_tail, List.mem_map] at hmem
    obtain ⟨b, hb, hba⟩ := hmem
    rw [← dependsOn_clear, ← hba, dependsOn_clear, hrules b hb]

namespace Scene

variable {scene : Scene} {s : Setting}

/-- A setting that is no object has its value whatever is visible. -/
theorem valueBy_of_leaf {visible : Setting → Except ResolveError Bool} (hleaf : s.type ≠ .object) :
  scene.valueBy visible s = bareValue scene.tokens [] s
  := by
  rw [valueBy, if_neg hleaf]
  rfl

/-- With plain targets, visibility hangs on values that hang on no visibility. -/
theorem isVisible_eq (hplain : PlainTargets scene.settings) (hs : s ∈ walkAll scene.settings) :
  scene.isVisible s = scene.rulesHold (bareValue scene.tokens []) s.dependsOn
  := by
  rw [isVisible, bound, visibleWithin]
  apply rulesHold_congr
  intro rule hrule
  obtain ⟨spot, t, hlocate, hleaf, -⟩ := hplain s hs rule hrule
  rw [find, hlocate, Option.map_some, Option.map_some, Option.map_some, valueBy_of_leaf hleaf]

theorem exists_isVisible (htext : scene.tokens.IsText) (hplain : PlainTargets scene.settings)
    (hs : s ∈ walkAll scene.settings) :
  ∃ b, scene.isVisible s = .ok b
  := by
  rw [isVisible_eq hplain hs]
  apply exists_eq_ok
  intro e he
  rcases exists_error_of_rulesHold he with ⟨rule, hrule, ⟨hnone, -⟩ | ⟨t, -, herror⟩⟩
  · obtain ⟨spot, t, hlocate, -⟩ := hplain s hs rule hrule
    simp [find, hlocate] at hnone
  · obtain ⟨v, hv⟩ := exists_bareValue htext [] t
    cases hv.symm.trans herror

/-- What is shown of the children of a setting. -/
def shownBelow (scene : Scene) (s : Setting) : List (String × Bool) :=
  match shownAll scene.isVisible s.children [] with
  | .ok shown => shown
  | .error _ => []

theorem shownAll_eq_shownBelow (htext : scene.tokens.IsText) (hplain : PlainTargets scene.settings)
    (hs : s ∈ walkAll scene.settings) :
  shownAll scene.isVisible s.children [] = .ok (scene.shownBelow s)
  := by
  obtain ⟨shown, hshown⟩ := exists_shownAll
    (fun c hc => exists_isVisible htext hplain (child_mem_walkAll hs hc)) []
  rw [shownBelow, hshown]

theorem value_eq (htext : scene.tokens.IsText) (hplain : PlainTargets scene.settings)
    (hs : s ∈ walkAll scene.settings) :
  scene.value s = bareValue scene.tokens (scene.shownBelow s) s
  := by
  by_cases hobject : s.type = .object
  · rw [value, valueBy, if_pos hobject, shownAll_eq_shownBelow htext hplain hs]
    rfl
  · rw [value, valueBy_of_leaf hobject, bareValue_of_leaf hobject, bareValue_of_leaf hobject]

/-- A child without rules is shown. -/
theorem isShown_shownBelow (htext : scene.tokens.IsText) (hplain : PlainTargets scene.settings)
    (hdistinct : DistinctIds scene.settings) (hs : s ∈ walkAll scene.settings) {c : Setting}
    (hc : c ∈ s.children) (hrules : c.dependsOn = []) :
  isShown (scene.shownBelow s) c.id
  := by
  have hvisible := (isShown_of_shownAll (hdistinct.below s hs)
    (shownAll_eq_shownBelow htext hplain hs)).2 c hc
  rw [isVisible, bound, visibleWithin, hrules, rulesHold] at hvisible
  exact (Except.ok.inj hvisible).symm

/-! ### All settings pinned -/

/-- The scene with every setting at the top level pinned as it is shown. -/
def allPinned (scene : Scene) : Scene where
  settings := scene.settings.map fun s => pinned scene.tokens (scene.shownBelow s) s
  tokens := scene.tokens

theorem clearAll_allPinned (scene : Scene) :
  clearAll scene.allPinned.settings = clearAll scene.settings
  := by
  rw [allPinned, clearAll_eq_map, clearAll_eq_map, List.map_map]
  apply List.map_congr_left
  intro s _
  apply clear_pinned

/-- The target of a rule is found pinned. -/
theorem find_allPinned (htext : scene.tokens.IsText) (hplain : PlainTargets scene.settings)
    (hdistinct : DistinctIds scene.settings) (hs : s ∈ walkAll scene.settings)
    {rule : DependencyRule} (hrule : rule ∈ s.dependsOn) :
  ∃ t ∈ walkAll scene.settings, t.type ≠ .object
    ∧ find scene.settings (some rule.target) = some t
    ∧ find scene.allPinned.settings (some rule.target) = some (pinned scene.tokens [] t)
  := by
  obtain ⟨spot, t, hlocate, hleaf, hobjects, hrules⟩ := hplain s hs rule hrule
  have hat := at?_of_locate hlocate
  have hpinned : at? scene.allPinned.settings spot = some (pinned scene.tokens [] t) := by
    apply at?_map_pinned hat hleaf hobjects hrules
    intro u hu _ c hc hfree
    apply isShown_shownBelow htext hplain hdistinct (subset_walkAll _ hu) hc hfree
  obtain ⟨t', hlocate', -⟩ := exists_locate_of_clearAll_eq (clearAll_allPinned scene).symm hlocate
  rw [at?_of_locate hlocate'] at hpinned
  refine ⟨t, mem_walkAll_of_at? hat, hleaf, find_eq_some_iff.mpr ⟨_, hlocate⟩, ?_⟩
  rw [find, hlocate', Option.map_some, hpinned]

/-- Pinning all settings keeps visibility. -/
theorem isVisible_allPinned (htext : scene.tokens.IsText) (hplain : PlainTargets scene.settings)
    (hdistinct : DistinctIds scene.settings) (hsteady : SteadyValues scene.tokens scene.settings)
    (hs : s ∈ walkAll scene.settings) {s' : Setting} (hs' : s' ∈ walkAll scene.allPinned.settings)
    (hrules : s'.dependsOn = s.dependsOn) :
  scene.allPinned.isVisible s' = scene.isVisible s
  := by
  have hplain' := hplain.of_clearAll_eq (clearAll_allPinned scene).symm
  rw [isVisible_eq hplain' hs', isVisible_eq hplain hs, hrules]
  apply rulesHold_congr
  intro rule hrule
  obtain ⟨t, ht, hleaf, hfind, hfind'⟩ := find_allPinned htext hplain hdistinct hs hrule
  rw [hfind, hfind', Option.map_some, Option.map_some]
  congr 1
  apply bareValue_pinned_of_leaf htext hleaf (hsteady t ht hleaf)

/-- Pinning all settings keeps values at the top level. -/
theorem value_allPinned (htext : scene.tokens.IsText) (hplain : PlainTargets scene.settings)
    (hdistinct : DistinctIds scene.settings) (hbare : BareObjects scene.settings)
    (hsteady : SteadyValues scene.tokens scene.settings) (hs : s ∈ scene.settings) :
  scene.allPinned.value (pinned scene.tokens (scene.shownBelow s) s) = scene.value s
  := by
  have hmem := subset_walkAll _ hs
  have hmem' : pinned scene.tokens (scene.shownBelow s) s ∈ walkAll scene.allPinned.settings := by
    apply subset_walkAll
    exact List.mem_map_of_mem (f := fun s => pinned scene.tokens (scene.shownBelow s) s) hs
  have hkeeps : bareValue scene.tokens (scene.shownBelow s)
      (pinned scene.tokens (scene.shownBelow s) s)
        = bareValue scene.tokens (scene.shownBelow s) s :=
    bareValue_pinned htext hbare hsteady hs
  by_cases hobject : s.type = .object
  · have hobject' : (pinned scene.tokens (scene.shownBelow s) s).type = .object := by
      rwa [type, declaration_pinned]
    have hshown : shownAll scene.allPinned.isVisible
        (pinned scene.tokens (scene.shownBelow s) s).children []
          = shownAll scene.isVisible s.children [] := by
      rw [pinned_of_object hobject] at hmem' ⊢
      apply shownAll_map
      intro c hc
      use id_pinnedChild c
      apply isVisible_allPinned htext hplain hdistinct hsteady (child_mem_walkAll hmem hc)
      · apply child_mem_walkAll hmem'
        apply List.mem_map_of_mem hc
      · apply dependsOn_pinnedChild
    rw [value, valueBy, if_pos hobject', hshown, value, valueBy, if_pos hobject,
      shownAll_eq_shownBelow htext hplain hmem]
    exact hkeeps
  · have hleaf : (pinned scene.tokens (scene.shownBelow s) s).type ≠ .object := by
      rwa [type, declaration_pinned]
    rw [value_eq htext hplain hmem, ← hkeeps, value, valueBy_of_leaf hleaf, bareValue_of_leaf hleaf,
      bareValue_of_leaf hleaf]
    rfl

end Scene

/-! ### The values that a deployment leaves -/

/-- The values of settings by id, with nothing in place of null. -/
def recorded (value : Setting → Except ResolveError Value) :
    List Setting → Except ResolveError (List (Value × Value))
  | [] => .ok []
  | s :: ss => do
    let v ← value s
    let rest ← recorded value ss
    return if v.isNull then rest else (.str s.id, v) :: rest

/-- The values of settings whose values are bare, each with what it shows of its children. -/
theorem exists_recorded {tokens : TokenTable} (htext : tokens.IsText)
    {value : Setting → Except ResolveError Value} {shown : Setting → List (String × Bool)}
    {ss : List Setting} (hnodup : (ss.map id).Nodup)
    (h : ∀ s ∈ ss, value s = bareValue tokens (shown s) s) :
  ∃ previous, recorded value ss = .ok previous
    ∧ (∀ id, id ∉ ss.map Setting.id → Value.field? previous id = none)
    ∧ ∀ s ∈ ss, Value.field? previous s.id = bareEntry tokens (shown s) s
  := by
  induction ss with
  | nil => exact ⟨[], rfl, fun _ _ => rfl, by simp⟩
  | cons s ss ih =>
      rw [List.map_cons, List.nodup_cons] at hnodup
      rw [List.forall_mem_cons] at h
      obtain ⟨rest, hrest, hother, hown⟩ := ih hnodup.2 h.2
      obtain ⟨v, hv⟩ := exists_bareValue htext (shown s) s
      have hfield : ∀ id, Value.field? (if v.isNull then rest else (.str s.id, v) :: rest) id
          = if id = s.id then bareEntry tokens (shown s) s else Value.field? rest id := by
        intro id
        rw [bareEntry_of_ok hv]
        cases v.isNull with
        | true =>
            by_cases hid : id = s.id
            · subst hid
              simp [hother s.id hnodup.1]
            · simp [hid]
        | false =>
            simp only [Bool.false_eq_true, if_false, Value.field?_cons, Value.isText_iff,
              Value.str.injEq, eq_comm (a := id)]
      refine ⟨if v.isNull then rest else (.str s.id, v) :: rest, ?_, ?_, ?_⟩
      · rw [recorded, h.1, hv, hrest]
        rfl
      · intro id hid
        rw [List.map_cons, List.mem_cons, not_or] at hid
        rw [hfield, if_neg hid.1, hother id hid.2]
      · rw [List.forall_mem_cons]
        constructor
        · rw [hfield, if_pos rfl]
        · intro t ht
          have hne := id_ne_of_mem hnodup.1 ht
          rw [hfield, if_neg hne, hown t ht]

end Setting

namespace Recommendation

open Setting

variable {recipe : Recipe} {r : Recommendation}

/-- The values that a deployment leaves, by the ids of the recipe's settings at the top level. -/
def captured (r : Recommendation) : Except ResolveError (List (Value × Value)) :=
  recorded r.value r.recipe.settings

/-- Without a bundle there are no settings but the recipe's. -/
theorem IsStateOf.items_eq (hr : IsStateOf recipe [] r) :
  r.items = r.recipe.settings
  := by
  obtain ⟨projectPath, priority, texts, changes, rfl⟩ := hr
  have hbundle := (clearAll_run
    (ofRecipe recipe [] projectPath priority (TokenTable.ofTexts texts)) changes).2
  rw [ofRecipe, clearAll_eq_map, clearAll, List.map_eq_nil_iff] at hbundle
  rw [items, ofRecipe, hbundle, List.append_nil]

/-- Objects get no override by any change. -/
theorem IsStateOf.bareObjects_items {bundle : List Setting} (hr : IsStateOf recipe bundle r)
    (hbare : BareObjects (recipe.settings ++ bundle)) :
  BareObjects r.items
  := by
  obtain ⟨projectPath, priority, texts, changes, rfl⟩ := hr
  refine allOverrides_run (fun _ _ => rfl) ?_ ?_
  · exact hbare
  · intro c _
    cases c with
    | set judge path value =>
        intro d v hleaf _ hobject
        exact absurd hobject hleaf
    | applyPrevious previous =>
        intro d v hleaf hobject
        exact absurd hobject hleaf
    | clear spot => trivial
    | addToken token substitution => trivial

theorem IsStateOf.bareObjects (hr : IsStateOf recipe [] r) (hbare : BareObjects recipe.settings) :
  BareObjects r.items
  := by
  apply hr.bareObjects_items
  rwa [List.append_nil]

/-- A state of a recipe has the tokens that a new recommendation with its tokens has. -/
theorem IsStateOf.tokens_ofRecipe (hr : IsStateOf recipe [] r) (projectPath : String)
    (priority : Int) :
  (ofRecipe recipe [] projectPath priority r.tokens).tokens = r.tokens
  := hr.extends_tokens.insertAll_eq

theorem value_applyPrevious {previous : List (Value × Value)} {settings : List Setting}
    {events : List Event}
    (h : setChildren unjudged previous r.recipe.settings = ⟨settings, events, none⟩) :
  (r.applyPrevious previous).value
    = .ok { r with recipe := { r.recipe with settings := settings }, isExisting := true }
  := by
  simp only [applyPrevious, h]

/-- A set of the values that a deployment left, on the settings without overrides, pins every
setting at the top level. -/
theorem setChildren_captured (htext : r.tokens.IsText) (hitems : r.items = r.recipe.settings)
    (hplain : PlainTargets r.items) (hdistinct : DistinctIds r.items)
    (hbare : BareObjects r.items) :
  ∃ previous, r.captured = .ok previous
    ∧ setChildren unjudged previous (clearAll r.items) = ⟨r.scene.allPinned.settings, [], none⟩
  := by
  obtain ⟨previous, hprevious, -, hfield⟩ := exists_recorded htext hdistinct.top
    (fun s hs => r.scene.value_eq htext hplain (subset_walkAll r.items hs))
  use previous
  constructor
  · rw [captured, ← hitems]
    exact hprevious
  · apply setChildren_clearAll
    intro s hs
    rw [hfield s hs]
    rcases pins htext hdistinct hbare hs with ⟨hentry, hpinned⟩ | ⟨v, hentry, hpinned⟩
    · exact Or.inl ⟨hentry, hpinned⟩
    · exact Or.inr ⟨v, hentry, hpinned⟩

/-- The values that a deployment left, applied to its recipe, give every setting the value that it
had. -/
theorem value_redeployed (hdefault : ∀ s ∈ walkAll recipe.settings, s.hasOverride = false)
    (hdistinct : DistinctIds recipe.settings) (hplain : PlainTargets recipe.settings)
    (hr : IsStateOf recipe [] r)
    (hsteady : ∀ s ∈ walkAll r.items, s.type ≠ .object → ∀ v, r.value s = .ok v →
      Token.substitute r.tokens v = .ok v)
    (projectPath : String) (priority : Int) :
  ∃ previous r', r.captured = .ok previous
    ∧ ((ofRecipe recipe [] projectPath priority r.tokens).applyPrevious previous).value = .ok r'
    ∧ r'.recipe.settings.map (fun s => (s.id, r'.value s))
      = r.recipe.settings.map fun s => (s.id, r.value s)
  := by
  have htext := hr.extends_tokens.text
  have hitems := hr.items_eq
  have hclear := hr.clearAll_items
  rw [List.append_nil] at hclear
  have hbare : BareObjects r.items :=
    hr.bareObjects (fun s hs _ => override_of_hasOverride (hdefault s hs))
  have hplain' := hplain.of_clearAll_eq hclear.symm
  have hdistinct' := hdistinct.of_clearAll_eq hclear.symm
  have hsteady' : SteadyValues r.tokens r.items := by
    intro s hs hleaf v hv
    apply hsteady s hs hleaf v
    rw [value, Scene.value, Scene.valueBy_of_leaf hleaf]
    exact hv
  obtain ⟨previous, hprevious, hset⟩ := setChildren_captured htext hitems hplain' hdistinct' hbare
  rw [hclear, clearAll_eq_self hdefault] at hset
  let r' : Recommendation := { ofRecipe recipe [] projectPath priority r.tokens with
    recipe := { recipe with settings := r.scene.allPinned.settings }
    isExisting := true }
  have hscene : r'.scene = r.scene.allPinned := by
    change Scene.mk (r.scene.allPinned.settings ++ [])
      (ofRecipe recipe [] projectPath priority r.tokens).tokens = _
    rw [List.append_nil, hr.tokens_ofRecipe]
    rfl
  refine ⟨previous, r', hprevious, value_applyPrevious hset, ?_⟩
  · rw [← hitems]
    change (r.items.map fun s => pinned r.tokens (r.scene.shownBelow s) s).map
      (fun s => (s.id, r'.value s)) = _
    rw [List.map_map]
    apply List.map_congr_left
    intro s hs
    rw [Function.comp_apply, id_pinned, value, hscene]
    congr 1
    apply Scene.value_allPinned htext hplain' hdistinct' hbare hsteady' hs

/-- A value that is a text is one of the given ones. -/
def isTextAmong (texts : List String) : Value → Bool
  | .str t => texts.contains t
  | .halfText _ _ => false
  | _ => true

theorem value_redeployed_webServiceOwned :
  ∃ previous r', webServiceOwned.captured = .ok previous
    ∧ ((ofRecipe webService [] "." 0 webServiceOwned.tokens).applyPrevious previous).value = .ok r'
    ∧ r'.recipe.settings.map (fun s => (s.id, r'.value s))
      = webServiceOwned.recipe.settings.map fun s => (s.id, webServiceOwned.value s)
  := by
  have hdefault : ∀ s ∈ walkAll webService.settings, s.hasOverride = false := by decide
  have hdistinct : DistinctIds webService.settings := by decide
  have hplain : PlainTargets webService.settings := by decide
  have htexts : ∀ s ∈ walkAll webServiceOwned.items,
      (webServiceOwned.value s).toOption.all (isTextAmong ["large", "public"]) = true := by
    decide +kernel
  have hsteady : ∀ s ∈ walkAll webServiceOwned.items, s.type ≠ .object → ∀ v,
      webServiceOwned.value s = .ok v → Token.substitute webServiceOwned.tokens v = .ok v := by
    intro s hs _ v hv
    have h := htexts s hs
    rw [hv] at h
    cases v with
    | str t =>
        obtain rfl | rfl : t = "large" ∨ t = "public" := by
          simpa [Except.toOption, isTextAmong] using h
        · cbv
        · cbv
    | halfText codes hhalf => cases h
    | _ => rfl
  exact value_redeployed hdefault hdistinct hplain ⟨".", 0, [], _, rfl⟩ hsteady "." 0

end Recommendation
end DeploymentRecipes
