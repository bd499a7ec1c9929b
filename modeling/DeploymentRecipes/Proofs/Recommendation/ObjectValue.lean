import DeploymentRecipes.Proofs.Recommendation.Redeployment
import DeploymentRecipes.Proofs.Setting.Refusal

/-!
# Values of objects

The value of an object is put together from its direct children.  Each one that is visible and has a
value enters it, with the value that it has where everything below it counts as shown.
-/

namespace DeploymentRecipes

namespace Setting

variable {tokens : TokenTable} {shown : List (String × Bool)}

/-! ### Fields of a mapping of values -/

/-- The field for a setting that may be hidden: its id and its value. -/
def shownField (tokens : TokenTable) (shown : List (String × Bool)) (s : Setting) :
    Option (String × Value) :=
  (shownEntry tokens shown s).map fun v => (s.id, v)

/-- The fields as entries of a mapping. -/
def asEntries (fields : List (String × Value)) : List (Value × Value) :=
  fields.map fun f => (.str f.1, f.2)

/-- The mapping of the values of settings with different ids has the fields of those that are shown,
in order. -/
theorem childValues_eq (htext : tokens.IsText) {cs : List Setting} (hnodup : (cs.map id).Nodup)
    (fields : List (String × Value)) (hfresh : ∀ c ∈ cs, c.id ∉ fields.map (·.1)) :
  childValues tokens shown cs (asEntries fields)
    = .ok (asEntries (fields ++ cs.filterMap (shownField tokens shown)))
  := by
  induction cs generalizing fields with
  | nil => rw [childValues, List.filterMap_nil, List.append_nil]
  | cons c cs ih =>
      rw [List.map_cons, List.nodup_cons] at hnodup
      rw [List.forall_mem_cons] at hfresh
      rw [childValues]
      by_cases hshown : isShown shown c.id
      · obtain ⟨v, hv⟩ := exists_bareValue htext [] c
        have hentry : shownEntry tokens shown c = if v.isNull then none else some v := by
          rw [shownEntry, if_pos hshown, bareEntry_of_ok hv]
        rw [if_pos hshown, hv]
        dsimp only
        cases hnull : v.isNull with
        | true =>
            have hnone : shownField tokens shown c = none := by
              rw [shownField, hentry, hnull]
              rfl
            rw [List.filterMap_cons_none hnone]
            apply ih hnodup.2 fields hfresh.2
        | false =>
            have hsome : shownField tokens shown c = some (c.id, v) := by
              rw [shownField, hentry, hnull]
              rfl
            rw [List.filterMap_cons_some hsome, List.append_cons]
            rw [if_neg (by simp), asEntries, Value.insertEntry_of_not_mem hfresh.1, ← asEntries]
            apply ih hnodup.2
            intro d hd
            have hne := id_ne_of_mem hnodup.1 hd
            simpa [hne] using hfresh.2 d hd
      · have hnone : shownField tokens shown c = none := by
          rw [shownField, shownEntry, if_neg hshown]
          rfl
        rw [if_neg hshown, List.filterMap_cons_none hnone]
        apply ih hnodup.2 fields hfresh.2

/-- The value of an object is the mapping of the fields of its children. -/
theorem bareValue_eq_of_object (htext : tokens.IsText) {s : Setting} (hobject : s.type = .object)
    (hnull : s.override = .null) (hnodup : (s.children.map id).Nodup) :
  bareValue tokens shown s
    = .ok (mapOrNull (asEntries (s.children.filterMap (shownField tokens shown))))
  := by
  have hvalues : childValues tokens shown s.children [] = .ok (asEntries ([] ++ _)) :=
    childValues_eq htext hnodup [] (by simp)
  rw [bareValue_of_object hobject hnull, hvalues]
  rfl

theorem bareEntry_eq_some_iff {s : Setting} {v : Value} :
  bareEntry tokens shown s = some v ↔ bareValue tokens shown s = .ok v ∧ v.isNull = false
  := by
  rw [bareEntry]
  cases hv : bareValue tokens shown s with
  | error e => simp
  | ok w =>
      constructor
      · intro h
        cases hnull : w.isNull with
        | true => simp [hnull] at h
        | false =>
            obtain rfl : w = v := by simpa [hnull] using h
            exact ⟨rfl, hnull⟩
      · rintro ⟨h, hnull⟩
        obtain rfl := Except.ok.inj h
        simp [hnull]

theorem bareEntry_eq_none_iff (htext : tokens.IsText) {s : Setting} :
  bareEntry tokens shown s = none ↔ bareValue tokens shown s = .ok .null
  := by
  obtain ⟨v, hv⟩ := exists_bareValue htext shown s
  rw [bareEntry_of_ok hv, hv]
  cases v <;> simp [Value.isNull]

/-- The fields of settings are those of the settings that are shown and have a value. -/
theorem mem_filterMap_shownField_iff {cs : List Setting} {id : String} {v : Value} :
  (id, v) ∈ cs.filterMap (shownField tokens shown)
    ↔ ∃ c ∈ cs, c.id = id ∧ isShown shown c.id = true ∧ bareValue tokens [] c = .ok v
      ∧ v.isNull = false
  := by
  rw [List.mem_filterMap]
  apply exists_congr
  intro c
  rw [and_congr_right_iff]
  intro _
  rw [shownField, shownEntry, ← bareEntry_eq_some_iff]
  by_cases hshown : isShown shown c.id
  · simp [hshown, and_comm]
  · simp [hshown]

/-- Hidden settings are not missed among the fields just when they have no value. -/
theorem filterMap_shownField_eq_iff {cs : List Setting} :
  cs.filterMap (shownField tokens shown) = cs.filterMap (shownField tokens [])
    ↔ ∀ c ∈ cs, isShown shown c.id = false → bareEntry tokens [] c = none
  := by
  constructor
  · intro h c hc hhidden
    rw [Option.eq_none_iff_forall_ne_some]
    intro v hv
    obtain ⟨hvalue, hnull⟩ := bareEntry_eq_some_iff.mp hv
    have hmem : (c.id, v) ∈ cs.filterMap (shownField tokens []) :=
      mem_filterMap_shownField_iff.mpr ⟨c, hc, rfl, rfl, hvalue, hnull⟩
    rw [← h] at hmem
    obtain ⟨d, -, hid, hshown, -⟩ := mem_filterMap_shownField_iff.mp hmem
    rw [hid, hhidden] at hshown
    cases hshown
  · intro h
    apply List.filterMap_congr
    intro c hc
    rw [shownField, shownField, shownEntry, shownEntry, if_pos (isShown_nil c.id)]
    split
    · rfl
    · rename_i hhidden
      rw [h c hc (Bool.eq_false_of_not_eq_true hhidden)]

theorem mapOrNull_asEntries_inj {fields fields' : List (String × Value)} :
  mapOrNull (asEntries fields) = mapOrNull (asEntries fields') ↔ fields = fields'
  := by
  have hinj : Function.Injective fun f : String × Value => (Value.str f.1, f.2) := by
    rintro ⟨id, v⟩ ⟨id', v'⟩ h
    simpa using h
  constructor
  · intro h
    cases fields with
    | nil =>
        cases fields' with
        | nil => rfl
        | cons f' fields' => simp [mapOrNull, asEntries] at h
    | cons f fields =>
        cases fields' with
        | nil => simp [mapOrNull, asEntries] at h
        | cons f' fields' =>
            apply List.map_injective_iff.mpr hinj
            simpa [mapOrNull, asEntries] using h
  · rintro rfl
    rfl

/-- Every field has the id of one of the settings, in their order. -/
theorem filterMap_shownField_sublist (cs : List Setting) :
  ((cs.filterMap (shownField tokens shown)).map (·.1)).Sublist (cs.map id)
  := by
  induction cs with
  | nil => apply List.Sublist.refl
  | cons c cs ih =>
      cases hfield : shownField tokens shown c with
      | none =>
          rw [List.filterMap_cons_none hfield]
          exact ih.cons c.id
      | some f =>
          obtain ⟨v, -, rfl⟩ := Option.map_eq_some_iff.mp hfield
          rw [List.filterMap_cons_some hfield]
          exact ih.cons_cons c.id

/-! ### Values in a scene -/

/-- What the value of an object is made of, if it is known. -/
theorem Scene.exists_shown {scene : Scene} (htext : scene.tokens.IsText) {s : Setting}
    (hobject : s.type = .object) (hnull : s.override = .null) (hnodup : (s.children.map id).Nodup)
    {v : Value} (hvalue : scene.value s = .ok v) :
  ∃ shown, (∀ c ∈ s.children, scene.isVisible c = .ok (isShown shown c.id))
    ∧ v = mapOrNull (asEntries (s.children.filterMap (shownField scene.tokens shown)))
  := by
  rw [Scene.value, Scene.valueBy, if_pos hobject] at hvalue
  obtain ⟨shown, hshown, hbare⟩ := exists_of_bind_eq_ok hvalue
  refine ⟨shown, (isShown_of_shownAll hnodup hshown).2, ?_⟩
  have heq := (bareValue_eq_of_object htext hobject hnull hnodup).symm.trans hbare
  exact (Except.ok.inj heq).symm

/-- The value of a setting is the one that it has where everything below it counts as shown, unless a
hidden child of an object has a value. -/
theorem Scene.value_eq_bareValue_iff {scene : Scene} (htext : scene.tokens.IsText) {s : Setting}
    (hbare : s.type = .object → s.override = .null) (hnodup : (s.children.map id).Nodup) {v : Value}
    (hvalue : scene.value s = .ok v) :
  scene.value s = bareValue scene.tokens [] s
    ↔ (s.type = .object → ∀ c ∈ s.children, scene.isVisible c = .ok false →
      bareValue scene.tokens [] c = .ok .null)
  := by
  by_cases hobject : s.type = .object
  · obtain ⟨shown, hvisible, rfl⟩ := exists_shown htext hobject (hbare hobject) hnodup hvalue
    rw [hvalue, bareValue_eq_of_object htext hobject (hbare hobject) hnodup, Except.ok.injEq,
      mapOrNull_asEntries_inj, filterMap_shownField_eq_iff]
    simp only [hobject, true_implies]
    apply forall_congr'
    intro c
    apply imp_congr_right
    intro hc
    rw [hvisible c hc, bareEntry_eq_none_iff htext, Except.ok.injEq]
  · simp only [hobject, false_implies, iff_true]
    rw [value, valueBy_of_leaf hobject]

end Setting

namespace Recommendation

open Setting

variable {recipe : Recipe} {bundle : List Setting} {r : Recommendation}

/-! ### Values in every state -/

/-- The value of a setting where everything below it counts as shown. -/
def fullValue (r : Recommendation) (s : Setting) : Except ResolveError Value :=
  bareValue r.tokens [] s

/-- The value of an object is put together from its direct children, given what each one can enter:
it is the mapping of the ids of those that are visible and have something to enter to that, and null
if there are none. -/
def IsComposed (r : Recommendation) (part : Setting → Except ResolveError Value) (s : Setting) :
    Prop :=
  ∃ fields, r.value s = .ok (mapOrNull (asEntries fields))
    ∧ (fields.map (·.1)).Sublist (s.children.map Setting.id)
    ∧ ∀ id v, (id, v) ∈ fields
      ↔ ∃ c ∈ s.children, c.id = id ∧ r.isVisible c = .ok true ∧ part c = .ok v ∧ v.isNull = false

/-- In every state the ids of siblings differ below every setting. -/
theorem IsStateOf.nodup_children (hr : IsStateOf recipe bundle r)
    (hdistinct : DistinctIds recipe.settings) (hbundle : DistinctIds bundle) {s : Setting}
    (hs : s ∈ walkAll r.items) :
  (s.children.map Setting.id).Nodup
  := by
  obtain ⟨t, ht, hts⟩ := exists_clear_eq hr.clearAll_items hs
  have hchildren := congrArg Setting.children hts
  rw [children_clear, children_clear] at hchildren
  rw [← map_id_clearAll, ← hchildren, map_id_clearAll]
  rw [walkAll_append] at ht
  rcases List.mem_append.mp ht with ht | ht
  · apply hdistinct.below t ht
  · apply hbundle.below t ht

/-- Where the rules name known settings, an evaluation that ends gives a value. -/
theorem IsStateOf.exists_value (hr : IsStateOf recipe bundle r)
    (htargets : ∀ t ∈ walkAll (recipe.settings ++ bundle), ∀ rule ∈ t.dependsOn,
      (find (recipe.settings ++ bundle) (some rule.target)).isSome)
    {s : Setting} (hs : s ∈ walkAll r.items) (hends : r.value s ≠ .error .endless) :
  ∃ v, r.value s = .ok v
  := by
  apply exists_eq_ok
  intro e he
  rcases error_of_value hr.extends_tokens.text hs he with rfl | hunknown
  · apply hends he
  · apply not_isUnknownTarget htargets e (hunknown.of_clearAll_eq hr.clearAll_items)

/-- In every state in which evaluations end, objects are put together from their direct children,
each one with the value that it has where everything below it counts as shown. So no hidden child
enters the value of an object. The value that a child has of its own is the same unless the child is
an object with a hidden child that has a value. -/
theorem value_of_object (hr : IsStateOf recipe bundle r)
    (hbare : BareObjects (recipe.settings ++ bundle))
    (hdistinct : DistinctIds recipe.settings) (hbundle : DistinctIds bundle)
    (htargets : ∀ t ∈ walkAll (recipe.settings ++ bundle), ∀ rule ∈ t.dependsOn,
      (find (recipe.settings ++ bundle) (some rule.target)).isSome)
    (hends : ∀ t ∈ walkAll r.items, r.value t ≠ .error .endless) {s : Setting}
    (hs : s ∈ walkAll r.items) (hobject : s.type = .object) :
  (∀ c ∈ s.children, (∃ b, r.isVisible c = .ok b) ∧ ∃ v, r.fullValue c = .ok v)
    ∧ r.IsComposed r.fullValue s
    ∧ ∀ c ∈ s.children, r.value c = r.fullValue c ↔ (c.type = .object →
      ∀ d ∈ c.children, r.isVisible d = .ok false → r.fullValue d = .ok .null)
  := by
  have htext := hr.extends_tokens.text
  obtain ⟨v, hv⟩ := hr.exists_value htargets hs (hends s hs)
  obtain ⟨shown, hvisible, rfl⟩ := Scene.exists_shown htext hobject
    (hr.bareObjects_items hbare s hs hobject) (hr.nodup_children hdistinct hbundle hs) hv
  refine ⟨?_, ?_, ?_⟩
  · intro c hc
    exact ⟨⟨_, hvisible c hc⟩, exists_bareValue htext [] c⟩
  · refine ⟨_, hv, filterMap_shownField_sublist s.children, ?_⟩
    intro id v
    rw [mem_filterMap_shownField_iff]
    apply exists_congr
    intro c
    rw [and_congr_right_iff]
    intro hc
    rw [show r.isVisible c = _ from hvisible c hc, Except.ok.injEq]
    rfl
  · intro c hc
    have hmem := child_mem_walkAll hs hc
    obtain ⟨w, hw⟩ := hr.exists_value htargets hmem (hends c hmem)
    apply Scene.value_eq_bareValue_iff htext (hr.bareObjects_items hbare c hmem)
      (hr.nodup_children hdistinct hbundle hmem) hw

/-- The subnet is hidden, and the network is made of the rest. -/
theorem value_of_object_webServiceOwned :
  ∃ s ∈ walkAll webServiceOwned.items, s.id = "Network" ∧ s.type = .object
    ∧ webServiceOwned.IsComposed webServiceOwned.fullValue s
  := by
  obtain ⟨s, hs, hid, hobject⟩ :
      ∃ s ∈ walkAll webServiceOwned.items, s.id = "Network" ∧ s.type = .object := by
    decide +kernel
  have hbare : BareObjects (webService.settings ++ []) := by
    have hnone : ∀ t ∈ walkAll (webService.settings ++ []), t.hasOverride = false := by decide
    exact fun t ht _ => override_of_hasOverride (hnone t ht)
  have hdistinct : DistinctIds webService.settings := by decide
  have htargets : ∀ t ∈ walkAll (webService.settings ++ []), ∀ rule ∈ t.dependsOn,
      (find (webService.settings ++ []) (some rule.target)).isSome := by decide
  have hends : ∀ t ∈ walkAll webServiceOwned.items, webServiceOwned.value t ≠ .error .endless := by
    have hsome : ∀ t ∈ walkAll webServiceOwned.items, (webServiceOwned.value t).toOption.isSome := by
      decide +kernel
    intro t ht hendless
    obtain ⟨v, hv⟩ := exists_eq_ok_of_isSome (hsome t ht)
    rw [hv] at hendless
    cases hendless
  obtain ⟨-, hcomposed, -⟩ := value_of_object ⟨".", 0, [], _, rfl⟩ hbare hdistinct distinctIds_nil
    htargets hends hs hobject
  exact ⟨s, hs, hid, hobject, hcomposed⟩

/-- A recipe for a service in a network whose port is only asked for in another mode. -/
def portHidden : Recipe := { webService with settings := [
  plain "Mode" .string (.str "off") [] [],
  plain "Service" .object .null [] [
    plain "Network" .object .null [] [
      plain "Port" .int (.int 80) [⟨"Mode", .str "on"⟩] []]]] }

/-- A recommendation of that recipe. -/
def portHiddenRecommended : Recommendation :=
  ofRecipe portHidden [] "." 0 (TokenTable.ofTexts [])

/-- The service enters its network with the hidden port, though the network has no value of its own:
it is not put together from the values that its children have. -/
theorem not_isComposed_portHidden :
  IsStateOf portHidden [] portHiddenRecommended ∧ DistinctIds portHidden.settings
    ∧ (∀ t ∈ walkAll portHidden.settings, ∀ rule ∈ t.dependsOn,
      (find portHidden.settings (some rule.target)).isSome)
    ∧ (∀ t ∈ walkAll portHiddenRecommended.items, ∃ v, portHiddenRecommended.value t = .ok v)
    ∧ ∃ s ∈ walkAll portHiddenRecommended.items, s.type = .object
      ∧ ¬ portHiddenRecommended.IsComposed portHiddenRecommended.value s
  := by
  refine ⟨⟨".", 0, [], [], rfl⟩, by decide, by decide, ?_, ?_⟩
  · have hsome : ∀ t ∈ walkAll portHiddenRecommended.items,
        (portHiddenRecommended.value t).toOption.isSome := by decide +kernel
    exact fun t ht => exists_eq_ok_of_isSome (hsome t ht)
  · obtain ⟨s, hs, hobject, hvalue, hchildren⟩ : ∃ s ∈ walkAll portHiddenRecommended.items,
        s.type = .object ∧ (portHiddenRecommended.value s).toOption.all Value.isNull = false
          ∧ ∀ c ∈ s.children, (portHiddenRecommended.value c).toOption.all Value.isNull = true := by
      decide +kernel
    refine ⟨s, hs, hobject, ?_⟩
    rintro ⟨fields, hfields, -, hmem⟩
    cases fields with
    | nil =>
        rw [hfields] at hvalue
        cases hvalue
    | cons f fields =>
        obtain ⟨c, hc, -, -, hpart, hnull⟩ := (hmem f.1 f.2).mp List.mem_cons_self
        have h := hchildren c hc
        rw [hpart, Except.toOption, Option.all_some, hnull] at h
        cases h

end Recommendation

end DeploymentRecipes
