import DeploymentRecipes.Proofs.Recommendation.Refusal
import DeploymentRecipes.Proofs.Setting.Place
import DeploymentRecipes.Proofs.Setting.Reached

/-!
# Sets by a mapping

A mapping for an object can be set as a whole, or the values in it one after the other by the paths of
the children, up to the first that is refused.  Both come to the same.
-/

namespace DeploymentRecipes.Recommendation

open Setting

variable {r : Recommendation} {spot : Spot} {s : Setting} {path : String}

/-- Sets the value of the setting at a path. -/
def setAt (judge : Judge) (r : Recommendation) (path : String) (value : Value) :
    Except ResolveError (SetOutcome Recommendation) := do
  let (spot, s) ← r.locate (some path)
  return r.set judge spot s value

/-- Sets the values that a mapping has for the given children of the setting at a path, each by its
own path and one after the other, up to the first that is refused. -/
def setEach (judge : Judge) (entries : List (Value × Value)) (path : String) :
    List Setting → Recommendation → Except ResolveError (SetOutcome Recommendation)
  | [], r => return ⟨r, [], none⟩
  | c :: cs, r =>
    match Value.field? entries c.id with
    | none => setEach judge entries path cs r
    | some value => do
      let first ← r.setAt judge (path ++ "." ++ c.id) value
      match first.failure with
      | some e => return ⟨first.settings, first.events, some e⟩
      | none =>
        let rest ← setEach judge entries path cs first.settings
        return ⟨rest.settings, first.events ++ rest.events, rest.failure⟩

/-! ### Items with another setting in a place -/

theorem withItems_items (r : Recommendation) :
  r.withItems r.items = r
  := by
  simp [withItems, items]

theorem withItems_withItems {ss : List Setting} (h : ss.length = r.items.length)
    (ts : List Setting) :
  (r.withItems ss).withItems ts = r.withItems ts
  := by
  have hcount : (ss.take r.recipe.settings.length).length = r.recipe.settings.length := by
    rw [List.length_take, h, items, List.length_append]
    omega
  simp [withItems, hcount]

theorem updateAt_self (hs : at? r.items spot = some s) :
  r.updateAt spot (fun _ => s) = r
  := by
  rw [updateAt, Setting.updateAt_self hs, withItems_items]

theorem updateAt_updateAt (t u : Setting) :
  (r.updateAt spot fun _ => t).updateAt spot (fun _ => u) = r.updateAt spot fun _ => u
  := by
  rw [updateAt, updateAt, items_withItems, Setting.updateAt_updateAt,
    withItems_withItems (length_updateAt _ _ _), updateAt]

/-! ### One child after another -/

theorem locate_eq_ok_iff {path : Option String} :
  r.locate path = .ok (spot, s) ↔ Setting.locate r.items path = some (spot, s)
  := by
  rw [locate]
  cases Setting.locate r.items path <;> simp

/-- A path that leads to a setting leads to what is put in its place, if only overrides change. -/
theorem locate_updateAt {t : Setting} (hlocate : r.locate (some path) = .ok (spot, s))
    (ht : Setting.clear t = Setting.clear s) :
  clearAll (r.updateAt spot fun _ => t).items = clearAll r.items
    ∧ (r.updateAt spot fun _ => t).locate (some path) = .ok (spot, t)
  := by
  have hs := at?_of_locate_ok hlocate
  have hclear : clearAll (Setting.updateAt r.items (fun _ => t) spot) = clearAll r.items := by
    apply clearAll_updateAt
    intro s' hs'
    rw [hs] at hs'
    rw [ht, Option.some.inj hs']
  rw [locate_eq_ok_iff] at hlocate ⊢
  rw [updateAt, items_withItems]
  refine ⟨hclear, ?_⟩
  obtain ⟨t', hlocate', -⟩ := exists_locate_of_clearAll_eq hclear.symm hlocate
  have ht' := at?_of_locate hlocate'
  rw [at?_updateAt _ hs] at ht'
  rw [hlocate', Option.some.inj ht']

/-- The set of a child by its own path. -/
theorem setAt_child (judge : Judge) (value : Value) {done cs : List Setting} {c : Setting}
    (hids : PathIds r.items) (hdistinct : DistinctIds r.items)
    (hlocate : r.locate (some path) = .ok (spot, s)) (hobject : s.type = .object)
    (hchildren : s.children = done ++ c :: cs) :
  r.setAt judge (path ++ "." ++ c.id) value = .ok
    ⟨r.updateAt spot fun _ =>
        .node s.declaration s.override (done ++ (setValue judge value c).settings :: cs),
      (setValue judge value c).events, (setValue judge value c).failure⟩
  := by
  have hs := at?_of_locate_ok hlocate
  have hmem := mem_walkAll_of_at? hs
  have hc : s.children[done.length]? = some c := by simp [hchildren]
  have hchild : r.locate (some (path ++ "." ++ c.id)) = .ok (spot ++ [done.length], c) := by
    rw [locate_eq_ok_iff] at hlocate ⊢
    apply locate_child hlocate _ (hdistinct.below s hmem) hc
    · exact (hids c (child_mem_walkAll hmem (List.mem_of_getElem? hc))).2
    · simp [hobject]
  rw [setAt, hchild]
  simp only [set, updateAt, bind, Except.bind, pure, Except.pure]
  rw [updateAt_child _ hs hc, hchildren]
  simp

/-- Sets of the children that are left, when those before them are done. -/
theorem setEach_eq_of_append (judge : Judge) (entries : List (Value × Value))
    {done rest : List Setting} (hids : PathIds r.items) (hdistinct : DistinctIds r.items)
    (hlocate : r.locate (some path) = .ok (spot, s)) (hobject : s.type = .object)
    (hchildren : s.children = done ++ rest) :
  r.setEach judge entries path rest = .ok
    ⟨r.updateAt spot fun _ =>
        .node s.declaration s.override (done ++ (setChildren judge entries rest).settings),
      (setChildren judge entries rest).events, (setChildren judge entries rest).failure⟩
  := by
  induction rest generalizing r s done with
  | nil =>
      rw [setEach, setChildren, ← hchildren, node_eta, updateAt_self (at?_of_locate_ok hlocate)]
      rfl
  | cons c cs ih =>
      rw [setEach, setChildren]
      cases hfield : Value.field? entries c.id with
      | none =>
          have hrest : s.children = (done ++ [c]) ++ cs := by simp [hchildren]
          dsimp only
          rw [ih hids hdistinct hlocate hobject hrest]
          simp
      | some value =>
          dsimp only
          rw [setAt_child judge value hids hdistinct hlocate hobject hchildren]
          simp only [bind, Except.bind]
          cases hfirst : (setValue judge value c).failure with
          | some e => rfl
          | none =>
              have hclear : Setting.clear (.node s.declaration s.override
                  (done ++ (setValue judge value c).settings :: cs)) = Setting.clear s := by
                rw [Setting.clear, clear_eq, hchildren, clearAll_append, clearAll_append, clearAll,
                  clearAll, clear_setValue]
              obtain ⟨hitems, hlocate'⟩ := locate_updateAt hlocate hclear
              have hrest : (Setting.node s.declaration s.override
                  (done ++ (setValue judge value c).settings :: cs)).children
                    = (done ++ [(setValue judge value c).settings]) ++ cs := by
                simp [children]
              dsimp only
              rw [ih (hids.of_clearAll_eq hitems.symm) (hdistinct.of_clearAll_eq hitems.symm)
                hlocate' hobject hrest, updateAt_updateAt]
              simp [declaration, override, pure, Except.pure]

/-- A set of an object by a mapping is the same as sets of its children by their own paths, one after
the other up to the first that is refused: the settings afterwards, what was recorded and the refusal
agree, whoever judges the values. -/
theorem setEach_eq_setAt (hids : PathIds r.items) (hdistinct : DistinctIds r.items)
    (hlocate : r.locate (some path) = .ok (spot, s)) (hobject : s.type = .object) (judge : Judge)
    (entries : List (Value × Value)) :
  r.setAt judge path (.map entries) = .ok (r.set judge spot s (.map entries))
    ∧ r.setEach judge entries path s.children = r.setAt judge path (.map entries)
  := by
  have hwhole : r.setAt judge path (.map entries) = .ok (r.set judge spot s (.map entries)) := by
    rw [setAt, hlocate]
    rfl
  refine ⟨hwhole, ?_⟩
  have heach := @setEach_eq_of_append _ _ _ _ judge entries [] _ hids hdistinct hlocate hobject
    (List.nil_append _).symm
  rw [hwhole, heach, set, setValue_map judge hobject, List.nil_append]

/-- The port is set before the name is refused, in one set as in two. -/
theorem setEach_eq_setAt_listener :
  ∃ s outcome e, listenerRecommended.locate (some "Listener") = .ok ([0], s)
    ∧ listenerRecommended.setEach validating [(.str "Port", .int 80), (.str "Name", .str "")]
      "Listener" s.children = .ok outcome
    ∧ listenerRecommended.setAt validating "Listener" portWithoutName = .ok outcome
    ∧ outcome.failure = some e
  := by
  obtain ⟨s, e, hlocate, hfails⟩ := failure_listener
  have hids : PathIds listenerRecommended.items := by decide
  have hdistinct : DistinctIds listenerRecommended.items := by decide
  have hobject : s.type = .object := by
    obtain ⟨-, rfl⟩ := Prod.mk.inj (Except.ok.inj hlocate)
    rfl
  obtain ⟨hwhole, heach⟩ := setEach_eq_setAt hids hdistinct hlocate hobject validating
    [(.str "Port", .int 80), (.str "Name", .str "")]
  exact ⟨s, _, e, hlocate, heach.trans hwhole, hwhole, hfails⟩

end DeploymentRecipes.Recommendation
