import DeploymentRecipes.Proofs.Recommendation.Validated
import DeploymentRecipes.Proofs.Setting.Refusal

/-!
# Refused changes

What a set on a recommendation leaves behind when it is refused.  A path that leads nowhere changes
nothing, nor does a value that is refused as a whole.  A mapping for an object is handed down setting
by setting, and what was set before one refuses stays set.
-/

namespace DeploymentRecipes.Recommendation

open Setting

variable {r : Recommendation} {judge : Judge} {path : Option String} {value : Value} {spot : Spot}
  {s : Setting} {e : SetError}

theorem change_set (hlocate : r.locate path = .ok (spot, s)) (judge : Judge) (value : Value) :
  r.change (.set judge path value) = (r.set judge spot s value).settings
  := by
  simp only [change, hlocate]

/-- The items after a set differ from those before in the part of the walk that belongs to the
setting. -/
theorem exists_overrides_set (hlocate : r.locate path = .ok (spot, s)) (value : Value) :
  ∃ before later, walkAll r.items = before ++ (walkAll [s] ++ later)
    ∧ ∀ judge, overrides (r.change (.set judge path value)).items
      = before.map override
        ++ (overrides [(setValue judge value s).settings] ++ later.map override)
  := by
  obtain ⟨before, later, hwalk, hchange⟩ := exists_overrides_updateAt (at?_of_locate_ok hlocate)
  refine ⟨before, later, hwalk, ?_⟩
  intro judge
  rw [change_set hlocate, set, updateAt, items_withItems]
  apply hchange

/-- A set that is refused stops at a setting. -/
theorem stops_change (hlocate : r.locate path = .ok (spot, s))
    (h : (r.set judge spot s value).failure = some e) :
  Stops judge e (walkAll r.items) (overrides (r.change (.set unjudged path value)).items)
    (overrides (r.change (.set judge path value)).items)
  := by
  obtain ⟨before, later, hwalk, hchange⟩ := exists_overrides_set hlocate value
  rw [hwalk, hchange, hchange]
  apply Stops.append_left _ _ _ (List.length_map _)
  apply (stops_setValue h).append_right (length_overrides_setValue unjudged value s)

/-- A set that is refused as a whole changes nothing. -/
theorem overrides_change_of_refused (hlocate : r.locate path = .ok (spot, s))
    (h : (r.set judge spot s value).failure = some e)
    (hwhole : s.type ≠ .object ∨ ∀ entries, value ≠ .map entries) :
  overrides (r.change (.set judge path value)).items = overrides r.items
  := by
  obtain ⟨before, later, hwalk, hchange⟩ := exists_overrides_set hlocate value
  rw [hchange, settings_setValue_of_refused hwhole h, overrides, overrides, hwalk, List.map_append,
    List.map_append]

/-- What a failed set leaves behind, in every state and whoever judges the values. If the path leads
nowhere, the recommendation is as it was. Otherwise the set stops at one of the settings that the
walk passes: those before it have the overrides that they would get if nobody judged, it and those
after it have their own. So the overrides are as they were just when the settings before it would
get the overrides that they have; and they are if the value is not a mapping for an object. -/
theorem overrides_of_failed_set (r : Recommendation) (judge : Judge) (path : Option String)
    (value : Value) :
  (∀ e, r.locate path = .error e → r.change (.set judge path value) = r)
    ∧ ∀ spot s e, r.locate path = .ok (spot, s) → (r.set judge spot s value).failure = some e →
      let free := overrides (r.change (.set unjudged path value)).items
      let after := overrides (r.change (.set judge path value)).items
      (∃ before t later, walkAll r.items = before ++ t :: later
          ∧ Refuses judge t free[before.length]? e
          ∧ after = free.take before.length ++ (t :: later).map override
          ∧ (after = overrides r.items ↔ free.take before.length = before.map override))
        ∧ (s.type ≠ .object ∨ (∀ entries, value ≠ .map entries) → after = overrides r.items)
  := by
  constructor
  · intro e hlocate
    simp only [change, hlocate]
  · intro spot s e hlocate h free after
    refine ⟨?_, overrides_change_of_refused hlocate h⟩
    obtain ⟨before, t, later, hwalk, hrefuses, hafter⟩ := stops_change hlocate h
    refine ⟨before, t, later, hwalk, hrefuses, hafter, ?_⟩
    have hbefore : overrides r.items = before.map override ++ (t :: later).map override := by
      rw [overrides, hwalk, List.map_append]
    rw [hbefore, show after = _ from hafter, List.append_left_inj]

/-- A recommendation of the listener. -/
def listenerRecommended : Recommendation := ofRecipe listener [] "." 0 []

/-- The judge of validated sets. -/
def validating : Judge := judgeFor .empty .settingChecks true

/-- A port for the listener together with the empty name. -/
def portWithoutName : Value := .map [(.str "Port", .int 80), (.str "Name", .str "")]

/-- The set fails on the name. -/
theorem failure_listener :
  ∃ s e, listenerRecommended.locate (some "Listener") = .ok ([0], s)
    ∧ (listenerRecommended.set validating [0] s portWithoutName).failure = some e
  := by
  have hfails : (listenerRecommended.set validating [0] (listener.settings.head (by decide))
      portWithoutName).failure.isSome = true := by decide +kernel
  obtain ⟨e, he⟩ := Option.isSome_iff_exists.mp hfails
  exact ⟨_, e, rfl, he⟩

theorem overrides_of_failed_set_listener :
  ∃ s e, listenerRecommended.locate (some "Listener") = .ok ([0], s)
    ∧ (listenerRecommended.set validating [0] s portWithoutName).failure = some e
    ∧ ∃ before t later, walkAll listenerRecommended.items = before ++ t :: later
      ∧ Refuses validating t (overrides (listenerRecommended.change
        (.set unjudged (some "Listener") portWithoutName)).items)[before.length]? e
  := by
  obtain ⟨s, e, hlocate, h⟩ := failure_listener
  obtain ⟨-, hfailed⟩ :=
    overrides_of_failed_set listenerRecommended validating (some "Listener") portWithoutName
  obtain ⟨⟨before, t, later, hwalk, hrefuses, -⟩, -⟩ := hfailed [0] s e hlocate h
  exact ⟨s, e, hlocate, h, before, t, later, hwalk, hrefuses⟩

/-- The set fails on the name, but the port has been set before. -/
theorem overrides_ne_listener :
  ∃ s e, listenerRecommended.locate (some "Listener") = .ok ([0], s)
    ∧ (listenerRecommended.set validating [0] s portWithoutName).failure = some e
    ∧ overrides (listenerRecommended.change (.set validating (some "Listener") portWithoutName)).items
      ≠ overrides listenerRecommended.items
  := by
  obtain ⟨s, e, hlocate, h⟩ := failure_listener
  refine ⟨s, e, hlocate, h, ?_⟩
  intro hsame
  have hnull := congrArg (List.map Value.isNull) hsame
  revert hnull
  decide +kernel

end DeploymentRecipes.Recommendation
