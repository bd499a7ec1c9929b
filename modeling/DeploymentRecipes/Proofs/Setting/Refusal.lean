import DeploymentRecipes.Proofs.Setting.Override

/-!
# Refused sets

A set that is refused stops at one setting.  The settings that the walk passes before it have what a
set gives them that nobody judges; it and the settings after it are as they were.
-/

namespace DeploymentRecipes.Setting

variable {judge : Judge} {e : SetError}

/-! ### Overrides in the order of the walk -/

/-- The overrides of all settings, in the order of the walk. -/
def overrides (ss : List Setting) : List Value := (walkAll ss).map override

theorem walkAll_singleton (s : Setting) :
  walkAll [s] = s :: walkAll s.children
  := by
  rw [walkAll_cons, walkAll, List.append_nil]

theorem overrides_singleton (s : Setting) :
  overrides [s] = s.override :: overrides s.children
  := by
  rw [overrides, walkAll_singleton, List.map_cons, overrides]

theorem walkAll_append (ss ts : List Setting) :
  walkAll (ss ++ ts) = walkAll ss ++ walkAll ts
  := by
  induction ss with
  | nil => rfl
  | cons s ss ih => rw [List.cons_append, walkAll, walkAll, ih, List.append_assoc]

theorem overrides_append (ss ts : List Setting) :
  overrides (ss ++ ts) = overrides ss ++ overrides ts
  := by
  rw [overrides, walkAll_append, List.map_append, overrides, overrides]

theorem length_overrides (ss : List Setting) :
  (overrides ss).length = (walkAll ss).length
  := by
  rw [overrides, List.length_map]

theorem length_overrides_setValue (judge : Judge) (value : Value) (s : Setting) :
  (overrides [(setValue judge value s).settings]).length = (walkAll [s]).length
  := by
  have hclear : clearAll [(setValue judge value s).settings] = clearAll [s] := by
    rw [clearAll, clear_setValue]
    rfl
  rw [length_overrides, length_walkAll, length_walkAll, sizeAll_eq_of_clearAll_eq hclear]

/-- A change at a place changes a part of the walk. -/
theorem exists_overrides_updateAt {ss : List Setting} {spot : Spot} {s : Setting}
    (h : at? ss spot = some s) :
  ∃ before later, walkAll ss = before ++ (walkAll [s] ++ later)
    ∧ ∀ f, overrides (updateAt ss f spot)
      = before.map override ++ (overrides [f s] ++ later.map override)
  := by
  induction spot generalizing ss with
  | nil => cases h
  | cons i rest ih =>
      cases hu : ss[i]? with
      | none => simp [at?, hu] at h
      | some u =>
          obtain ⟨hi, hget⟩ := List.getElem?_eq_some_iff.mp hu
          have hsplit : ss = ss.take i ++ u :: ss.drop (i + 1) := by
            rw [← hget, List.getElem_cons_drop, List.take_append_drop]
          have hset : ∀ t, ss.set i t = ss.take i ++ t :: ss.drop (i + 1) :=
            fun t => List.set_eq_take_append_cons_drop.trans (if_pos hi)
          generalize ss.take i = first at hsplit hset
          generalize ss.drop (i + 1) = others at hsplit hset
          have hwalk : walkAll ss = walkAll first ++ (walkAll [u] ++ walkAll others) := by
            rw [hsplit, ← List.singleton_append, walkAll_append, walkAll_append]
          have hoverrides : ∀ t, overrides (ss.set i t)
              = overrides first ++ (overrides [t] ++ overrides others) := by
            intro t
            rw [hset, ← List.singleton_append, overrides_append, overrides_append]
          cases rest with
          | nil =>
              rw [at?_singleton, hu] at h
              obtain rfl := Option.some.inj h
              refine ⟨walkAll first, walkAll others, hwalk, ?_⟩
              intro f
              rw [updateAt, hu]
              apply hoverrides
          | cons j rest =>
              rw [at?_cons_cons, hu, Option.bind_some] at h
              obtain ⟨before, later, hbelow, hchange⟩ := ih h
              refine ⟨walkAll first ++ u :: before, later ++ walkAll others, ?_, ?_⟩
              · rw [hwalk, walkAll_cons, hbelow, walkAll]
                simp
              · intro f
                rw [updateAt, hu]
                apply (hoverrides _).trans
                rw [overrides_singleton, children, override, hchange]
                simp [overrides]

/-! ### Where a set stops -/

/-- A setting is not set, because it is an object that is not given a mapping, or because the judge
objects to the value that it is given. -/
def Refuses (judge : Judge) (t : Setting) (given : Option Value) (e : SetError) : Prop :=
  (t.type = .object ∧ e = .refused t.id mappingExpected)
    ∨ (t.type ≠ .object ∧ ∃ v, given = some v ∧ (judge t.declaration v).value = .error e)

/-- A set stops at one of the settings that the walk passes, which is not set: those before it have
what they get if nobody judges, and those from it on are as they were. -/
def Stops (judge : Judge) (e : SetError) (walked : List Setting) (free after : List Value) : Prop :=
  ∃ before t later, walked = before ++ t :: later
    ∧ Refuses judge t free[before.length]? e
    ∧ after = free.take before.length ++ (t :: later).map override

/-- Settings that are set before the set stops. -/
theorem Stops.append_left {walked : List Setting} {free after : List Value}
    (h : Stops judge e walked free after) (first : List Setting) (taken : List Value)
    (hlength : taken.length = first.length) :
  Stops judge e (first ++ walked) (taken ++ free) (taken ++ after)
  := by
  obtain ⟨before, t, later, rfl, hrefuses, rfl⟩ := h
  refine ⟨first ++ before, t, later, by simp, ?_, ?_⟩
  · rw [List.length_append, ← hlength, List.getElem?_append_right (Nat.le_add_right _ _),
      Nat.add_sub_cancel_left]
    exact hrefuses
  · rw [List.length_append, ← hlength, List.take_length_add_append, List.append_assoc]

/-- Settings that are left after the set has stopped. -/
theorem Stops.append_right {walked : List Setting} {free after : List Value}
    (h : Stops judge e walked free after) (hlength : free.length = walked.length)
    (rest : List Setting) (more : List Value) :
  Stops judge e (walked ++ rest) (free ++ more) (after ++ rest.map override)
  := by
  obtain ⟨before, t, later, rfl, hrefuses, rfl⟩ := h
  have hlt : before.length < free.length := by
    rw [hlength, List.length_append, List.length_cons]
    omega
  refine ⟨before, t, later ++ rest, by simp, ?_, ?_⟩
  · rw [List.getElem?_append_left hlt]
    exact hrefuses
  · rw [List.take_append_of_le_length (Nat.le_of_lt hlt)]
    simp

/-- A set of a setting that is not refused, once it is known that nobody needs to judge it for the
children. -/
theorem setValue_unjudged_of_children {s : Setting} (value : Value)
    (hchildren : ∀ entries, (setChildren judge entries s.children).failure = none →
      (setChildren unjudged entries s.children).failure = none
        ∧ (setChildren unjudged entries s.children).settings
          = (setChildren judge entries s.children).settings)
    (h : (setValue judge value s).failure = none) :
  (setValue unjudged value s).failure = none
    ∧ (setValue unjudged value s).settings = (setValue judge value s).settings
  := by
  obtain ⟨d, v, cs⟩ := s
  by_cases hobject : d.type = .object
  · cases value with
    | map entries =>
        simp only [setValue, if_pos hobject] at h ⊢
        obtain ⟨hfailure, hsettings⟩ := hchildren entries h
        exact ⟨hfailure, congrArg (Setting.node d v) hsettings⟩
    | null => simp [setValue, hobject]
    | _ => simp [setValue, hobject] at h
  · cases hverdict : (judge d value).value with
    | ok u => simp [setValue, hobject, unjudged, hverdict]
    | error e => simp [setValue, hobject, hverdict] at h

theorem setChildren_unjudged {entries : List (Value × Value)} {ss : List Setting}
    (h : (setChildren judge entries ss).failure = none) :
  (setChildren unjudged entries ss).failure = none
    ∧ (setChildren unjudged entries ss).settings = (setChildren judge entries ss).settings
  := by
  induction ss using forestInd generalizing entries with
  | nil => exact ⟨rfl, rfl⟩
  | cons s ss ihchildren ihrest =>
      rw [setChildren] at h ⊢
      rw [setChildren]
      cases hfield : Value.field? entries s.id with
      | none =>
          simp only [hfield] at h ⊢
          obtain ⟨hfailure, hsettings⟩ := ihrest h
          exact ⟨hfailure, congrArg (s :: ·) hsettings⟩
      | some value =>
          simp only [hfield] at h ⊢
          cases hfirst : (setValue judge value s).failure with
          | some e =>
              rw [hfirst] at h
              cases h
          | none =>
              simp only [hfirst] at h ⊢
              obtain ⟨hfree, hsame⟩ := setValue_unjudged_of_children value (fun _ => ihchildren) hfirst
              obtain ⟨hfailure, hsettings⟩ := ihrest h
              simp only [hfree]
              exact ⟨hfailure, congrArg₂ List.cons hsame hsettings⟩

/-- A set of a setting that is refused, once it is known how one of the children stops. -/
theorem stops_setValue_of_children {s : Setting} {value : Value}
    (hchildren : ∀ entries, (setChildren judge entries s.children).failure = some e →
      Stops judge e (walkAll s.children)
        (overrides (setChildren unjudged entries s.children).settings)
        (overrides (setChildren judge entries s.children).settings))
    (h : (setValue judge value s).failure = some e) :
  Stops judge e (walkAll [s]) (overrides [(setValue unjudged value s).settings])
    (overrides [(setValue judge value s).settings])
  := by
  obtain ⟨d, v, cs⟩ := s
  by_cases hobject : d.type = .object
  · cases value with
    | map entries =>
        simp only [setValue, if_pos hobject] at h ⊢
        rw [walkAll_singleton, overrides_singleton, overrides_singleton]
        apply (hchildren entries h).append_left [.node d v cs] [v] rfl
    | null => simp [setValue, hobject] at h
    | _ =>
        simp only [setValue, if_pos hobject, Option.some.injEq] at h ⊢
        rw [walkAll_singleton]
        exact ⟨[], .node d v cs, walkAll cs, rfl, Or.inl ⟨hobject, h.symm⟩, overrides_singleton _⟩
  · cases hverdict : (judge d value).value with
    | ok u => simp [setValue, hobject, hverdict] at h
    | error e' =>
        have hfree : setValue unjudged value (.node d v cs) = ⟨.node d value cs, [], none⟩ := by
          simp [setValue, hobject, unjudged]
        rw [hfree]
        simp only [setValue, if_neg hobject, hverdict, Option.some.injEq] at h ⊢
        obtain rfl := h
        rw [walkAll_singleton]
        refine ⟨[], .node d v cs, walkAll cs, rfl, Or.inr ⟨hobject, value, ?_, hverdict⟩,
          overrides_singleton _⟩
        rw [overrides_singleton]
        rfl

/-- A set by a mapping that is refused stops at a setting. -/
theorem stops_setChildren {entries : List (Value × Value)} {ss : List Setting}
    (h : (setChildren judge entries ss).failure = some e) :
  Stops judge e (walkAll ss) (overrides (setChildren unjudged entries ss).settings)
    (overrides (setChildren judge entries ss).settings)
  := by
  induction ss using forestInd generalizing entries with
  | nil => cases h
  | cons s ss ihchildren ihrest =>
      have hwalk : walkAll (s :: ss) = walkAll [s] ++ walkAll ss := walkAll_append [s] ss
      have hcons : ∀ t ts, overrides (t :: ts) = overrides [t] ++ overrides ts :=
        fun t ts => overrides_append [t] ts
      rw [hwalk]
      rw [setChildren] at h ⊢
      rw [setChildren]
      cases hfield : Value.field? entries s.id with
      | none =>
          simp only [hfield] at h ⊢
          rw [hcons, hcons s (setChildren judge entries ss).settings]
          apply (ihrest h).append_left _ _ (length_overrides [s])
      | some value =>
          simp only [hfield] at h ⊢
          have hlength := fun judge => length_overrides_setValue judge value s
          cases hfirst : (setValue judge value s).failure with
          | some e' =>
              simp only [hfirst] at h ⊢
              obtain rfl := Option.some.inj h
              have hstops := stops_setValue_of_children (fun _ => ihchildren) hfirst
              rw [hcons (setValue judge value s).settings]
              -- A set that nobody judges may go on or stop here too.
              cases (setValue unjudged value s).failure with
              | some e =>
                  rw [hcons]
                  apply hstops.append_right (hlength unjudged)
              | none =>
                  rw [hcons]
                  apply hstops.append_right (hlength unjudged)
          | none =>
              simp only [hfirst] at h ⊢
              obtain ⟨hfree, hsame⟩ :=
                setValue_unjudged_of_children value (fun _ => setChildren_unjudged) hfirst
              simp only [hfree, hsame]
              rw [hcons, hcons _ (setChildren judge entries ss).settings]
              apply (ihrest h).append_left _ _ (hlength judge)

/-- A set that is refused stops at a setting. -/
theorem stops_setValue {value : Value} {s : Setting}
    (h : (setValue judge value s).failure = some e) :
  Stops judge e (walkAll [s]) (overrides [(setValue unjudged value s).settings])
    (overrides [(setValue judge value s).settings])
  := stops_setValue_of_children (fun _ => stops_setChildren) h

/-- A value that is no mapping is refused as a whole, and so is any value for a setting that is no
object. -/
theorem settings_setValue_of_refused {value : Value} {s : Setting}
    (hwhole : s.type ≠ .object ∨ ∀ entries, value ≠ .map entries)
    (h : (setValue judge value s).failure = some e) :
  (setValue judge value s).settings = s
  := by
  obtain ⟨d, v, cs⟩ := s
  by_cases hobject : d.type = .object
  · cases value with
    | map entries => cases hwhole.resolve_left (not_not.mpr hobject) entries rfl
    | null => simp [setValue, hobject] at h
    | _ => simp [setValue, hobject]
  · cases hverdict : (judge d value).value with
    | ok u => simp [setValue, hobject, hverdict] at h
    | error e' => simp [setValue, hobject, hverdict]

end DeploymentRecipes.Setting
