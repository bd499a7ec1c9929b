import DeploymentRecipes.Proofs.Setting.Override
import DeploymentRecipes.Proofs.Value.Entries

/-!
# Settings that a mapping reaches

A mapping is followed down the tree by the ids on the way to a setting, through objects that are
reached by a mapping.  A set by the mapping that nobody judges is told setting by setting: it gives a
value to what is reached, clears what stands below an object that is reached by null, and leaves
everything else as it was; it fails if an object is reached by any other value.
-/

namespace DeploymentRecipes.Setting

variable {entries : List (Value × Value)} {ss : List Setting} {spot : Spot} {s : Setting}
  {v : Value}

/-- The value with which a mapping reaches the setting at a place: the entry for its id in the
mapping that reaches the object above it. -/
def reached (entries : List (Value × Value)) (ss : List Setting) : Spot → Option Value
  | [] => none
  | i :: rest => ss[i]?.bind fun s =>
    if rest.isEmpty then Value.field? entries s.id
    else match Value.field? entries s.id with
      | some (.map below) => if s.type = .object then reached below s.children rest else none
      | _ => none

/-- An object stands at a place and is reached with a value. -/
def ReachesObject (entries : List (Value × Value)) (ss : List Setting) (spot : Spot) (v : Value) :
    Prop :=
  ∃ o, at? ss spot = some o ∧ o.type = .object ∧ reached entries ss spot = some v

/-- A place lies below an object that is reached with null. -/
def IsCleared (entries : List (Value × Value)) (ss : List Setting) (spot : Spot) : Prop :=
  ∃ above below, below ≠ [] ∧ spot = above ++ below ∧ ReachesObject entries ss above .null

/-- No value for an object: neither null nor a mapping. -/
def Misfits (v : Value) : Prop := v ≠ .null ∧ ∀ entries, v ≠ .map entries

/-- An override is what a mapping makes of a setting: null below an object that is reached with null,
the value with which a setting is reached that is no object, and the setting's own otherwise. -/
structure IsHandedDown (entries : List (Value × Value)) (ss : List Setting) (spot : Spot)
    (s : Setting) (override : Value) : Prop where
  cleared : IsCleared entries ss spot → override = .null
  assigned : s.type ≠ .object → ∀ v, reached entries ss spot = some v → override = v
  kept : ¬IsCleared entries ss spot → (s.type = .object ∨ reached entries ss spot = none) →
    override = s.override

/-! ### Following a mapping -/

theorem reached_singleton {i : Nat} (hs : ss[i]? = some s) :
  reached entries ss [i] = Value.field? entries s.id
  := by
  simp [reached, hs]

/-- Below an object that is reached with a mapping, the mapping is followed. -/
theorem reached_below {i j : Nat} {rest : Spot} {below : List (Value × Value)}
    (hs : ss[i]? = some s) (hobject : s.type = .object)
    (hfield : Value.field? entries s.id = some (.map below)) :
  reached entries ss (i :: j :: rest) = reached below s.children (j :: rest)
  := by
  rw [reached, hs, Option.bind_some, hfield]
  exact if_pos hobject

/-- Nothing is reached below a setting that is no object, or that is not reached with a mapping. -/
theorem reached_eq_none {i j : Nat} {rest : Spot} (hs : ss[i]? = some s)
    (hend : s.type ≠ .object ∨ ∀ below, Value.field? entries s.id ≠ some (.map below)) :
  reached entries ss (i :: j :: rest) = none
  := by
  rw [reached, hs, Option.bind_some, if_neg (by simp)]
  split
  · rename_i below hfield
    rcases hend with hleaf | hnone
    · exact if_neg hleaf
    · exact absurd hfield (hnone below)
  · rfl

theorem not_reachesObject_nil :
  ¬ReachesObject entries ss [] v
  := by
  rintro ⟨o, hat, -⟩
  cases hat

theorem reachesObject_below_iff {i j : Nat} {rest : Spot} {below : List (Value × Value)}
    (hs : ss[i]? = some s) (hobject : s.type = .object)
    (hfield : Value.field? entries s.id = some (.map below)) :
  ReachesObject entries ss (i :: j :: rest) v ↔ ReachesObject below s.children (j :: rest) v
  := by
  rw [ReachesObject, ReachesObject, reached_below hs hobject hfield, at?_cons_cons, hs,
    Option.bind_some]

/-- What lies below a setting is cleared if the setting is an object that is reached with null, or
below it. -/
theorem isCleared_cons_cons_iff {i j : Nat} {rest : Spot} (hs : ss[i]? = some s) :
  IsCleared entries ss (i :: j :: rest)
    ↔ (s.type = .object ∧ Value.field? entries s.id = some .null)
      ∨ ∃ below, s.type = .object ∧ Value.field? entries s.id = some (.map below)
        ∧ IsCleared below s.children (j :: rest)
  := by
  have hself : ReachesObject entries ss [i] .null
      ↔ s.type = .object ∧ Value.field? entries s.id = some .null := by
    rw [ReachesObject, at?_singleton, hs, reached_singleton hs]
    simp
  constructor
  · rintro ⟨above, lower, hlower, hspot, hnull⟩
    match above with
    | [] => exact absurd hnull not_reachesObject_nil
    | [k] =>
        obtain ⟨rfl, -⟩ := List.cons.inj hspot
        exact Or.inl (hself.mp hnull)
    | k :: l :: above =>
        obtain ⟨rfl, hrest⟩ := List.cons.inj hspot
        obtain ⟨rfl, rfl⟩ := List.cons.inj hrest
        obtain ⟨o, hat, hobject, hreached⟩ := hnull
        by_cases hend : s.type ≠ .object ∨ ∀ below, Value.field? entries s.id ≠ some (.map below)
        · rw [reached_eq_none hs hend] at hreached
          cases hreached
        · push Not at hend
          obtain ⟨hs', below, hfield⟩ := hend
          right
          refine ⟨below, hs', hfield, j :: above, lower, hlower, rfl, ?_⟩
          rw [← reachesObject_below_iff hs hs' hfield]
          exact ⟨o, hat, hobject, hreached⟩
  · rintro (hnull | ⟨below, hobject, hfield, above, lower, hlower, hspot, hnull⟩)
    · exact ⟨[i], j :: rest, by simp, rfl, hself.mpr hnull⟩
    · refine ⟨i :: above, lower, hlower, by rw [hspot, List.cons_append], ?_⟩
      match above with
      | [] => exact absurd hnull not_reachesObject_nil
      | k :: above => exact (reachesObject_below_iff hs hobject hfield).mpr hnull

theorem not_isCleared_singleton (i : Nat) :
  ¬IsCleared entries ss [i]
  := by
  rintro ⟨above, below, hbelow, hspot, hnull⟩
  cases above with
  | nil => exact not_reachesObject_nil hnull
  | cons k above =>
      have hnil := (List.append_eq_nil_iff.mp (List.cons.inj hspot).2.symm).2
      exact hbelow hnil

/-! ### What becomes of one setting -/

theorem setValue_null (judge : Judge) (hobject : s.type = .object) :
  setValue judge .null s = ⟨.node s.declaration s.override (clearAll s.children), [], none⟩
  := by
  obtain ⟨d, w, cs⟩ := s
  simp only [type, declaration] at hobject
  simp [setValue, hobject, declaration, override, children]

theorem setValue_map (judge : Judge) (hobject : s.type = .object) (below : List (Value × Value)) :
  setValue judge (.map below) s =
    ⟨.node s.declaration s.override (setChildren judge below s.children).settings,
      (setChildren judge below s.children).events, (setChildren judge below s.children).failure⟩
  := by
  obtain ⟨d, w, cs⟩ := s
  simp only [type, declaration] at hobject
  simp [setValue, hobject, declaration, override, children]

theorem setValue_of_misfits (judge : Judge) (hobject : s.type = .object) (hv : Misfits v) :
  setValue judge v s = ⟨s, [], some (.refused s.id mappingExpected)⟩
  := by
  obtain ⟨d, w, cs⟩ := s
  simp only [type, declaration] at hobject
  obtain ⟨hnull, hmap⟩ := hv
  cases v with
  | null => cases hnull rfl
  | map below => cases hmap below rfl
  | _ => simp [setValue, hobject, id, declaration]

theorem setValue_unjudged_of_leaf (hleaf : s.type ≠ .object) (v : Value) :
  setValue unjudged v s = ⟨.node s.declaration v s.children, [], none⟩
  := by
  obtain ⟨d, w, cs⟩ := s
  simp only [type, declaration] at hleaf
  simp [setValue, hleaf, unjudged, declaration, children]

/-- What null, a mapping or another value may be. -/
theorem value_cases (v : Value) :
  v = .null ∨ (∃ below, v = .map below) ∨ Misfits v
  := by
  cases v <;> simp [Misfits]

/-- A setting after the mapping has been handed down to it. -/
def handedDown (entries : List (Value × Value)) (s : Setting) : Setting :=
  match Value.field? entries s.id with
  | none => s
  | some v => (setValue unjudged v s).settings

/-- A mapping fails at the first setting at which the entry for it does. -/
theorem failure_setChildren_eq (judge : Judge) (entries : List (Value × Value))
    (ss : List Setting) :
  (setChildren judge entries ss).failure
    = ss.findSome? fun s =>
      (Value.field? entries s.id).bind fun v => (setValue judge v s).failure
  := by
  induction ss with
  | nil => rfl
  | cons s ss ih =>
      rw [setChildren, List.findSome?_cons]
      cases Value.field? entries s.id with
      | none => exact ih
      | some v =>
          simp only [Option.bind_some]
          cases (setValue judge v s).failure with
          | none => exact ih
          | some e => rfl

/-- A mapping that does not fail is handed down to every setting. -/
theorem settings_setChildren (h : (setChildren unjudged entries ss).failure = none) :
  (setChildren unjudged entries ss).settings = ss.map (handedDown entries)
  := by
  induction ss with
  | nil => rfl
  | cons s ss ih =>
      rw [failure_setChildren_eq, List.findSome?_cons] at h
      rw [setChildren, List.map_cons, handedDown]
      cases hfield : Value.field? entries s.id with
      | none =>
          rw [hfield] at h
          rw [← failure_setChildren_eq] at h
          exact congrArg (s :: ·) (ih h)
      | some v =>
          simp only [hfield, Option.bind_some] at h ⊢
          cases hfirst : (setValue unjudged v s).failure with
          | some e =>
              rw [hfirst] at h
              cases h
          | none =>
              rw [hfirst, ← failure_setChildren_eq] at h
              exact congrArg (_ :: ·) (ih h)

/-- What a mapping that does not fail does to a setting: nothing if it has no entry for it, else an
assignment of the value, a clearing of the children, or a handing down to the children. -/
theorem handedDown_cases
    (h : (Value.field? entries s.id).bind (fun v => (setValue unjudged v s).failure) = none) :
  (Value.field? entries s.id = none ∧ handedDown entries s = s)
    ∨ (s.type ≠ .object ∧ ∃ v, Value.field? entries s.id = some v
      ∧ handedDown entries s = .node s.declaration v s.children)
    ∨ (s.type = .object ∧ Value.field? entries s.id = some .null
      ∧ handedDown entries s = .node s.declaration s.override (clearAll s.children))
    ∨ (s.type = .object ∧ ∃ below, Value.field? entries s.id = some (.map below)
      ∧ (setChildren unjudged below s.children).failure = none
      ∧ handedDown entries s =
        .node s.declaration s.override (setChildren unjudged below s.children).settings)
  := by
  rw [handedDown]
  cases hfield : Value.field? entries s.id with
  | none => exact Or.inl ⟨rfl, rfl⟩
  | some v =>
      rw [hfield, Option.bind_some] at h
      right
      by_cases hobject : s.type = .object
      · right
        rcases value_cases v with rfl | ⟨below, rfl⟩ | hmisfits
        · left
          dsimp only
          rw [setValue_null unjudged hobject]
          exact ⟨hobject, rfl, rfl⟩
        · right
          dsimp only
          rw [setValue_map unjudged hobject] at h ⊢
          exact ⟨hobject, below, rfl, h, rfl⟩
        · rw [setValue_of_misfits unjudged hobject hmisfits] at h
          cases h
      · left
        dsimp only
        rw [setValue_unjudged_of_leaf hobject]
        exact ⟨hobject, v, rfl, rfl⟩

/-! ### What becomes of every setting -/

theorem at?_clearAll (ss : List Setting) (spot : Spot) :
  at? (clearAll ss) spot = (at? ss spot).map clear
  := by
  induction spot generalizing ss with
  | nil => rfl
  | cons i rest ih =>
      rw [at?, at?, clearAll_eq_map, List.getElem?_map]
      cases ss[i]? with
      | none => rfl
      | some s =>
          simp only [Option.map_some, Option.bind_some, children_clear, ih]
          split <;> rfl

/-- What is not reached and not cleared keeps its override. -/
theorem isHandedDown_self (hcleared : ¬IsCleared entries ss spot)
    (hreached : reached entries ss spot = none) :
  IsHandedDown entries ss spot s s.override
  where
  cleared h := absurd h hcleared
  assigned _ v hv := by
    rw [hreached] at hv
    cases hv
  kept _ _ := rfl

theorem isHandedDown_singleton {i : Nat} (hs : ss[i]? = some s)
    (h : (Value.field? entries s.id).bind (fun v => (setValue unjudged v s).failure) = none) :
  IsHandedDown entries ss [i] s (handedDown entries s).override
  := by
  have hreached : reached entries ss [i] = Value.field? entries s.id := reached_singleton hs
  have hcleared : ¬IsCleared entries ss [i] := not_isCleared_singleton i
  rcases handedDown_cases h with ⟨hfield, heq⟩ | ⟨hleaf, v, hfield, heq⟩ | ⟨hobject, hfield, heq⟩
    | ⟨hobject, below, hfield, -, heq⟩
  · rw [heq]
    exact isHandedDown_self hcleared (hreached.trans hfield)
  · rw [heq]
    constructor
    · intro hnull
      exact absurd hnull hcleared
    · intro _ w hw
      rw [hreached, hfield] at hw
      exact Option.some.inj hw
    · rintro - (hobject | hnone)
      · exact absurd hobject hleaf
      · rw [hreached, hfield] at hnone
        cases hnone
  · rw [heq]
    exact ⟨fun hnull => absurd hnull hcleared, fun hleaf => absurd hobject hleaf, fun _ _ => rfl⟩
  · rw [heq]
    exact ⟨fun hnull => absurd hnull hcleared, fun hleaf => absurd hobject hleaf, fun _ _ => rfl⟩

/-- What becomes of the settings below one, once it is known what a mapping makes of them that is
handed down to them. -/
theorem exists_isHandedDown_below {i j : Nat} {rest : Spot} {n : Setting} (hs : ss[i]? = some s)
    (h : (Value.field? entries s.id).bind (fun v => (setValue unjudged v s).failure) = none)
    (hn : at? s.children (j :: rest) = some n)
    (hbelow : ∀ below, (setChildren unjudged below s.children).failure = none →
      ∃ n', at? (setChildren unjudged below s.children).settings (j :: rest) = some n'
        ∧ IsHandedDown below s.children (j :: rest) n n'.override) :
  ∃ n', at? (handedDown entries s).children (j :: rest) = some n'
    ∧ IsHandedDown entries ss (i :: j :: rest) n n'.override
  := by
  have hcleared := @isCleared_cons_cons_iff entries ss s i j rest hs
  rcases handedDown_cases h with ⟨hfield, heq⟩ | ⟨hleaf, v, hfield, heq⟩ | ⟨hobject, hfield, heq⟩
    | ⟨hobject, below, hfield, hnone, heq⟩
  · rw [heq]
    refine ⟨n, hn, isHandedDown_self ?_ (reached_eq_none hs (Or.inr ?_))⟩
    · simp [hcleared, hfield]
    · simp [hfield]
  · rw [heq]
    refine ⟨n, hn, isHandedDown_self ?_ (reached_eq_none hs (Or.inl hleaf))⟩
    simp [hcleared, hleaf]
  · have hreached : reached entries ss (i :: j :: rest) = none :=
      reached_eq_none hs (Or.inr (by simp [hfield]))
    rw [heq, children, at?_clearAll, hn]
    refine ⟨clear n, rfl, ?_⟩
    rw [override_clear]
    constructor
    · exact fun _ => rfl
    · intro _ v hv
      rw [hreached] at hv
      cases hv
    · intro hkept
      exact absurd (hcleared.mpr (Or.inl ⟨hobject, hfield⟩)) hkept
  · obtain ⟨n', hn', hdown⟩ := hbelow below hnone
    have hreached := @reached_below entries ss s i j rest below hs hobject hfield
    have hiff : IsCleared entries ss (i :: j :: rest) ↔ IsCleared below s.children (j :: rest) := by
      simp [hcleared, hobject, hfield]
    rw [heq]
    refine ⟨n', hn', ?_⟩
    constructor
    · rw [hiff]
      exact hdown.cleared
    · rw [hreached]
      exact hdown.assigned
    · rw [hiff, hreached]
      exact hdown.kept

/-- A mapping that does not fail makes of every setting what it should. -/
theorem exists_isHandedDown {n : Setting}
    (h : (setChildren unjudged entries ss).failure = none) (hn : at? ss spot = some n) :
  ∃ n', at? (setChildren unjudged entries ss).settings spot = some n'
    ∧ IsHandedDown entries ss spot n n'.override
  := by
  induction spot generalizing ss entries with
  | nil => cases hn
  | cons i rest ih =>
      cases hs : ss[i]? with
      | none => simp [at?, hs] at hn
      | some s =>
          have hset : (setChildren unjudged entries ss).settings[i]?
              = some (handedDown entries s) := by
            rw [settings_setChildren h, List.getElem?_map, hs, Option.map_some]
          rw [failure_setChildren_eq, List.findSome?_eq_none_iff] at h
          have hnone := h s (List.mem_of_getElem? hs)
          cases rest with
          | nil =>
              rw [at?_singleton, hs] at hn
              obtain rfl := Option.some.inj hn
              rw [at?_singleton]
              exact ⟨_, hset, isHandedDown_singleton hs hnone⟩
          | cons j rest =>
              rw [at?_cons_cons, hs, Option.bind_some] at hn
              rw [at?_cons_cons, hset, Option.bind_some]
              exact exists_isHandedDown_below hs hnone hn fun below hbelow => ih hbelow hn

/-! ### Failures -/

/-- A mapping that fails reaches an object with a value that is no mapping. -/
theorem exists_misfits {e : SetError} (h : (setChildren unjudged entries ss).failure = some e) :
  ∃ spot o v, at? ss spot = some o ∧ o.type = .object ∧ reached entries ss spot = some v
    ∧ Misfits v ∧ e = .refused o.id mappingExpected
  := by
  induction ss using forestInd generalizing entries with
  | nil => cases h
  | cons s ss ihchildren ihrest =>
      rw [failure_setChildren_eq, List.findSome?_cons] at h
      cases hfirst : (Value.field? entries s.id).bind (fun v => (setValue unjudged v s).failure) with
      | none =>
          rw [hfirst, ← failure_setChildren_eq] at h
          obtain ⟨spot, o, v, hat, hobject, hreached, hv⟩ := ihrest h
          cases spot with
          | nil => cases hat
          | cons i rest => exact ⟨(i + 1) :: rest, o, v, hat, hobject, hreached, hv⟩
      | some e' =>
          rw [hfirst] at h
          obtain rfl := Option.some.inj h
          obtain ⟨v, hfield, hset⟩ := Option.bind_eq_some_iff.mp hfirst
          by_cases hobject : s.type = .object
          · rcases value_cases v with rfl | ⟨below, rfl⟩ | hmisfits
            · rw [setValue_null unjudged hobject] at hset
              cases hset
            · rw [setValue_map unjudged hobject] at hset
              obtain ⟨spot, o, v, hat, hreached⟩ := ihchildren hset
              cases spot with
              | nil => cases hat
              | cons i rest =>
                  refine ⟨0 :: i :: rest, o, v, ?_⟩
                  rw [at?_cons_cons, reached_below rfl hobject hfield]
                  exact ⟨hat, hreached⟩
            · rw [setValue_of_misfits unjudged hobject hmisfits] at hset
              exact ⟨[0], s, v, rfl, hobject, hfield, hmisfits, (Option.some.inj hset).symm⟩
          · rw [setValue_unjudged_of_leaf hobject] at hset
            cases hset

/-- A mapping that reaches an object with a value that is no mapping fails. -/
theorem failure_ne_none (hreaches : ReachesObject entries ss spot v) (hv : Misfits v) :
  (setChildren unjudged entries ss).failure ≠ none
  := by
  rw [failure_setChildren_eq, ne_eq, List.findSome?_eq_none_iff]
  intro h
  obtain ⟨o, hat, hobject, hreached⟩ := hreaches
  induction spot generalizing ss entries with
  | nil => cases hat
  | cons i rest ih =>
      cases hs : ss[i]? with
      | none => simp [at?, hs] at hat
      | some s =>
          have hnone := h s (List.mem_of_getElem? hs)
          cases rest with
          | nil =>
              rw [at?_singleton, hs] at hat
              obtain rfl := Option.some.inj hat
              rw [reached_singleton hs] at hreached
              rw [hreached, Option.bind_some, setValue_of_misfits unjudged hobject hv] at hnone
              cases hnone
          | cons j rest =>
              rw [at?_cons_cons, hs, Option.bind_some] at hat
              by_cases hend : s.type ≠ .object
                  ∨ ∀ below, Value.field? entries s.id ≠ some (.map below)
              · rw [reached_eq_none hs hend] at hreached
                cases hreached
              · push Not at hend
                obtain ⟨hs', below, hfield⟩ := hend
                rw [reached_below hs hs' hfield] at hreached
                rw [hfield, Option.bind_some, setValue_map unjudged hs', failure_setChildren_eq,
                  List.findSome?_eq_none_iff] at hnone
                exact ih hnone hat hreached

/-! ### The same mapping again, and its entries in another order -/

/-- A mapping that changes no setting changes nothing. -/
theorem setChildren_eq_self
    (h : ∀ s ∈ ss, ∀ v, Value.field? entries s.id = some v → setValue unjudged v s = ⟨s, [], none⟩) :
  setChildren unjudged entries ss = ⟨ss, [], none⟩
  := by
  induction ss with
  | nil => rfl
  | cons s ss ih =>
      rw [List.forall_mem_cons] at h
      rw [setChildren, ih h.2]
      cases hfield : Value.field? entries s.id with
      | none => rfl
      | some v =>
          dsimp only
          rw [h.1 v hfield]
          rfl

/-- A setting to which a mapping has been handed down, when it is handed down again. -/
theorem setValue_handedDown
    (h : (Value.field? entries s.id).bind (fun v => (setValue unjudged v s).failure) = none)
    (hchildren : ∀ below, (setChildren unjudged below s.children).failure = none →
      setChildren unjudged below (setChildren unjudged below s.children).settings
        = ⟨(setChildren unjudged below s.children).settings, [], none⟩)
    (hv : Value.field? entries (handedDown entries s).id = some v) :
  setValue unjudged v (handedDown entries s) = ⟨handedDown entries s, [], none⟩
  := by
  rcases handedDown_cases h with ⟨hfield, heq⟩ | ⟨hleaf, w, hfield, heq⟩ | ⟨hobject, hfield, heq⟩
    | ⟨hobject, below, hfield, hnone, heq⟩
  · rw [heq, hfield] at hv
    cases hv
  · rw [heq] at hv ⊢
    obtain rfl := Option.some.inj (hfield.symm.trans hv)
    apply setValue_unjudged_of_leaf (s := .node s.declaration w s.children) hleaf
  · rw [heq] at hv ⊢
    obtain rfl := Option.some.inj (hfield.symm.trans hv)
    have hobject' : (Setting.node s.declaration s.override (clearAll s.children)).type = .object :=
      hobject
    rw [setValue_null unjudged hobject', children, clearAll_clearAll]
    rfl
  · rw [heq] at hv ⊢
    obtain rfl := Option.some.inj (hfield.symm.trans hv)
    have hobject' : (Setting.node s.declaration s.override
        (setChildren unjudged below s.children).settings).type = .object := hobject
    rw [setValue_map unjudged hobject', children, hchildren below hnone]
    rfl

/-- Handed down once more, a mapping changes nothing. -/
theorem setChildren_setChildren (h : (setChildren unjudged entries ss).failure = none) :
  setChildren unjudged entries (setChildren unjudged entries ss).settings
    = ⟨(setChildren unjudged entries ss).settings, [], none⟩
  := by
  have hself : ∀ t ∈ ss.map (handedDown entries), ∀ v, Value.field? entries t.id = some v →
      setValue unjudged v t = ⟨t, [], none⟩ := by
    rw [failure_setChildren_eq, List.findSome?_eq_none_iff] at h
    rw [List.forall_mem_map]
    induction ss using forestInd generalizing entries with
    | nil => simp
    | cons s ss ihchildren ihrest =>
        rw [List.forall_mem_cons] at h ⊢
        refine ⟨?_, ihrest h.2⟩
        intro v hv
        apply setValue_handedDown h.1 _ hv
        intro below hbelow
        rw [settings_setChildren hbelow]
        rw [failure_setChildren_eq, List.findSome?_eq_none_iff] at hbelow
        apply setChildren_eq_self
        rw [List.forall_mem_map]
        exact ihchildren hbelow
  rw [settings_setChildren h]
  apply setChildren_eq_self hself

/-- Only the entries for the ids of settings count. -/
theorem setChildren_congr {entries' : List (Value × Value)} (judge : Judge)
    (h : ∀ s ∈ ss, Value.field? entries s.id = Value.field? entries' s.id) :
  setChildren judge entries ss = setChildren judge entries' ss
  := by
  induction ss with
  | nil => rfl
  | cons s ss ih =>
      rw [List.forall_mem_cons] at h
      rw [setChildren, setChildren, h.1, ih h.2]

end DeploymentRecipes.Setting
