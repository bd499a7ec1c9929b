import DeploymentRecipes.Proofs.Setting.Evaluation
import DeploymentRecipes.Proofs.Setting.Override
import DeploymentRecipes.Proofs.Value.Entries

/-!
# Pinned settings

A setting is pinned when its own value is made its override, and an object by pinning the children
that are shown.  Setting the value of a setting on the same setting without overrides pins it.
Pinning keeps values as long as the tokens leave the texts among them alone.
-/

namespace DeploymentRecipes

namespace Setting

variable {tokens : TokenTable} {shown : List (String × Bool)}

/-! ### Entries of a mapping of values -/

/-- What a mapping of values has for a setting: its value, and nothing in place of null. -/
def bareEntry (tokens : TokenTable) (shown : List (String × Bool)) (s : Setting) : Option Value :=
  match bareValue tokens shown s with
  | .ok v => if v.isNull then none else some v
  | .error _ => none

theorem bareEntry_of_ok {s : Setting} {v : Value} (hv : bareValue tokens shown s = .ok v) :
  bareEntry tokens shown s = if v.isNull then none else some v
  := by
  rw [bareEntry, hv]

theorem isShown_nil (id : String) :
  isShown [] id = true
  := rfl

/-- The value of an object that has no override is the mapping of the values of its children. -/
theorem bareValue_of_object {s : Setting} (hobject : s.type = .object)
    (hnull : s.override = .null) :
  bareValue tokens shown s = (childValues tokens shown s.children []).map mapOrNull
  := by
  obtain ⟨d, v, cs⟩ := s
  obtain rfl : v = .null := hnull
  rw [type, declaration] at hobject
  rw [bareValue, if_neg (by simp [Value.isNull]), if_pos hobject, children]

/-- What is shown has no say in the value of a setting that is no object. -/
theorem bareValue_of_leaf {s : Setting} (hleaf : s.type ≠ .object) :
  bareValue tokens shown s = fillTokens tokens
    (if s.override.isNull then s.declaration.defaultValue else s.override)
  := by
  obtain ⟨d, v, cs⟩ := s
  rw [type, declaration] at hleaf
  rw [bareValue, if_neg hleaf, override, declaration]
  cases v.isNull <;> rfl

theorem bareEntry_of_leaf {s : Setting} (hleaf : s.type ≠ .object) :
  bareEntry tokens shown s = bareEntry tokens [] s
  := by
  rw [bareEntry, bareEntry, bareValue_of_leaf hleaf, bareValue_of_leaf hleaf]

/-- What a mapping of values has for a setting that may be hidden. -/
def shownEntry (tokens : TokenTable) (shown : List (String × Bool)) (s : Setting) : Option Value :=
  if isShown shown s.id then bareEntry tokens [] s else none

/-- The entry of the first setting is entered before those of the others. -/
theorem childValues_cons (htext : tokens.IsText) (s : Setting) (ss : List Setting)
    (acc : List (Value × Value)) :
  ∃ acc', childValues tokens shown (s :: ss) acc = childValues tokens shown ss acc'
    ∧ ∀ id, Value.field? acc' id =
      if id = s.id then (shownEntry tokens shown s).or (Value.field? acc id)
      else Value.field? acc id
  := by
  rw [childValues, shownEntry]
  by_cases hshown : isShown shown s.id
  · obtain ⟨v, hv⟩ := exists_bareValue htext [] s
    rw [if_pos hshown, if_pos hshown, bareEntry_of_ok hv, hv]
    refine ⟨_, rfl, ?_⟩
    intro id
    cases v.isNull with
    | true => simp
    | false => simp [Value.field?_insertEntry]
  · rw [if_neg hshown, if_neg hshown]
    refine ⟨acc, rfl, ?_⟩
    intro id
    simp

/-- The mapping of the values of settings with different ids has the entries of those that are
shown. -/
theorem field?_childValues (htext : tokens.IsText) {cs : List Setting}
    (hnodup : (cs.map id).Nodup) {acc entries : List (Value × Value)}
    (h : childValues tokens shown cs acc = .ok entries) :
  (∀ id, id ∉ cs.map Setting.id → Value.field? entries id = Value.field? acc id)
    ∧ ((∀ c ∈ cs, Value.field? acc c.id = none) →
      ∀ c ∈ cs, Value.field? entries c.id = shownEntry tokens shown c)
  := by
  induction cs generalizing acc with
  | nil =>
      rw [childValues, Except.ok.injEq] at h
      simp [h]
  | cons s cs ih =>
      rw [List.map_cons, List.nodup_cons] at hnodup
      obtain ⟨acc', hcons, hacc⟩ := childValues_cons htext s cs acc
      rw [hcons] at h
      obtain ⟨hother, hown⟩ := ih hnodup.2 h
      constructor
      · intro id hid
        rw [List.map_cons, List.mem_cons, not_or] at hid
        rw [hother id hid.2, hacc, if_neg hid.1]
      · intro hfresh
        rw [List.forall_mem_cons] at hfresh
        rw [List.forall_mem_cons]
        constructor
        · rw [hother s.id hnodup.1, hacc, if_pos rfl, hfresh.1, Option.or_none]
        · apply hown
          intro c hc
          have hne := id_ne_of_mem hnodup.1 hc
          rw [hacc, if_neg hne, hfresh.2 c hc]

/-! ### Pinning -/

mutual

/-- The setting with its value as its override; an object with the children that are shown pinned
and without overrides on the others. -/
def pinned (tokens : TokenTable) (shown : List (String × Bool)) : Setting → Setting
  | .node d v cs =>
    if d.type = .object then .node d .null (pinnedAll tokens shown cs)
    else .node d ((bareEntry tokens [] (.node d v cs)).getD .null) (clearAll cs)

def pinnedAll (tokens : TokenTable) (shown : List (String × Bool)) :
    List Setting → List Setting
  | [] => []
  | s :: ss =>
    (if isShown shown s.id then pinned tokens [] s else clear s) :: pinnedAll tokens shown ss

end

/-- What becomes of a child of a pinned object. -/
def pinnedChild (tokens : TokenTable) (shown : List (String × Bool)) (c : Setting) : Setting :=
  if isShown shown c.id then pinned tokens [] c else clear c

theorem pinnedAll_eq_map (cs : List Setting) :
  pinnedAll tokens shown cs = cs.map (pinnedChild tokens shown)
  := by
  induction cs with
  | nil => rfl
  | cons c cs ih => rw [pinnedAll, ih, List.map_cons, pinnedChild]

theorem pinned_of_object {s : Setting} (hobject : s.type = .object) :
  pinned tokens shown s
    = .node s.declaration .null (s.children.map (pinnedChild tokens shown))
  := by
  obtain ⟨d, v, cs⟩ := s
  rw [type, declaration] at hobject
  rw [pinned, if_pos hobject, pinnedAll_eq_map, declaration, children]

theorem pinned_of_leaf {s : Setting} (hleaf : s.type ≠ .object) :
  pinned tokens shown s
    = .node s.declaration ((bareEntry tokens [] s).getD .null) (clearAll s.children)
  := by
  obtain ⟨d, v, cs⟩ := s
  rw [type, declaration] at hleaf
  rw [pinned, if_neg hleaf, declaration, children]

@[simp]
theorem declaration_pinned (s : Setting) :
  (pinned tokens shown s).declaration = s.declaration
  := by
  by_cases hobject : s.type = .object
  · rw [pinned_of_object hobject, declaration]
  · rw [pinned_of_leaf hobject, declaration]

@[simp]
theorem id_pinned (s : Setting) :
  (pinned tokens shown s).id = s.id
  := by
  rw [id, declaration_pinned, id]

@[simp]
theorem id_pinnedChild (c : Setting) :
  (pinnedChild tokens shown c).id = c.id
  := by
  rw [pinnedChild]
  split
  · apply id_pinned
  · apply id_clear

@[simp]
theorem dependsOn_pinnedChild (c : Setting) :
  (pinnedChild tokens shown c).dependsOn = c.dependsOn
  := by
  rw [pinnedChild]
  split
  · rw [dependsOn, declaration_pinned, dependsOn]
  · apply dependsOn_clear

theorem clear_pinnedChild_of_children {c : Setting}
    (h : clearAll (c.children.map (pinnedChild tokens [])) = clearAll c.children) :
  clear (pinnedChild tokens shown c) = clear c
  := by
  rw [pinnedChild]
  split
  · by_cases hobject : c.type = .object
    · rw [pinned_of_object hobject, clear, h, clear_eq]
    · rw [pinned_of_leaf hobject, clear, clearAll_clearAll, clear_eq]
  · apply clear_clear

/-- Pinning changes overrides only. -/
theorem clearAll_map_pinnedChild (cs : List Setting) :
  clearAll (cs.map (pinnedChild tokens shown)) = clearAll cs
  := by
  induction cs using forestInd generalizing shown with
  | nil => rfl
  | cons c cs ihchildren ihrest =>
      rw [List.map_cons, clearAll, clearAll, ihrest, clear_pinnedChild_of_children ihchildren]

@[simp]
theorem clear_pinned (s : Setting) :
  clear (pinned tokens shown s) = clear s
  := by
  by_cases hobject : s.type = .object
  · rw [pinned_of_object hobject, clear, clearAll_map_pinnedChild, clear_eq]
  · rw [pinned_of_leaf hobject, clear, clearAll_clearAll, clear_eq]

/-! ### Setting values pins -/

/-- Objects have no override of their own. -/
def BareObjects (ss : List Setting) : Prop :=
  AllOverrides (fun d v => d.type = .object → v = .null) ss

/-- What setting the value of a setting on the setting without overrides comes to: the setting is
pinned, or has no value and nothing to pin. -/
inductive Pins (tokens : TokenTable) (shown : List (String × Bool)) (s : Setting) : Prop where
  | null (hentry : bareEntry tokens shown s = none) (hpinned : pinned tokens shown s = clear s)
  | value (v : Value) (hentry : bareEntry tokens shown s = some v)
    (hpinned : setValue unjudged v (clear s) = ⟨pinned tokens shown s, [], none⟩)

/-- Handing a mapping down to settings without overrides, when it is known what becomes of each. -/
theorem setChildren_clearAll {entries : List (Value × Value)} {pin : Setting → Setting}
    {cs : List Setting}
    (h : ∀ c ∈ cs, Value.field? entries c.id = none ∧ pin c = clear c
      ∨ ∃ v, Value.field? entries c.id = some v
        ∧ setValue unjudged v (clear c) = ⟨pin c, [], none⟩) :
  setChildren unjudged entries (clearAll cs) = ⟨cs.map pin, [], none⟩
  := by
  induction cs with
  | nil => rfl
  | cons c cs ih =>
      rw [List.forall_mem_cons] at h
      rw [clearAll, setChildren, id_clear, ih h.2, List.map_cons]
      rcases h.1 with ⟨hnone, hpin⟩ | ⟨v, hsome, hpin⟩
      · simp only [hnone, hpin]
      · simp only [hsome, hpin, List.nil_append]

theorem pins_of_object (htext : tokens.IsText) {s : Setting} (hobject : s.type = .object)
    (hbare : s.override = .null) (hnodup : (s.children.map id).Nodup)
    (hchildren : ∀ c ∈ s.children, Pins tokens [] c) :
  Pins tokens shown s
  := by
  obtain ⟨v, hv⟩ := exists_bareValue htext shown s
  have hmap := hv
  rw [bareValue_of_object hobject hbare] at hmap
  cases hentries : childValues tokens shown s.children [] with
  | error e =>
      rw [hentries] at hmap
      cases hmap
  | ok entries =>
      rw [hentries] at hmap
      obtain rfl := Except.ok.inj hmap
      have hfield := (field?_childValues htext hnodup hentries).2 (fun c _ => rfl)
      have hpins : ∀ c ∈ s.children,
          Value.field? entries c.id = none ∧ pinnedChild tokens shown c = clear c
            ∨ ∃ v, Value.field? entries c.id = some v
              ∧ setValue unjudged v (clear c) = ⟨pinnedChild tokens shown c, [], none⟩ := by
        intro c hc
        rw [hfield c hc, shownEntry, pinnedChild]
        by_cases hshown : isShown shown c.id
        · rw [if_pos hshown, if_pos hshown]
          rcases hchildren c hc with ⟨hentry, hpinned⟩ | ⟨w, hentry, hpinned⟩
          · exact Or.inl ⟨hentry, hpinned⟩
          · exact Or.inr ⟨w, hentry, hpinned⟩
        · rw [if_neg hshown, if_neg hshown]
          exact Or.inl ⟨rfl, rfl⟩
      cases entries with
      | nil =>
          apply Pins.null
          · simp [bareEntry, hv, mapOrNull, Value.isNull]
          · rw [pinned_of_object hobject, clear_eq, clearAll_eq_map]
            congr 1
            apply List.map_congr_left
            intro c hc
            rcases hpins c hc with ⟨-, hpinned⟩ | ⟨w, hsome, -⟩
            · exact hpinned
            · cases hsome
      | cons entry entries =>
          apply Pins.value (.map (entry :: entries))
          · simp [bareEntry, hv, mapOrNull, Value.isNull]
          · rw [type] at hobject
            rw [clear_eq, setValue, if_pos hobject, pinned_of_object hobject]
            simp only [setChildren_clearAll hpins]

theorem pins_of_leaf (htext : tokens.IsText) {s : Setting} (hleaf : s.type ≠ .object) :
  Pins tokens shown s
  := by
  obtain ⟨v, hv⟩ := exists_bareValue htext [] s
  have hentry := bareEntry_of_ok hv
  cases hnull : v.isNull with
  | true =>
      rw [hnull, if_pos rfl] at hentry
      apply Pins.null
      · rw [bareEntry_of_leaf hleaf, hentry]
      · rw [pinned_of_leaf hleaf, hentry, clear_eq]
        rfl
  | false =>
      rw [hnull, if_neg (by simp)] at hentry
      apply Pins.value v
      · rw [bareEntry_of_leaf hleaf, hentry]
      · rw [pinned_of_leaf hleaf, hentry, clear_eq]
        rw [type] at hleaf
        simp only [setValue, if_neg hleaf]
        rfl

/-- Setting the value of a setting on the setting without overrides pins it. -/
theorem pins (htext : tokens.IsText) {ss : List Setting} (hdistinct : DistinctIds ss)
    (hbare : BareObjects ss) {s : Setting} (hs : s ∈ ss) :
  Pins tokens shown s
  := by
  induction ss using forestInd generalizing s shown with
  | nil => cases hs
  | cons t ss ihchildren ihrest =>
      obtain ⟨-, hdistinctChildren, hdistinctRest⟩ := distinctIds_cons_iff.mp hdistinct
      obtain ⟨hself, hbareChildren, hbareRest⟩ := allOverrides_cons_iff.mp hbare
      rcases List.mem_cons.mp hs with rfl | hs
      · by_cases hobject : s.type = .object
        · apply pins_of_object htext hobject (hself hobject) hdistinctChildren.top
          intro c hc
          apply ihchildren hdistinctChildren hbareChildren hc
        · apply pins_of_leaf htext hobject
      · apply ihrest hdistinctRest hbareRest hs

/-! ### Pinning keeps values -/

/-- The tokens leave alone what settings have as values. -/
def SteadyValues (tokens : TokenTable) (ss : List Setting) : Prop :=
  ∀ s ∈ walkAll ss, s.type ≠ .object → ∀ v, bareValue tokens [] s = .ok v →
    Token.substitute tokens v = .ok v

/-- A mapping of values hangs on the ids and on the values of those that are shown. -/
theorem childValues_map (copy : Setting → Setting) {cs : List Setting}
    {acc : List (Value × Value)}
    (h : ∀ c ∈ cs, (copy c).id = c.id
      ∧ (isShown shown c.id → bareValue tokens [] (copy c) = bareValue tokens [] c)) :
  childValues tokens shown (cs.map copy) acc = childValues tokens shown cs acc
  := by
  induction cs generalizing acc with
  | nil => rfl
  | cons c cs ih =>
      rw [List.forall_mem_cons] at h
      rw [List.map_cons, childValues, childValues, h.1.1]
      by_cases hshown : isShown shown c.id
      · rw [if_pos hshown, if_pos hshown, h.1.2 hshown]
        cases bareValue tokens [] c with
        | error e => rfl
        | ok v => apply ih h.2
      · rw [if_neg hshown, if_neg hshown, ih h.2]

theorem isNull_of_fillTokens (htext : tokens.IsText) {v w : Value}
    (h : fillTokens tokens v = .ok w) :
  w.isNull = v.isNull
  := by
  obtain ⟨u, hu, hnull⟩ := Token.exists_substitute htext v
  rw [fillTokens, hu] at h
  rw [← Except.ok.inj h, hnull]

/-- A value that the tokens leave alone is the value of the setting that it overrides, and a setting
without a value has none without an override. -/
theorem bareValue_pinned_of_leaf (htext : tokens.IsText) {s : Setting} (hleaf : s.type ≠ .object)
    (hsteady : ∀ v, bareValue tokens [] s = .ok v → Token.substitute tokens v = .ok v) :
  bareValue tokens shown (pinned tokens shown s) = bareValue tokens shown s
  := by
  obtain ⟨v, hv⟩ := exists_bareValue htext [] s
  have hleaf' : (pinned tokens shown s).type ≠ .object := by rwa [type, declaration_pinned]
  have hfill := hv
  rw [bareValue_of_leaf hleaf] at hfill
  rw [bareValue_of_leaf hleaf', bareValue_of_leaf hleaf, hfill, declaration_pinned,
    pinned_of_leaf hleaf, override, bareEntry_of_ok hv]
  cases hnull : v.isNull with
  | true =>
      have hbare : s.override.isNull := by
        have hsame := isNull_of_fillTokens htext hfill
        rw [hnull] at hsame
        by_contra hsome
        rw [if_neg hsome] at hsame
        exact hsome hsame.symm
      rwa [if_pos hbare] at hfill
  | false =>
      simp only [hnull, Option.getD_some, Bool.false_eq_true, if_false]
      rw [fillTokens, hsteady v hv]
      rfl

/-- Pinning keeps values. -/
theorem bareValue_pinned (htext : tokens.IsText) {ss : List Setting} (hbare : BareObjects ss)
    (hsteady : SteadyValues tokens ss) {s : Setting} (hs : s ∈ ss) :
  bareValue tokens shown (pinned tokens shown s) = bareValue tokens shown s
  := by
  induction ss using forestInd generalizing s shown with
  | nil => cases hs
  | cons t ss ihchildren ihrest =>
      obtain ⟨hself, hbareChildren, hbareRest⟩ := allOverrides_cons_iff.mp hbare
      obtain ⟨hsteadySelf, hsteadyChildren, hsteadyRest⟩ := forall_mem_walkAll_cons.mp hsteady
      rcases List.mem_cons.mp hs with rfl | hs
      · by_cases hobject : s.type = .object
        · have hpinned : (pinned tokens shown s).type = .object := by
            rwa [type, declaration_pinned]
          rw [pinned_of_object hobject] at hpinned ⊢
          rw [bareValue_of_object hpinned rfl, bareValue_of_object hobject (hself hobject)]
          congr 1
          apply childValues_map
          intro c hc
          use id_pinnedChild c
          intro hshown
          rw [pinnedChild, if_pos hshown]
          apply ihchildren hbareChildren hsteadyChildren hc
        · apply bareValue_pinned_of_leaf htext hobject
          apply hsteadySelf hobject
      · apply ihrest hbareRest hsteadyRest hs

/-! ### Pinned settings in their places -/

/-- What stands at a place below objects is pinned there, as soon as the first setting on the way
is. -/
theorem at?_map_of_pinned {pin : Setting → Setting} {cs : List Setting} {spot : Spot} {t : Setting}
    (h : at? cs spot = some t) (hobjects : ∀ a ∈ (trail cs spot).dropLast, a.type = .object)
    (hpin : ∀ c, (trail cs spot).head? = some c → pin c = pinned tokens [] c) :
  at? (cs.map pin) spot = some (pinned tokens [] t)
  := by
  induction spot generalizing cs pin with
  | nil => simp [at?] at h
  | cons i rest ih =>
      cases hc : cs[i]? with
      | none => simp [at?, hc] at h
      | some c =>
          have hpinned : pin c = pinned tokens [] c := by
            apply hpin
            simp [trail, hc]
          cases rest with
          | nil =>
              rw [at?_singleton, hc] at h
              obtain rfl := Option.some.inj h
              rw [at?_singleton, List.getElem?_map, hc, Option.map_some, hpinned]
          | cons j rest =>
              rw [at?_cons_cons, hc, Option.bind_some] at h
              rw [trail_cons hc, List.dropLast_cons_of_ne_nil (trail_ne_nil h),
                List.forall_mem_cons] at hobjects
              rw [at?_cons_cons, List.getElem?_map, hc, Option.map_some, Option.bind_some, hpinned,
                pinned_of_object hobjects.1]
              apply ih h hobjects.2
              intro d _
              rw [pinnedChild, isShown_nil, if_pos rfl]

theorem pinned_eq_of_leaf {s : Setting} (hleaf : s.type ≠ .object) :
  pinned tokens shown s = pinned tokens [] s
  := by
  rw [pinned_of_leaf hleaf, pinned_of_leaf hleaf]

/-- What stands at a place below objects is pinned there when it is no object and nothing on the way
to it can be hidden, except at the top level. -/
theorem at?_map_pinned {shown : Setting → List (String × Bool)} {ss : List Setting} {spot : Spot}
    {t : Setting} (h : at? ss spot = some t) (hleaf : t.type ≠ .object)
    (hobjects : ∀ a ∈ (trail ss spot).dropLast, a.type = .object)
    (hrules : ∀ a ∈ (trail ss spot).tail, a.dependsOn = [])
    (hshown : ∀ s ∈ ss, s.type = .object → ∀ c ∈ s.children, c.dependsOn = [] →
      isShown (shown s) c.id) :
  at? (ss.map fun s => pinned tokens (shown s) s) spot = some (pinned tokens [] t)
  := by
  cases spot with
  | nil => simp [at?] at h
  | cons i rest =>
      cases hs : ss[i]? with
      | none => simp [at?, hs] at h
      | some s =>
          cases rest with
          | nil =>
              rw [at?_singleton, hs] at h
              obtain rfl := Option.some.inj h
              rw [at?_singleton, List.getElem?_map, hs, Option.map_some, pinned_eq_of_leaf hleaf]
          | cons j rest =>
              rw [at?_cons_cons, hs, Option.bind_some] at h
              rw [trail_cons hs, List.dropLast_cons_of_ne_nil (trail_ne_nil h),
                List.forall_mem_cons] at hobjects
              rw [trail_cons hs, List.tail_cons] at hrules
              rw [at?_cons_cons, List.getElem?_map, hs, Option.map_some, Option.bind_some,
                pinned_of_object hobjects.1]
              apply at?_map_of_pinned h hobjects.2
              intro c hc
              have hchild : c ∈ s.children := by
                cases hc' : s.children[j]? with
                | none => simp [trail, hc'] at hc
                | some c' =>
                    rw [trail_cons hc', List.head?_cons] at hc
                    rw [← Option.some.inj hc]
                    apply List.mem_of_getElem? hc'
              rw [pinnedChild, if_pos]
              apply hshown s (List.mem_of_getElem? hs) hobjects.1 c hchild
              apply hrules c (List.mem_of_head? hc)

end Setting
end DeploymentRecipes
