import DeploymentRecipes.Proofs.Setting.Tree

/-!
# What a change of overrides keeps

Setting values and clearing them change nothing but overrides, also when a refusal ends a set
midway.  A property of overrides that null has, and every value that is accepted for a setting that
is no object, is kept by both.
-/

namespace DeploymentRecipes.Setting

variable {P : Declaration → Value → Prop} {judge : Judge}

/-- The override of every setting has a property that may depend on the declaration. -/
def AllOverrides (P : Declaration → Value → Prop) (ss : List Setting) : Prop :=
  ∀ s ∈ walkAll ss, P s.declaration s.override

theorem allOverrides_nil (P : Declaration → Value → Prop) :
  AllOverrides P []
  := by
  simp [AllOverrides, walkAll]

theorem allOverrides_cons_iff {s : Setting} {ss : List Setting} :
  AllOverrides P (s :: ss)
    ↔ P s.declaration s.override ∧ AllOverrides P s.children ∧ AllOverrides P ss
  := by
  exact forall_mem_walkAll_cons

theorem AllOverrides.children {ss : List Setting} (h : AllOverrides P ss) {s : Setting}
    (hs : s ∈ walkAll ss) :
  AllOverrides P s.children
  := fun t ht => h t (walkAll_children_subset hs ht)

theorem allOverrides_clearAll (hnull : ∀ d, P d .null) (ss : List Setting) :
  AllOverrides P (clearAll ss)
  := by
  intro s hs
  rw [walkAll_clearAll, List.mem_map] at hs
  obtain ⟨t, -, rfl⟩ := hs
  rw [override_clear]
  apply hnull

theorem override_of_hasOverride {s : Setting} (h : s.hasOverride = false) :
  s.override = .null
  := by
  rw [hasOverride, Bool.not_eq_false'] at h
  cases hv : s.override with
  | null => rfl
  | _ =>
      rw [hv] at h
      cases h

/-- A tree in which nothing is overridden is one without overrides. -/
theorem clearAll_eq_self {ss : List Setting} (h : ∀ s ∈ walkAll ss, s.hasOverride = false) :
  clearAll ss = ss
  := by
  induction ss using forestInd with
  | nil => rfl
  | cons s ss ihchildren ihrest =>
      obtain ⟨hs, hchildren, hrest⟩ := forall_mem_walkAll_cons.mp h
      rw [clearAll_cons, ihrest hrest, ihchildren hchildren, ← override_of_hasOverride hs]
      cases s
      rfl

/-! ### Setting values -/

/-- What a set leaves of a setting: the setting as it was, an object whose children are cleared or
set, or the setting with an accepted value. -/
theorem settings_setValue (judge : Judge) (value : Value) (s : Setting) :
  (setValue judge value s).settings = s
    ∨ (setValue judge value s).settings = .node s.declaration s.override (clearAll s.children)
    ∨ (∃ entries, (setValue judge value s).settings =
        .node s.declaration s.override (setChildren judge entries s.children).settings)
    ∨ s.type ≠ .object ∧ (judge s.declaration value).value = .ok ()
      ∧ (setValue judge value s).settings = .node s.declaration value s.children
  := by
  obtain ⟨d, v, cs⟩ := s
  by_cases hobject : d.type = .object
  · cases value with
    | null =>
        right
        left
        simp [setValue, hobject, declaration, override, children]
    | map entries =>
        right
        right
        left
        use entries
        simp [setValue, hobject, declaration, override, children]
    | _ =>
        left
        simp [setValue, hobject]
  · simp only [setValue, if_neg hobject]
    split
    · rename_i hok
      right
      right
      right
      exact ⟨hobject, hok, rfl⟩
    · left
      rfl

/-- A set on a setting, once its effect on the children is known. -/
theorem clear_setValue_of_children {s : Setting} (value : Value)
    (h : ∀ entries, clearAll (setChildren judge entries s.children).settings
      = clearAll s.children) :
  clear (setValue judge value s).settings = clear s
  := by
  rw [clear_eq s]
  rcases settings_setValue judge value s with heq | heq | ⟨entries, heq⟩ | ⟨-, -, heq⟩
  · rw [heq, clear_eq]
  · rw [heq, clear, clearAll_clearAll]
  · rw [heq, clear, h entries]
  · rw [heq, clear]

/-- A set by a mapping changes overrides only. -/
theorem clearAll_setChildren (judge : Judge) (entries : List (Value × Value))
    (ss : List Setting) :
  clearAll (setChildren judge entries ss).settings = clearAll ss
  := by
  induction ss using forestInd generalizing entries with
  | nil => rfl
  | cons s ss ihchildren ihrest =>
      rw [setChildren]
      cases Value.field? entries s.id with
      | none => simp only [clearAll, ihrest]
      | some value =>
          have hs := clear_setValue_of_children value ihchildren
          simp only
          split
          · simp only [clearAll, hs]
          · simp only [clearAll, hs, ihrest]

/-- A set changes overrides only. -/
theorem clear_setValue (judge : Judge) (value : Value) (s : Setting) :
  clear (setValue judge value s).settings = clear s
  := clear_setValue_of_children value fun entries => clearAll_setChildren judge entries s.children

/-- A set on a setting keeps a property of overrides, once it is known to keep that of the
children. -/
theorem allOverrides_setValue_of_children (hnull : ∀ d, P d .null)
    (hjudge : ∀ d value, d.type ≠ .object → (judge d value).value = .ok () → P d value)
    {s : Setting} (value : Value) (hs : P s.declaration s.override)
    (hchildren : AllOverrides P s.children)
    (h : ∀ entries, AllOverrides P (setChildren judge entries s.children).settings) :
  P (setValue judge value s).settings.declaration (setValue judge value s).settings.override
    ∧ AllOverrides P (setValue judge value s).settings.children
  := by
  rcases settings_setValue judge value s with heq | heq | ⟨entries, heq⟩ | ⟨hobject, hok, heq⟩
  · rw [heq]
    exact ⟨hs, hchildren⟩
  · rw [heq]
    exact ⟨hs, allOverrides_clearAll hnull s.children⟩
  · rw [heq]
    exact ⟨hs, h entries⟩
  · rw [heq]
    exact ⟨hjudge s.declaration value hobject hok, hchildren⟩

/-- A set by a mapping keeps a property of overrides that every accepted value has. -/
theorem AllOverrides.setChildren (hnull : ∀ d, P d .null)
    (hjudge : ∀ d value, d.type ≠ .object → (judge d value).value = .ok () → P d value)
    (entries : List (Value × Value)) {ss : List Setting} (h : AllOverrides P ss) :
  AllOverrides P (setChildren judge entries ss).settings
  := by
  induction ss using forestInd generalizing entries with
  | nil => exact h
  | cons s ss ihchildren ihrest =>
      obtain ⟨hs, hchildren, hrest⟩ := allOverrides_cons_iff.mp h
      rw [Setting.setChildren]
      cases Value.field? entries s.id with
      | none => exact allOverrides_cons_iff.mpr ⟨hs, hchildren, ihrest entries hrest⟩
      | some value =>
          have hset := allOverrides_setValue_of_children hnull hjudge value hs hchildren
            fun entries => ihchildren entries hchildren
          simp only
          split
          · exact allOverrides_cons_iff.mpr ⟨hset.1, hset.2, hrest⟩
          · exact allOverrides_cons_iff.mpr ⟨hset.1, hset.2, ihrest entries hrest⟩

/-- A set keeps a property of overrides that every accepted value has. -/
theorem AllOverrides.setValue (hnull : ∀ d, P d .null)
    (hjudge : ∀ d value, d.type ≠ .object → (judge d value).value = .ok () → P d value)
    (value : Value) {s : Setting} (h : AllOverrides P [s]) :
  AllOverrides P [(setValue judge value s).settings]
  := by
  obtain ⟨hs, hchildren, hnil⟩ := allOverrides_cons_iff.mp h
  have hset := allOverrides_setValue_of_children hnull hjudge value hs hchildren
    fun entries => hchildren.setChildren hnull hjudge entries
  exact allOverrides_cons_iff.mpr ⟨hset.1, hset.2, hnil⟩

/-! ### Changes at a place -/

theorem clearAll_set {ss : List Setting} {i : Nat} {s t : Setting} (hs : ss[i]? = some s)
    (ht : clear t = clear s) :
  clearAll (ss.set i t) = clearAll ss
  := by
  rw [clearAll_eq_map, clearAll_eq_map, List.map_set, ht]
  obtain ⟨hi, rfl⟩ := List.getElem?_eq_some_iff.mp hs
  rw [← List.getElem_map clear (h := by simpa using hi), List.set_getElem_self]

/-- A change of the overrides at a place changes overrides only. -/
theorem clearAll_updateAt {ss : List Setting} {change : Setting → Setting} {spot : Spot}
    (h : ∀ s, at? ss spot = some s → clear (change s) = clear s) :
  clearAll (updateAt ss change spot) = clearAll ss
  := by
  induction spot generalizing ss with
  | nil => rfl
  | cons i rest ih =>
      rw [updateAt]
      cases hs : ss[i]? with
      | none => rfl
      | some s =>
          cases rest with
          | nil =>
              apply clearAll_set hs
              apply h
              rw [at?_singleton, hs]
          | cons j rest =>
              apply clearAll_set hs
              rw [clear_eq, clear_eq s]
              congr 1
              apply ih
              intro t ht
              apply h
              rw [at?_cons_cons, hs, Option.bind_some, ht]

theorem AllOverrides.set {ss : List Setting} (h : AllOverrides P ss) {i : Nat} {t : Setting}
    (ht : AllOverrides P [t]) :
  AllOverrides P (ss.set i t)
  := by
  induction ss generalizing i with
  | nil => exact h
  | cons s ss ih =>
      obtain ⟨hs, hchildren, hrest⟩ := allOverrides_cons_iff.mp h
      obtain ⟨ht', htchildren, -⟩ := allOverrides_cons_iff.mp ht
      cases i with
      | zero => exact allOverrides_cons_iff.mpr ⟨ht', htchildren, hrest⟩
      | succ i => exact allOverrides_cons_iff.mpr ⟨hs, hchildren, ih hrest⟩

/-- A change at a place keeps a property of overrides if it keeps that of what stands there. -/
theorem AllOverrides.updateAt {ss : List Setting} (h : AllOverrides P ss)
    {change : Setting → Setting} {spot : Spot}
    (hchange : ∀ s, at? ss spot = some s → AllOverrides P [s] → AllOverrides P [change s]) :
  AllOverrides P (updateAt ss change spot)
  := by
  induction spot generalizing ss with
  | nil => exact h
  | cons i rest ih =>
      rw [Setting.updateAt]
      cases hs : ss[i]? with
      | none => exact h
      | some s =>
          have hmem := subset_walkAll ss (List.mem_of_getElem? hs)
          have hself : AllOverrides P [s] :=
            allOverrides_cons_iff.mpr ⟨h s hmem, h.children hmem, allOverrides_nil P⟩
          cases rest with
          | nil =>
              apply h.set
              apply hchange s _ hself
              rw [at?_singleton, hs]
          | cons j rest =>
              apply h.set
              refine allOverrides_cons_iff.mpr ⟨h s hmem, ih (h.children hmem) ?_,
                allOverrides_nil P⟩
              intro t ht
              apply hchange
              rw [at?_cons_cons, hs, Option.bind_some, ht]

end DeploymentRecipes.Setting
