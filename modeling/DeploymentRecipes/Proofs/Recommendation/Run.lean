import DeploymentRecipes.Proofs.Setting.Address
import DeploymentRecipes.Proofs.Setting.Override
import DeploymentRecipes.Proofs.Token.Table
import DeploymentRecipes.Recommendation

/-!
# Runs of changes

A recommendation is configured by a run of changes: values are set, whatever judges them, and
cleared, substitutions are entered, and the values of an earlier deployment are applied.  A run
changes nothing but overrides and substitutions.  What holds of every override at the beginning, of
null, and of every value that is accepted, holds of every override at the end; and the table of
tokens at the end extends the one at the beginning.
-/

namespace DeploymentRecipes.Recommendation

open Setting

/-- A change of a recommendation. -/
inductive Change where
  | set (judge : Judge) (path : Option String) (value : Value)
  | clear (spot : Spot)
  | addToken (token substitution : String)
  | applyPrevious (previous : List (Value × Value))

/-- The recommendation after a change. A set that is refused midway keeps what was set before; a
path that leads nowhere and an earlier deployment that does not fit change nothing. -/
def change (r : Recommendation) : Change → Recommendation
  | .set judge path value =>
    match r.locate path with
    | .ok (spot, s) => (r.set judge spot s value).settings
    | .error _ => r
  | .clear spot => r.clear spot
  | .addToken token substitution => r.addToken token (.str substitution)
  | .applyPrevious previous =>
    match (r.applyPrevious previous).value with
    | .ok r' => r'
    | .error _ => r

/-- The recommendation after a run of changes. -/
def run (r : Recommendation) (changes : List Change) : Recommendation := changes.foldl change r

theorem run_cons (r : Recommendation) (c : Change) (changes : List Change) :
  r.run (c :: changes) = (r.change c).run changes
  := rfl

/-! ### What a change does -/

@[simp]
theorem items_withItems (r : Recommendation) (ss : List Setting) :
  (r.withItems ss).items = ss
  := by
  apply List.take_append_drop

theorem at?_of_locate_ok {r : Recommendation} {path : Option String} {spot : Spot} {s : Setting}
    (h : r.locate path = .ok (spot, s)) :
  at? r.items spot = some s
  := by
  rw [locate] at h
  split at h
  · rename_i hlocate
    rw [Except.ok.inj h] at hlocate
    apply at?_of_locate hlocate
  · cases h

/-- What a change does: nothing but a change at a place of the items, a new substitution, or a set of
the recipe's settings by a mapping. -/
theorem change_cases (r : Recommendation) (c : Change) :
  r.change c = r
    ∨ (∃ spot f, r.change c = r.updateAt spot f ∧ ∀ s, at? r.items spot = some s →
        f s = Setting.clear s ∨ ∃ judge path value, c = .set judge path value
          ∧ f s = (setValue judge value s).settings)
    ∨ (∃ token text, r.change c = r.addToken token (.str text))
    ∨ (∃ previous, c = .applyPrevious previous ∧ r.change c = { r with
        recipe := { r.recipe with
          settings := (setChildren unjudged previous r.recipe.settings).settings }
        isExisting := true })
  := by
  cases c with
  | set judge path value =>
      rw [change]
      cases hlocate : r.locate path with
      | error e => exact Or.inl rfl
      | ok p =>
          obtain ⟨spot, s⟩ := p
          right
          left
          use spot, fun _ => (setValue judge value s).settings, rfl
          intro t ht
          right
          use judge, path, value, rfl
          rw [at?_of_locate_ok hlocate, Option.some.injEq] at ht
          rw [ht]
  | clear spot =>
      right
      left
      use spot, Setting.clear, rfl
      intro s _
      left
      rfl
  | addToken token text => exact Or.inr (Or.inr (Or.inl ⟨token, text, rfl⟩))
  | applyPrevious previous =>
      cases hfailure : (setChildren unjudged previous r.recipe.settings).failure with
      | some e =>
          left
          simp [change, Recommendation.applyPrevious, hfailure]
      | none =>
          right
          right
          right
          use previous, rfl
          simp [change, Recommendation.applyPrevious, hfailure]

/-! ### What a run keeps -/

theorem clearAll_append (ss ts : List Setting) :
  clearAll (ss ++ ts) = clearAll ss ++ clearAll ts
  := by
  simp [clearAll_eq_map]

/-- Items that differ from the present ones in their overrides only are handed out to the recipe and
to the bundle as before. -/
theorem clearAll_withItems {r : Recommendation} {ss : List Setting}
    (h : clearAll ss = clearAll r.items) :
  clearAll (r.withItems ss).recipe.settings = clearAll r.recipe.settings
    ∧ clearAll (r.withItems ss).bundle = clearAll r.bundle
  := by
  have hlength : (clearAll r.recipe.settings).length = r.recipe.settings.length := by
    rw [clearAll_eq_map, List.length_map]
  rw [withItems, clearAll_eq_map, clearAll_eq_map (ss.drop _), List.map_take, List.map_drop,
    ← clearAll_eq_map, h, items, clearAll_append, ← hlength, List.take_left, List.drop_left]
  exact ⟨rfl, rfl⟩

theorem clearAll_change (r : Recommendation) (c : Change) :
  clearAll (r.change c).recipe.settings = clearAll r.recipe.settings
    ∧ clearAll (r.change c).bundle = clearAll r.bundle
  := by
  rcases change_cases r c with heq | ⟨spot, f, heq, hf⟩ | ⟨token, text, heq⟩ | ⟨previous, -, heq⟩
  · rw [heq]
    exact ⟨rfl, rfl⟩
  · rw [heq, Recommendation.updateAt]
    apply clearAll_withItems
    apply clearAll_updateAt
    intro s hs
    rcases hf s hs with hfs | ⟨judge, path, value, -, hfs⟩
    · rw [hfs, clear_clear]
    · rw [hfs, clear_setValue]
  · rw [heq]
    exact ⟨rfl, rfl⟩
  · rw [heq]
    exact ⟨clearAll_setChildren _ _ _, rfl⟩

/-- A run changes nothing of the recipe's and the bundle's settings but overrides. -/
theorem clearAll_run (r : Recommendation) (changes : List Change) :
  clearAll (r.run changes).recipe.settings = clearAll r.recipe.settings
    ∧ clearAll (r.run changes).bundle = clearAll r.bundle
  := by
  induction changes generalizing r with
  | nil => exact ⟨rfl, rfl⟩
  | cons c changes ih =>
      obtain ⟨hrecipe, hbundle⟩ := clearAll_change r c
      rw [run_cons, ← hrecipe, ← hbundle]
      apply ih

theorem clearAll_items_run (r : Recommendation) (changes : List Change) :
  clearAll (r.run changes).items = clearAll r.items
  := by
  obtain ⟨hrecipe, hbundle⟩ := clearAll_run r changes
  rw [items, clearAll_append, hrecipe, hbundle, ← clearAll_append, items]

/-- How a change may set values: every accepted value has a property. Values of an earlier
deployment are always accepted. -/
def Change.Accepts (P : Declaration → Value → Prop) : Change → Prop
  | .set judge _ _ =>
    ∀ d value, d.type ≠ .object → (judge d value).value = .ok () → P d value
  | .applyPrevious _ => ∀ d value, d.type ≠ .object → P d value
  | _ => True

theorem allOverrides_append {P : Declaration → Value → Prop} {ss ts : List Setting} :
  AllOverrides P (ss ++ ts) ↔ AllOverrides P ss ∧ AllOverrides P ts
  := by
  induction ss with
  | nil => simp [allOverrides_nil]
  | cons s ss ih => rw [List.cons_append, allOverrides_cons_iff, allOverrides_cons_iff, ih]; tauto

theorem allOverrides_change {P : Declaration → Value → Prop} (hnull : ∀ d, P d .null)
    {r : Recommendation} (hr : AllOverrides P r.items) {c : Change} (hc : c.Accepts P) :
  AllOverrides P (r.change c).items
  := by
  rcases change_cases r c with heq | ⟨spot, f, heq, hf⟩ | ⟨token, text, heq⟩ | ⟨previous, rfl, heq⟩
  · rwa [heq]
  · rw [heq, Recommendation.updateAt, items_withItems]
    apply hr.updateAt
    intro s hs hself
    rcases hf s hs with hfs | ⟨judge, path, value, rfl, hfs⟩
    · rw [hfs]
      apply allOverrides_clearAll hnull [s]
    · rw [hfs]
      apply hself.setValue hnull hc
  · rwa [heq]
  · obtain ⟨hrecipe, hbundle⟩ := allOverrides_append.mp hr
    rw [heq, items, allOverrides_append]
    constructor
    · apply hrecipe.setChildren hnull
      intro d value hobject _
      apply hc d value hobject
    · exact hbundle

/-- A run keeps a property that null and every accepted value have. -/
theorem allOverrides_run {P : Declaration → Value → Prop} (hnull : ∀ d, P d .null)
    {r : Recommendation} (hr : AllOverrides P r.items) {changes : List Change}
    (hchanges : ∀ c ∈ changes, c.Accepts P) :
  AllOverrides P (r.run changes).items
  := by
  induction changes generalizing r with
  | nil => exact hr
  | cons c changes ih =>
      rw [List.forall_mem_cons] at hchanges
      rw [run_cons]
      apply ih (allOverrides_change hnull hr hchanges.1) hchanges.2

theorem extends_tokens_change {base : TokenTable} {r : Recommendation}
    (hr : base.Extends r.tokens) (c : Change) :
  base.Extends (r.change c).tokens
  := by
  rcases change_cases r c with heq | ⟨spot, f, heq, -⟩ | ⟨token, text, heq⟩ | ⟨previous, -, heq⟩
  · rwa [heq]
  · rwa [heq]
  · rw [heq]
    apply hr.insert
  · rwa [heq]

/-- The table of tokens after a run extends what the table before extends. -/
theorem extends_tokens_run {base : TokenTable} {r : Recommendation} (hr : base.Extends r.tokens)
    (changes : List Change) :
  base.Extends (r.run changes).tokens
  := by
  induction changes generalizing r with
  | nil => exact hr
  | cons c changes ih =>
      rw [run_cons]
      apply ih (extends_tokens_change hr c)

/-! ### The beginning of a run -/

/-- The tokens of defaults are entered into a table in order. -/
theorem extends_collectTokens {base table : TokenTable} (h : base.Extends table)
    (ss : List Setting) :
  base.Extends (collectTokens ss table)
  := by
  rw [collectTokens]
  generalize walkAll ss = walked
  induction walked generalizing table with
  | nil => exact h
  | cons s walked ih =>
      rw [List.foldl_cons]
      apply ih (Token.extends_collect h _)

/-- The tokens of a new recommendation are those of its defaults, and then the given ones. -/
theorem extends_tokens_ofRecipe (recipe : Recipe) (bundle : List Setting) (projectPath : String)
    (priority : Int) {substitutions : TokenTable} (htext : substitutions.IsText) :
  (collectTokens (recipe.settings ++ bundle) []).Extends
    (ofRecipe recipe bundle projectPath priority substitutions).tokens
  := by
  have hcollected := extends_collectTokens TokenTable.extends_nil (recipe.settings ++ bundle)
  exact hcollected.refl.insertAll htext

end DeploymentRecipes.Recommendation
