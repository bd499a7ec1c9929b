import DeploymentRecipes.Proofs.Catalog.PlainFile
import DeploymentRecipes.Proofs.Catalog.Session
import DeploymentRecipes.Proofs.Recommendation.Evaluation

/-!
# References to settings

Settings are named by the rules of other settings and by a recipe's validators.  A strict catalog only
publishes a recipe if its rules name settings that it has, so evaluations never miss a setting.  What
its validators name is not looked up before they are run, and they do not give a verdict if it is
missing.
-/

namespace DeploymentRecipes

/-! ### What validators look at -/

namespace Validator

variable {scene : Setting.Scene} {v : Validator}

/-- The settings whose values a validator compares. -/
def targets : Validator → List String
  | .minMax _ minId maxId => [minId, maxId]
  | .fargateTaskSize _ cpuId memoryId _ => [cpuId, memoryId]
  | _ => []

theorem comparable?_ne_resolve (value : Value) (e : Setting.ResolveError) :
  comparable? value ≠ .error (.resolve e)
  := by
  rw [comparable?]
  split <;> simp

theorem atMost_ne_resolve (least greatest : Value) (e : Setting.ResolveError) :
  atMost least greatest ≠ .error (.resolve e)
  := by
  intro h
  rcases eq_error_of_bind h with hleast | ⟨x, -, h⟩
  · apply comparable?_ne_resolve _ _ hleast
  · cases x with
    | none => cases h
    | some x =>
        rcases eq_error_of_bind h with hgreatest | ⟨y, -, h⟩
        · apply comparable?_ne_resolve _ _ hgreatest
        · cases y <;> cases h

theorem sizeText_ne_resolve (value : Value) (e : Setting.ResolveError) :
  sizeText value ≠ .error (.resolve e)
  := by
  intro h
  rcases eq_error_of_bind h with htext | ⟨text, -, h⟩
  · cases htoText : value.toText <;> simp [htoText, Except.mapError] at htext
  · dsimp only at h
    split at h
    · cases h
    · split at h <;> cases h

theorem size?_ne_resolve (value : Value) (e : Setting.ResolveError) :
  size? value ≠ .error (.resolve e)
  := by
  rw [size?.eq_def]
  split
  · simp
  · have hne := sizeText_ne_resolve value e
    cases htext : sizeText value with
    | ok text => simp [Except.map]
    | error cause =>
        rw [htext] at hne
        simpa [Except.map] using hne

/-- Only the value of a setting that it looks at can keep a validator from a verdict for want of a
setting. -/
theorem exists_error_of_checkScene {e : Setting.ResolveError}
    (h : v.checkScene scene = .error (.resolve e)) :
  ∃ id ∈ v.targets, settingValue scene id = .error (.resolve e)
  := by
  cases v with
  | minMax message minId maxId =>
      rcases eq_error_of_bind h with hleast | ⟨least, -, h⟩
      · exact ⟨minId, by simp [targets], hleast⟩
      · rcases eq_error_of_bind h with hgreatest | ⟨greatest, -, h⟩
        · exact ⟨maxId, by simp [targets], hgreatest⟩
        · split at h
          · cases h
          · rcases eq_error_of_bind h with hcompare | ⟨b, -, h⟩
            · cases atMost_ne_resolve _ _ _ hcompare
            · cases h
  | fargateTaskSize message cpuId memoryId cpuMessage =>
      rcases eq_error_of_bind h with hcpu | ⟨cpu, -, h⟩
      · exact ⟨cpuId, by simp [targets], hcpu⟩
      · rcases eq_error_of_bind h with hsize | ⟨cpuSize, -, h⟩
        · cases size?_ne_resolve _ _ hsize
        · rcases eq_error_of_bind h with hmemory | ⟨memory, -, h⟩
          · exact ⟨memoryId, by simp [targets], hmemory⟩
          · rcases eq_error_of_bind h with hsize | ⟨memorySize, -, h⟩
            · cases size?_ne_resolve _ _ hsize
            · cases cpuSize <;> cases memorySize <;> cases h
  | _ => cases h

/-- A validator that gives a verdict has seen the values of all settings that it looks at. -/
theorem exists_value_of_checkScene {verdict : Verdict} (h : v.checkScene scene = .ok verdict) :
  ∀ id ∈ v.targets, ∃ value, settingValue scene id = .ok value
  := by
  cases v with
  | minMax message minId maxId =>
      obtain ⟨least, hleast, h⟩ := exists_of_bind_eq_ok h
      obtain ⟨greatest, hgreatest, -⟩ := exists_of_bind_eq_ok h
      simp [targets, hleast, hgreatest]
  | fargateTaskSize message cpuId memoryId cpuMessage =>
      obtain ⟨cpu, hcpu, h⟩ := exists_of_bind_eq_ok h
      obtain ⟨cpuSize, -, h⟩ := exists_of_bind_eq_ok h
      obtain ⟨memory, hmemory, -⟩ := exists_of_bind_eq_ok h
      simp [targets, hcpu, hmemory]
  | _ => simp [targets]

/-- A setting is missed if it is not there, or if its value misses one. -/
theorem eq_notFound_of_settingValue {id : String} {path : Option String}
    (h : settingValue scene id = .error (.resolve (.notFound path))) :
  (Setting.find scene.settings (some id) = none ∧ path = some id)
    ∨ ∃ s, Setting.find scene.settings (some id) = some s ∧ scene.value s = .error (.notFound path)
  := by
  rw [settingValue] at h
  cases hfind : Setting.find scene.settings (some id) with
  | none =>
      rw [hfind] at h
      obtain ⟨⟩ := h
      exact Or.inl ⟨rfl, rfl⟩
  | some s =>
      simp only [hfind] at h
      obtain ⟨e, hvalue, he⟩ := exists_of_mapError_eq_error h
      obtain rfl := RecipeCheckError.resolve.inj he
      exact Or.inr ⟨s, rfl, hvalue⟩

end Validator

namespace Recommendation

open Setting

variable {recipe : Recipe} {r : Recommendation} {scene : Scene} {vs : List Validator}

/-! ### What a validation comes to -/

theorem exists_error_of_failuresOf {e : RecipeCheckError} (h : failuresOf scene vs = .error e) :
  ∃ v ∈ vs, v.checkScene scene = .error e
  := by
  induction vs with
  | nil => cases h
  | cons v vs ih =>
      rw [failuresOf] at h
      rcases eq_error_of_bind h with hv | ⟨verdict, -, h⟩
      · exact ⟨v, List.mem_cons_self, hv⟩
      · rcases eq_error_of_bind h with hvs | ⟨rest, -, h⟩
        · obtain ⟨w, hw, herror⟩ := ih hvs
          exact ⟨w, List.mem_cons_of_mem v hw, herror⟩
        · cases verdict <;> cases h

theorem exists_verdict_of_failuresOf {failures : List String}
    (h : failuresOf scene vs = .ok failures) :
  ∀ v ∈ vs, ∃ verdict, v.checkScene scene = .ok verdict
  := by
  induction vs generalizing failures with
  | nil => simp
  | cons v vs ih =>
      rw [failuresOf] at h
      obtain ⟨verdict, hverdict, h⟩ := exists_of_bind_eq_ok h
      obtain ⟨rest, hrest, -⟩ := exists_of_bind_eq_ok h
      rw [List.forall_mem_cons]
      exact ⟨⟨verdict, hverdict⟩, ih hrest⟩

theorem validators_change (r : Recommendation) (c : Change) :
  (r.change c).recipe.validators = r.recipe.validators
  := by
  rcases change_cases r c with heq | ⟨spot, f, heq, -⟩ | ⟨token, text, heq⟩ | ⟨previous, -, heq⟩ <;>
    rw [heq] <;> rfl

/-- A run leaves the recipe's validators as they are. -/
theorem validators_run (r : Recommendation) (changes : List Change) :
  (r.run changes).recipe.validators = r.recipe.validators
  := by
  induction changes generalizing r with
  | nil => rfl
  | cons c changes ih => rw [run_cons, ih, validators_change]

theorem IsStateOf.validators {bundle : List Setting} (hr : IsStateOf recipe bundle r) :
  r.recipe.validators = recipe.validators
  := by
  obtain ⟨projectPath, priority, texts, changes, rfl⟩ := hr
  rw [validators_run]
  rfl

/-! ### References in published recipes -/

theorem find_items_eq_none_iff (hr : IsStateOf recipe [] r) (path : Option String) :
  find r.items path = none ↔ find recipe.settings path = none
  := by
  have hclear := hr.clearAll_items
  rw [List.append_nil] at hclear
  have hfind := find_clearAll r.items path
  rw [hclear, find_clearAll] at hfind
  constructor
  · intro hnone
    rwa [hnone, Option.map_none, Option.map_eq_none_iff] at hfind
  · intro hnone
    rwa [hnone, Option.map_none, eq_comm, Option.map_eq_none_iff] at hfind

/-- Where the rules of a recipe name settings that it has, no evaluation misses a setting. -/
theorem ne_notFound_of_knownTargets (hr : IsStateOf recipe [] r)
    (hknown : ∀ s ∈ walkAll recipe.settings, Recipe.KnownTargets recipe.settings s.dependsOn)
    {s : Setting} (hs : s ∈ walkAll r.items) (path : Option String) :
  r.value s ≠ .error (.notFound path) ∧ r.isVisible s ≠ .error (.notFound path)
  := by
  have hnone : ∀ e, ¬ IsUnknownTarget r.items e := by
    intro e he
    have hrecipe := he.of_clearAll_eq hr.clearAll_items
    rw [List.append_nil] at hrecipe
    apply not_isUnknownTarget hknown e hrecipe
  constructor
  · intro h
    rcases error_of_value hr.extends_tokens.text hs h with hendless | hunknown
    · cases hendless
    · apply hnone _ hunknown
  · intro h
    rcases error_of_visibleWithin hr.extends_tokens.text hs h with hendless | hunknown
    · cases hendless
    · apply hnone _ hunknown

/-- What can be missing in a recipe of a strict catalog, in every state of a recommendation without a
bundle. No value and no visibility misses a setting. A validation misses one only if a validator of the
recipe names it and the recipe does not have it; and it does not come to failures, or to none, as long
as there is such a name. -/
theorem references_of_published {registries : Registries} {place : Place} {request : CatalogRequest}
    {config : Config} {steps : List Catalog.Step}
    (h : recipe ∈ ((Catalog.Session.ofRequest place request config).run registries
      steps).catalog.recipes)
    (hstrict : (request.options place.cwdPath config).strict = true)
    (hr : IsStateOf recipe [] r) :
  (∀ s ∈ walkAll r.items, ∀ path,
      r.value s ≠ .error (.notFound path) ∧ r.isVisible s ≠ .error (.notFound path))
    ∧ ∃ vs, (registries.recipes.buildAll recipe.validators).value = .ok vs
      ∧ (∀ path, (r.validate registries.recipes).value = .error (.check (.resolve (.notFound path))) →
        ∃ v ∈ vs, ∃ id ∈ v.targets, path = some id ∧ find recipe.settings (some id) = none)
      ∧ ((∃ v ∈ vs, ∃ id ∈ v.targets, find recipe.settings (some id) = none) →
        ∀ failures, (r.validate registries.recipes).value ≠ .ok failures)
  := by
  have hworkable := Catalog.Session.workable_of_mem_recipes h hstrict
  have hevaluations : ∀ s ∈ walkAll r.items, ∀ path,
      r.value s ≠ .error (.notFound path) ∧ r.isVisible s ≠ .error (.notFound path) :=
    fun s hs path => ne_notFound_of_knownTargets hr hworkable.targets hs path
  obtain ⟨vs, hvs⟩ := Registry.buildAll_eq_ok_iff.mpr hworkable.recipe
  have hvalidate : (r.validate registries.recipes).value = (failuresOf r.scene vs).mapError .check := by
    rw [validate, hr.validators]
    simp only [hvs]
  refine ⟨hevaluations, vs, hvs, ?_, ?_⟩
  · intro path herror
    rw [hvalidate] at herror
    obtain ⟨e, hfailures, he⟩ := exists_of_mapError_eq_error herror
    obtain rfl := ValidationError.check.inj he
    obtain ⟨v, hv, hcheck⟩ := exists_error_of_failuresOf hfailures
    obtain ⟨id, hid, hvalue⟩ := Validator.exists_error_of_checkScene hcheck
    refine ⟨v, hv, id, hid, ?_⟩
    rcases Validator.eq_notFound_of_settingValue hvalue with ⟨hnone, hpath⟩ | ⟨s, hs, hvalue⟩
    · exact ⟨hpath, (find_items_eq_none_iff hr _).mp hnone⟩
    · cases (hevaluations s (mem_walkAll_of_find hs) path).1 hvalue
  · rintro ⟨v, hv, id, hid, hnone⟩ failures hok
    rw [hvalidate] at hok
    obtain ⟨verdict, hverdict⟩ := exists_verdict_of_failuresOf (eq_ok_of_mapError hok) v hv
    obtain ⟨value, hvalue⟩ := Validator.exists_value_of_checkScene hverdict id hid
    have hmissing := (find_items_eq_none_iff hr _).mpr hnone
    rw [Validator.settingValue, scene, hmissing] at hvalue
    cases hvalue

/-! ### A recipe with a validator that names no setting of it -/

open Catalog Session

/-- A recipe whose only validator compares its setting with one that it does not have. -/
def limitsRecipe : Recipe :=
  bareRecipe "limits" [bareSetting "a" .string [] []]
    [⟨.minMax, .data (.map [(.str "minValueOptionSettingsId", .str "a"),
      (.str "maxValueOptionSettingsId", .str "b")])⟩]

def limitsDocument : Value :=
  .ofFields [("id", .str "limits"), ("optionSettings", .list [.ofFields [("id", .str "a")]]),
    ("validators", .list [.ofFields [("kind", .str "MinMaxConstraint"),
      ("configuration", .ofFields [("minValueOptionSettingsId", .str "a"),
        ("maxValueOptionSettingsId", .str "b")])]])]

def limitsFile : String × Value := ("limits.json", limitsDocument)

theorem files_limits :
  files (folder [limitsFile]) (folderOptions true [limitsFile]) = ["/recipes/limits.json"]
  := by
  have hscan : (folderOptions true [limitsFile]).paths.flatMap
      ((folder [limitsFile]).recipeFilesBelow (folderOptions true [limitsFile]).recursive)
        = ["/recipes/limits.json"] := by decide
  rw [files, Place.recipeFiles, hscan, List.mergeSort_singleton]

theorem workable_limits :
  limitsRecipe.Workable .delivered
  := by
  have hwalk : walkAll limitsRecipe.settings = [bareSetting "a" .string [] []] := by
    simp [walkAll, walk, limitsRecipe, bareRecipe, bareSetting]
  constructor
  · rw [hwalk, List.forall_mem_singleton]
    exact List.forall_mem_nil _
  · rw [hwalk, List.forall_mem_singleton]
    exact List.forall_mem_nil _
  · rw [Registry.BuildsAll, limitsRecipe, bareRecipe, List.forall_mem_singleton]
    exact ⟨_, rfl⟩

/-- A strict catalog shows the recipe. -/
theorem mem_recipes_limits :
  limitsRecipe ∈ ((ofRequest (folder [limitsFile]) (folderRequest true [limitsFile]) emptyConfig).run
    .delivered [.refresh false]).catalog.recipes
  := by
  have hcycles : (dependencyGraph limitsRecipe.settings).cycles = [] := by
    cbv
  have hsound : limitsRecipe.Sound .delivered true :=
    ⟨by decide, (Graph.cycles_eq_nil_iff _).mp hcycles, fun _ => workable_limits⟩
  have hwritable : isWritable 4 limitsDocument = true := by decide
  exact mem_recipes_of_onlyFile files_limits rfl (by decide) hwritable rfl hsound

/-- The recommendation with `a` set. -/
def limitsSet : Recommendation :=
  (ofRecipe limitsRecipe [] "." 0 (TokenTable.ofTexts [])).run [.set unjudged (some "a") (.str "7")]

/-- The setting has a value and no value misses a setting, but a validation does not come to failures,
or to none. -/
theorem references_of_published_limits :
  limitsRecipe ∈ ((ofRequest (folder [limitsFile]) (folderRequest true [limitsFile]) emptyConfig).run
      .delivered [.refresh false]).catalog.recipes
    ∧ ((folderRequest true [limitsFile]).options (folder [limitsFile]).cwdPath emptyConfig).strict
      = true
    ∧ IsStateOf limitsRecipe [] limitsSet
    ∧ limitsSet.items = [.node (bareSetting "a" .string [] []).declaration (.str "7") []]
    ∧ (∀ s ∈ walkAll limitsSet.items, ∀ path, limitsSet.value s ≠ .error (.notFound path))
    ∧ ∀ failures, (limitsSet.validate Registries.delivered.recipes).value ≠ .ok failures
  := by
  have hstate : IsStateOf limitsRecipe [] limitsSet := ⟨".", 0, [], _, rfl⟩
  have hmissing : find limitsRecipe.settings (some "b") = none := by decide
  obtain ⟨hvalues, vs, hvs, -, hfailures⟩ := references_of_published mem_recipes_limits rfl hstate
  obtain rfl : [.minMax ValidatorClass.minMax.defaultMessage "a" "b"] = vs := Except.ok.inj hvs
  refine ⟨mem_recipes_limits, rfl, hstate, rfl, fun s hs path => (hvalues s hs path).1, ?_⟩
  apply hfailures ⟨_, List.mem_cons_self, "b", by simp [Validator.targets], hmissing⟩

/-- The recipe is shown by a strict catalog, but a validation misses a setting. -/
theorem notFound_validate_limits :
  limitsRecipe ∈ ((ofRequest (folder [limitsFile]) (folderRequest true [limitsFile]) emptyConfig).run
      .delivered [.refresh false]).catalog.recipes
    ∧ ((folderRequest true [limitsFile]).options (folder [limitsFile]).cwdPath emptyConfig).strict
      = true
    ∧ ((ofRecipe limitsRecipe [] "." 0 (TokenTable.ofTexts [])).validate
      Registries.delivered.recipes).value = .error (.check (.resolve (.notFound (some "b"))))
  := by
  exact ⟨mem_recipes_limits, rfl, rfl⟩

end Recommendation
end DeploymentRecipes
