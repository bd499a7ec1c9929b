import DeploymentRecipes.Dependency.OfSettings
import DeploymentRecipes.Proofs.Result
import DeploymentRecipes.Proofs.Setting.Tree
import DeploymentRecipes.Recipe.Review

/-!
# What a review finds

There are repeated paths just when the ids of some siblings do not differ, and a review that ends
has no issues just when every rule names a known setting and every validator that is asked for can
be built.  With a class for every check, all reviews end.
-/

namespace DeploymentRecipes

/-! ### Repeated ids -/

namespace Setting

theorem repeatedAmong_cons (parent : String) (seen : List String) (s : Setting)
    (ss : List Setting) :
  repeatedAmong parent seen (s :: ss) = (if seen.contains s.id then [pathUnder parent s.id] else [])
    ++ repeatedAmong (pathUnder parent s.id) [] s.children ++ repeatedAmong parent (s.id :: seen) ss
  := by
  cases s
  rfl

/-- Nothing is repeated among siblings just when they differ from those before and from each other,
and nothing is repeated below them. -/
theorem repeatedAmong_eq_nil_iff {parent : String} {seen : List String} {ss : List Setting} :
  repeatedAmong parent seen ss = [] ↔ (∀ s ∈ ss, s.id ∉ seen) ∧ DistinctIds ss
  := by
  induction ss using forestInd generalizing parent seen with
  | nil => simp [repeatedAmong, distinctIds_nil]
  | cons s ss ihchildren ihrest =>
      rw [repeatedAmong_cons, List.append_eq_nil_iff, List.append_eq_nil_iff, ihchildren, ihrest,
        distinctIds_cons_iff, List.forall_mem_cons]
      constructor
      · rintro ⟨⟨hseen, -, hchildren⟩, hrest, hdistinct⟩
        refine ⟨⟨by simpa using hseen, ?_⟩, ?_, hchildren, hdistinct⟩
        · intro t ht hmem
          apply hrest t ht (List.mem_cons_of_mem s.id hmem)
        · intro hmem
          obtain ⟨t, ht, hid⟩ := List.mem_map.mp hmem
          apply hrest t ht
          rw [hid]
          apply List.mem_cons_self
      · rintro ⟨⟨hseen, hrest⟩, hnew, hchildren, hdistinct⟩
        refine ⟨⟨by simpa using hseen, by simp, hchildren⟩, ?_, hdistinct⟩
        intro t ht hmem
        rcases List.mem_cons.mp hmem with heq | hmem
        · apply hnew
          rw [← heq]
          apply List.mem_map_of_mem ht
        · apply hrest t ht hmem

/-- No path is repeated just when the ids of siblings differ everywhere. -/
theorem repeatedPaths_eq_nil_iff {ss : List Setting} :
  repeatedPaths ss = [] ↔ DistinctIds ss
  := by
  simp [repeatedPaths, repeatedAmong_eq_nil_iff]

end Setting

/-! ### Validators that can be built -/

theorem Payload.record_ne_unmapped (payload : Payload) (scope : Scope) (check : String) :
  payload.record ≠ .error (.unmapped scope check)
  := by
  cases payload with
  | data v => cases v <;> simp [record]
  | validator v => simp [record]

namespace Registry

variable {κ : Type} [CheckName κ] {registry : Registry κ}

/-- A validator can be built for every request. -/
def BuildsAll (registry : Registry κ) (requests : List (CheckRequest κ)) : Prop :=
  ∀ request ∈ requests, ∃ v, registry.build request = .ok v

/-- All validators are built just when each of them can be. -/
theorem buildAll_eq_ok_iff {requests : List (CheckRequest κ)} :
  (∃ vs, (registry.buildAll requests).value = .ok vs) ↔ registry.BuildsAll requests
  := by
  induction requests with
  | nil =>
      constructor
      · intro _ request hrequest
        cases hrequest
      · intro _
        exact ⟨[], rfl⟩
  | cons request requests ih =>
      rw [BuildsAll, List.forall_mem_cons, ← BuildsAll, ← ih, buildAll]
      cases hbuild : registry.build request with
      | error e => simp
      | ok v =>
          cases hrest : (registry.buildAll requests).value with
          | error e => simp [hrest, Except.map]
          | ok vs => simp [hrest, Except.map]

/-- There is a class for every check. -/
def Covers (registry : Registry κ) : Prop := ∀ check, (registry.class? check).isSome

/-- A registry with a class for every check never complains about one without. -/
theorem build_ne_unmapped (hcovers : registry.Covers) (request : CheckRequest κ) (scope : Scope)
    (check : String) :
  registry.build request ≠ .error (.unmapped scope check)
  := by
  obtain ⟨c, hc⟩ := Option.isSome_iff_exists.mp (hcovers request.check)
  rw [build, hc]
  intro h
  rcases eq_error_of_bind h with hrecord | ⟨record, -, hfields⟩
  · apply request.payload.record_ne_unmapped scope check hrecord
  · cases hv : (Validator.ofRecord c record).toExcept c.name with
    | error faults => simp [hv, Except.mapError] at hfields
    | ok v => simp [hv, Except.mapError] at hfields

theorem buildAll_ne_unmapped (hcovers : registry.Covers) (requests : List (CheckRequest κ))
    (scope : Scope) (check : String) :
  (registry.buildAll requests).value ≠ .error (.unmapped scope check)
  := by
  induction requests with
  | nil => simp [buildAll]
  | cons request requests ih =>
      rw [buildAll]
      cases hbuild : registry.build request with
      | error e =>
          intro h
          apply build_ne_unmapped hcovers request scope check
          rw [hbuild]
          simpa using h
      | ok v =>
          cases hrest : (registry.buildAll requests).value with
          | error e =>
              rw [hrest] at ih
              simpa [hrest, Except.map] using ih
          | ok vs => simp [hrest, Except.map]

end Registry

/-- Both registries have a class for every check. -/
structure Registries.Cover (registries : Registries) : Prop where
  settings : registries.settings.Covers
  recipes : registries.recipes.Covers

theorem Registries.cover_delivered :
  delivered.Cover
  := by
  constructor
  · intro check
    cases check <;> rfl
  · intro check
    cases check <;> rfl

/-! ### Issues -/

namespace Recipe

theorem issueOfBuild_eq_nil_iff {α : Type} {issue : BuildError → Issue}
    {built : Except BuildError α} {own : List Issue} (h : issueOfBuild issue built = .ok own) :
  own = [] ↔ ∃ vs, built = .ok vs
  := by
  cases built with
  | ok vs =>
      rw [issueOfBuild, Except.ok.injEq] at h
      simp [← h]
  | error e =>
      cases e with
      | unmapped scope check => cases h
      | payload name =>
          rw [issueOfBuild, Except.ok.injEq] at h
          · simp [← h]
          · simp
      | fields faults =>
          rw [issueOfBuild, Except.ok.injEq] at h
          · simp [← h]
          · simp

/-- Only a check without a class ends a review. -/
theorem exists_issueOfBuild {α : Type} (issue : BuildError → Issue) {built : Except BuildError α}
    (h : ∀ scope check, built ≠ .error (.unmapped scope check)) :
  ∃ own, issueOfBuild issue built = .ok own
  := by
  cases built with
  | ok vs => exact ⟨[], rfl⟩
  | error e =>
      cases e with
      | unmapped scope check => cases h scope check rfl
      | payload name => exact ⟨_, rfl⟩
      | fields faults => exact ⟨_, rfl⟩

/-- The target of every rule is found. -/
def KnownTargets (settings : List Setting) (rules : List DependencyRule) : Prop :=
  ∀ rule ∈ rules, (Setting.find settings (some rule.target)).isSome

theorem unknownTargets_eq_nil_iff {settings : List Setting} {s : Setting} :
  unknownTargets settings s = [] ↔ KnownTargets settings s.dependsOn
  := by
  simp [unknownTargets, KnownTargets, Option.isSome_iff_ne_none]

/-- Settings without issues: their rules name known settings, and their validators can be built. -/
theorem settingIssues_eq_nil_iff {registry : Registry SettingCheck} {all ss : List Setting}
    {found : List Issue} (h : (settingIssues registry all ss).value = .ok found) :
  found = [] ↔ ∀ s ∈ ss, KnownTargets all s.dependsOn
    ∧ registry.BuildsAll s.declaration.validators
  := by
  induction ss generalizing found with
  | nil =>
      rw [settingIssues, Except.ok.injEq] at h
      simp [← h]
  | cons s ss ih =>
      rw [settingIssues] at h
      cases hown : issueOfBuild (.settingValidator s.id)
          (registry.buildAll s.declaration.validators).value with
      | error e =>
          rw [hown] at h
          cases h
      | ok own =>
          simp only [hown] at h
          obtain ⟨rest, hrest, rfl⟩ := exists_of_map_eq_ok h
          rw [List.append_eq_nil_iff, List.append_eq_nil_iff, unknownTargets_eq_nil_iff,
            issueOfBuild_eq_nil_iff hown, Registry.buildAll_eq_ok_iff, ih hrest,
            List.forall_mem_cons]

/-- Everything in a recipe that may fail to work does work. -/
structure Workable (registries : Registries) (recipe : Recipe) : Prop where
  targets : ∀ s ∈ Setting.walkAll recipe.settings, KnownTargets recipe.settings s.dependsOn
  settings : ∀ s ∈ Setting.walkAll recipe.settings,
    registries.settings.BuildsAll s.declaration.validators
  recipe : registries.recipes.BuildsAll recipe.validators

/-- A review that ends has no issues just when the recipe is workable. -/
theorem issues_eq_nil_iff {registries : Registries} {recipe : Recipe} {found : List Issue}
    (h : (issues registries recipe).value = .ok found) :
  found = [] ↔ Workable registries recipe
  := by
  rw [issues] at h
  cases hsettings : (settingIssues registries.settings recipe.settings
      (Setting.walkAll recipe.settings)).value with
  | error e =>
      simp only [hsettings] at h
      cases h
  | ok ofSettings =>
      simp only [hsettings] at h
      obtain ⟨own, hown, rfl⟩ := exists_of_map_eq_ok h
      rw [List.append_eq_nil_iff, settingIssues_eq_nil_iff hsettings,
        issueOfBuild_eq_nil_iff hown, Registry.buildAll_eq_ok_iff]
      constructor
      · rintro ⟨hall, hrecipe⟩
        exact ⟨fun s hs => (hall s hs).1, fun s hs => (hall s hs).2, hrecipe⟩
      · rintro ⟨htargets, hbuilds, hrecipe⟩
        exact ⟨fun s hs => ⟨htargets s hs, hbuilds s hs⟩, hrecipe⟩

theorem exists_settingIssues {registry : Registry SettingCheck} (hcovers : registry.Covers)
    (all ss : List Setting) :
  ∃ found, (settingIssues registry all ss).value = .ok found
  := by
  induction ss with
  | nil => exact ⟨[], rfl⟩
  | cons s ss ih =>
      obtain ⟨own, hown⟩ := exists_issueOfBuild (.settingValidator s.id)
        (registry.buildAll_ne_unmapped hcovers s.declaration.validators)
      obtain ⟨rest, hrest⟩ := ih
      use unknownTargets all s ++ own ++ rest
      rw [settingIssues]
      simp only [hown, hrest]
      rfl

/-- With a class for every check, all reviews end. -/
theorem exists_issues {registries : Registries} (hcover : registries.Cover) (recipe : Recipe) :
  ∃ found, (issues registries recipe).value = .ok found
  := by
  obtain ⟨ofSettings, hsettings⟩ :=
    exists_settingIssues hcover.settings recipe.settings (Setting.walkAll recipe.settings)
  obtain ⟨own, hown⟩ := exists_issueOfBuild (.recipeValidator recipe.id)
    (registries.recipes.buildAll_ne_unmapped hcover.recipes recipe.validators)
  use ofSettings ++ own
  rw [issues]
  simp only [hsettings, hown]
  rfl

end Recipe
end DeploymentRecipes
