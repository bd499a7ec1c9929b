import DeploymentRecipes.Proofs.Catalog.Publication

/-!
# Strict loads

A strict load finds the same files as one that is not strict, says the same about them, and fails
only if the other one fails too. It differs in what it publishes: it leaves out the recipes whose
files have a diagnostic about the meaning of the recipe.
-/

namespace DeploymentRecipes

namespace Found

variable {registries : Registries} {strict : Bool}

/-! ### Reviews -/

/-- The diagnostics of the review of a recipe; none if it does not end. -/
def diagnosticsOf (registries : Registries) (f : Found) : List Diagnostic :=
  match (review registries f.recipe).value with
  | .ok r => r.diagnostics f.file
  | .error _ => []

/-- Strictness has no part in whether all reviews end. -/
theorem publishEach_eq_error {fs : List Found} {e : LoadError}
    (h : (publishEach registries strict fs).value = .error e) (strict' : Bool) :
  (publishEach registries strict' fs).value = .error e
  := by
  induction fs with
  | nil => cases h
  | cons f fs ih =>
      rw [publishEach] at h ⊢
      cases hreview : (review registries f.recipe).value with
      | error e' =>
          simp only [hreview] at h ⊢
          exact h
      | ok r =>
          simp only [hreview] at h ⊢
          cases hrest : (publishEach registries strict fs).value with
          | error e' =>
              rw [hrest] at h
              obtain rfl := Except.error.inj h
              rw [ih hrest]
              rfl
          | ok rest =>
              rw [hrest] at h
              cases h

/-- What reviews say, one after the other. -/
theorem diagnostics_publishEach {fs : List Found} {o : Outcome}
    (h : (publishEach registries strict fs).value = .ok o) :
  o.diagnostics = fs.flatMap (diagnosticsOf registries)
  := by
  induction fs generalizing o with
  | nil =>
      rw [publishEach, Except.ok.injEq] at h
      rw [← h]
      rfl
  | cons f fs ih =>
      rw [publishEach] at h
      cases hreview : (review registries f.recipe).value with
      | error e =>
          simp only [hreview] at h
          cases h
      | ok r =>
          simp only [hreview] at h
          obtain ⟨rest, hrest, rfl⟩ := exists_of_map_eq_ok h
          rw [List.flatMap_cons, ← ih hrest, diagnosticsOf, hreview]

theorem file_of_mem_diagnosticsOf {f : Found} {d : Diagnostic}
    (h : d ∈ diagnosticsOf registries f) :
  d.file = f.file
  := by
  rw [diagnosticsOf] at h
  split at h
  · apply file_of_mem_diagnostics h
  · cases h

/-- Whether some diagnostics have one about the meaning of the recipe in a file. -/
def hasWarning (diagnostics : List Diagnostic) (file : String) : Bool :=
  diagnostics.any fun d => d.file == file && d.kind == .semantic

theorem hasWarning_iff {diagnostics : List Diagnostic} {file : String} :
  hasWarning diagnostics file = true ↔ ∃ d ∈ diagnostics, d.file = file ∧ d.kind = .semantic
  := by
  simp [hasWarning]

/-- What excludes a recipe in any case does not concern its meaning. -/
theorem kind_ne_semantic_of_mem_flaws {recipe : Recipe} {cause : DiagnosticCause}
    (h : cause ∈ flaws recipe) :
  cause.kind ≠ .semantic
  := by
  rcases List.mem_append.mp h with h | h
  · obtain ⟨path, -, rfl⟩ := List.mem_map.mp h
    simp [DiagnosticCause.kind]
  · obtain ⟨paths, -, rfl⟩ := List.mem_map.mp h
    simp [DiagnosticCause.kind]

/-- A review warns about the meaning of a recipe just when it has found issues. -/
theorem hasWarning_diagnostics_iff {recipe : Recipe} {r : Review}
    (h : (review registries recipe).value = .ok r) (file : String) :
  hasWarning (r.diagnostics file) file = true ↔ r.issues ≠ []
  := by
  rw [review] at h
  obtain ⟨issues, -, rfl⟩ := exists_of_map_eq_ok h
  rw [hasWarning_iff]
  constructor
  · rintro ⟨d, hd, -, hkind⟩
    obtain ⟨cause, hcause, rfl⟩ := List.mem_map.mp hd
    rcases List.mem_append.mp hcause with hcause | hcause
    · cases kind_ne_semantic_of_mem_flaws hcause hkind
    · obtain ⟨issue, hissue, -⟩ := List.mem_map.mp hcause
      apply List.ne_nil_of_mem hissue
  · intro hissues
    obtain ⟨issue, hissue⟩ := List.exists_mem_of_ne_nil _ hissues
    refine ⟨⟨file, .issue issue⟩, ?_, rfl, rfl⟩
    apply List.mem_map_of_mem
    apply List.mem_append_right
    apply List.mem_map_of_mem hissue

/-- What is published strictly is published otherwise, and its review does not warn. -/
theorem isPublished_strict (f : Found) :
  isPublished registries true f
    = (isPublished registries false f && !hasWarning (diagnosticsOf registries f) f.file)
  := by
  rw [isPublished, isPublished, diagnosticsOf]
  cases hreview : (review registries f.recipe).value with
  | error e => rfl
  | ok r =>
      have hwarning := hasWarning_diagnostics_iff hreview f.file
      cases hissues : r.issues with
      | nil =>
          have hsilent : hasWarning (r.diagnostics f.file) f.file = false := by
            rw [← Bool.not_eq_true, hwarning]
            simp [hissues]
          simp [Review.passes, hissues, hsilent]
      | cons issue issues =>
          have hwarns : hasWarning (r.diagnostics f.file) f.file = true := by
            rw [hwarning]
            simp [hissues]
          simp [Review.passes, hissues, hwarns]

end Found

namespace Catalog

variable {registries : Registries} {place : Place} {o : CatalogOptions}

/-! ### Loads -/

/-- The options with the given strictness. -/
def withStrict (o : CatalogOptions) (strict : Bool) : CatalogOptions :=
  { o with strict := strict }

/-- Strictness has no part in whether a load ends. -/
theorem load_eq_error_of_strict {strict : Bool} {e : LoadError}
    (h : (load registries place (withStrict o strict)).value = .error e) (strict' : Bool) :
  (load registries place (withStrict o strict')).value = .error e
  := by
  have hfiles : ∀ strict, files place (withStrict o strict) = files place o := fun _ => rfl
  rw [load, hfiles, withStrict] at h ⊢
  cases hread : readAll place o.sizeLimit (files place o) with
  | error e' =>
      simp only [hread] at h ⊢
      exact h
  | ok r =>
      simp only [hread] at h ⊢
      cases heach : (Found.publishEach registries strict
          (r.1.filter fun f => !Found.isRepeated r.1 f.recipe.id)).value with
      | error e' =>
          simp only [Found.publish, heach, Found.publishEach_eq_error heach, Except.map] at h ⊢
          exact h
      | ok each =>
          simp only [Found.publish, heach, Except.map] at h
          cases h

/-- A file with a recipe whose id is not repeated has a warning just when the review of the recipe
warns. -/
theorem hasWarning_of_load {contents : CatalogContents}
    (h : (load registries place o).value = .ok contents) {f : Found} (hf : f ∈ foundIn place o)
    (hsingle : Found.isRepeated (foundIn place o) f.recipe.id = false) :
  Found.hasWarning contents.diagnostics f.file
    = Found.hasWarning (Found.diagnosticsOf registries f) f.file
  := by
  obtain ⟨-, each, heach, rfl⟩ := exists_outcome_of_load h
  have hread := (mem_foundIn_iff.mp hf).2
  rw [Bool.eq_iff_iff, Found.hasWarning_iff, Found.hasWarning_iff,
    Found.diagnostics_publishEach heach]
  constructor
  · rintro ⟨d, hd, hfile, hkind⟩
    rcases List.mem_append.mp hd with hd | hd
    · obtain ⟨path, -, htrouble⟩ := List.mem_filterMap.mp hd
      obtain ⟨rfl, htrouble⟩ := troubleAt_eq_some_iff.mp htrouble
      rw [hfile, hread] at htrouble
      cases htrouble
    rcases List.mem_append.mp hd with hd | hd
    · rw [Found.repeatedIds, List.mem_filterMap] at hd
      obtain ⟨id, -, hd⟩ := hd
      obtain ⟨file, -, rfl⟩ := Option.map_eq_some_iff.mp hd
      cases hkind
    · obtain ⟨g, hg, hd⟩ := List.mem_flatMap.mp hd
      -- One file holds one recipe, so this is the review of the file's own.
      have hgfile : g.file = f.file := (Found.file_of_mem_diagnosticsOf hd).symm.trans hfile
      have hgread := (mem_foundIn_iff.mp (List.mem_filter.mp hg).1).2
      rw [hgfile, hread] at hgread
      obtain rfl : f = g := congrArg₂ Found.mk hgfile.symm (Except.ok.inj hgread)
      exact ⟨d, hd, hfile, hkind⟩
  · rintro ⟨d, hd, hwarns⟩
    refine ⟨d, ?_, hwarns⟩
    apply List.mem_append_right
    apply List.mem_append_right
    apply List.mem_flatMap.mpr
    refine ⟨f, ?_, hd⟩
    simp [hf, hsingle]

/-- Strictness has no part in what a load says. -/
theorem diagnostics_load_eq {strict strict' : Bool} {contents contents' : CatalogContents}
    (h : (load registries place (withStrict o strict)).value = .ok contents)
    (h' : (load registries place (withStrict o strict')).value = .ok contents') :
  contents'.diagnostics = contents.diagnostics
  := by
  obtain ⟨-, each, heach, rfl⟩ := exists_outcome_of_load h
  obtain ⟨-, each', heach', rfl⟩ := exists_outcome_of_load h'
  dsimp only
  rw [Found.diagnostics_publishEach heach, Found.diagnostics_publishEach heach']
  rfl

/-- A strict load publishes what is published otherwise, apart from the files with a warning. -/
theorem published_strict {contents : CatalogContents}
    (h : (load registries place (withStrict o false)).value = .ok contents) :
  published registries place (withStrict o true)
    = (published registries place (withStrict o false)).filter fun f =>
      !Found.hasWarning contents.diagnostics f.file
  := by
  have hfound : ∀ strict, foundIn place (withStrict o strict) = foundIn place o := fun _ => rfl
  rw [published, published, hfound, hfound]
  refine Eq.trans (List.filter_congr ?_) List.filter_filter.symm
  intro f hf
  obtain ⟨hmem, hrepeated⟩ := List.mem_filter.mp hf
  have hsingle : Found.isRepeated (foundIn place o) f.recipe.id = false := by
    simpa using hrepeated
  rw [hasWarning_of_load h hmem hsingle, Bool.and_comm]
  apply Found.isPublished_strict

/-- The second one of two loads only removes recipes: both end with the same error, or with the same
diagnostics and the recipes of some files, where the second one has all of them that no diagnostic
for their files concerns the meaning of. -/
def OnlyRemoves (place : Place) (o : CatalogOptions) (loaded loaded' : Except LoadError Catalog) :
    Prop :=
  (∃ e, loaded = .error e ∧ loaded' = .error e)
    ∨ ∃ c c', loaded = .ok c ∧ loaded' = .ok c' ∧ c'.diagnostics = c.diagnostics
      ∧ ∃ fs : List Found, (∀ f ∈ fs, Holds place o f.file f.recipe)
        ∧ c.recipes = fs.map (·.recipe)
        ∧ c'.recipes = (fs.filter fun f => !Found.hasWarning c.diagnostics f.file).map (·.recipe)

/-- Strictness only removes recipes. -/
theorem onlyRemoves_refresh (registries : Registries) (place : Place) (o : CatalogOptions)
    (before before' : Option CatalogContents) :
  OnlyRemoves place o (refresh registries place true ⟨withStrict o false, before⟩).value
    (refresh registries place true ⟨withStrict o true, before'⟩).value
  := by
  simp only [refresh, Bool.true_or, if_true]
  cases hlenient : (load registries place (withStrict o false)).value with
  | error e =>
      left
      use e, rfl
      rw [load_eq_error_of_strict hlenient true]
      rfl
  | ok contents =>
      right
      cases hstrict : (load registries place (withStrict o true)).value with
      | error e =>
          have hfails := load_eq_error_of_strict hstrict false
          rw [hlenient] at hfails
          cases hfails
      | ok contents' =>
          refine ⟨_, _, rfl, rfl, diagnostics_load_eq hlenient hstrict,
            published registries place (withStrict o false), ?_, (loaded_of_load hlenient).recipes, ?_⟩
          · intro f hf
            apply mem_foundIn_iff.mp (List.mem_filter.mp (List.mem_filter.mp hf).1).1
          · apply (loaded_of_load hstrict).recipes.trans
            rw [published_strict hlenient]
            rfl

/-- Strictness has no part in the diagnostics of a catalog. -/
theorem map_diagnostics_refresh (registries : Registries) (place : Place) (o : CatalogOptions)
    (before : Option CatalogContents) (strict : Bool) :
  (refresh registries place true ⟨withStrict o strict, before⟩).value.map (·.diagnostics)
    = (refresh registries place true ⟨o, before⟩).value.map (·.diagnostics)
  := by
  have hlenient : ∀ strict,
      (refresh registries place true ⟨withStrict o strict, before⟩).value.map (·.diagnostics)
        = (refresh registries place true ⟨withStrict o false, before⟩).value.map (·.diagnostics) := by
    intro strict
    cases strict with
    | false => rfl
    | true =>
        obtain ⟨e, h, h'⟩ | ⟨c, c', h, h', hdiagnostics, -⟩ :=
          onlyRemoves_refresh registries place o before before
        · rw [h, h']
        · rw [h, h']
          apply congrArg Except.ok hdiagnostics
  apply (hlenient strict).trans (hlenient o.strict).symm

end Catalog
end DeploymentRecipes
