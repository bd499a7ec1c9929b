import DeploymentRecipes.Proofs.Catalog.Reading
import DeploymentRecipes.Proofs.Catalog.Scan
import DeploymentRecipes.Proofs.Dependency.BackEdge
import DeploymentRecipes.Proofs.Recipe.Review

/-!
# What is published

The recipes of a catalog are those of the scanned files that are sound and share their ids with no
other file, in the order of their files.  Each is found by its id.
-/

namespace DeploymentRecipes

/-- A recipe that may be published: sibling ids differ, nothing hangs on itself, and if the
publication is strict then everything works. -/
structure Recipe.Sound (registries : Registries) (strict : Bool) (recipe : Recipe) : Prop where
  ids : Setting.DistinctIds recipe.settings
  acyclic : (Setting.dependencyGraph recipe.settings).Acyclic
  workable : strict = true → recipe.Workable registries

namespace Found

variable {registries : Registries} {strict : Bool}

/-! ### Reviews -/

/-- A review that ends passes just the sound recipes. -/
theorem passes_iff_sound {recipe : Recipe} {r : Review}
    (h : (review registries recipe).value = .ok r) :
  r.passes strict = true ↔ recipe.Sound registries strict
  := by
  rw [review] at h
  obtain ⟨found, hfound, rfl⟩ := exists_of_map_eq_ok h
  have hissues := eq_ok_of_mapError hfound
  have hflaws : flaws recipe = [] ↔ Setting.DistinctIds recipe.settings
      ∧ (Setting.dependencyGraph recipe.settings).Acyclic := by
    rw [flaws, List.append_eq_nil_iff, List.map_eq_nil_iff, List.map_eq_nil_iff,
      Setting.repeatedPaths_eq_nil_iff, Graph.cycles_eq_nil_iff]
  have hworkable := Recipe.issues_eq_nil_iff hissues
  rw [Review.passes, Bool.and_eq_true, List.isEmpty_iff, hflaws]
  constructor
  · rintro ⟨⟨hids, hacyclic⟩, hstrict⟩
    refine ⟨hids, hacyclic, ?_⟩
    rintro rfl
    rw [← hworkable]
    simpa using hstrict
  · rintro ⟨hids, hacyclic, hstrict⟩
    refine ⟨⟨hids, hacyclic⟩, ?_⟩
    cases strict with
    | false => rfl
    | true =>
        rw [hworkable.mpr (hstrict rfl)]
        rfl

/-- Whether a recipe whose id is not repeated is published. -/
def isPublished (registries : Registries) (strict : Bool) (f : Found) : Bool :=
  match (review registries f.recipe).value with
  | .ok r => r.passes strict
  | .error _ => false

/-- The outcome for recipes whose ids are not repeated: all reviews end, the recipes that pass are
published, and every diagnostic is from the review of one of them. -/
theorem publishEach_eq_ok {fs : List Found} {o : Outcome}
    (h : (publishEach registries strict fs).value = .ok o) :
  (∀ f ∈ fs, ∃ r, (review registries f.recipe).value = .ok r)
    ∧ o.recipes = (fs.filter (isPublished registries strict)).map (·.recipe)
    ∧ ∀ d ∈ o.diagnostics, ∃ f ∈ fs, ∃ r, (review registries f.recipe).value = .ok r
      ∧ d ∈ r.diagnostics f.file
  := by
  induction fs generalizing o with
  | nil =>
      rw [publishEach, Except.ok.injEq] at h
      simp [← h]
  | cons f fs ih =>
      rw [publishEach] at h
      cases hreview : (review registries f.recipe).value with
      | error e =>
          simp only [hreview] at h
          cases h
      | ok r =>
          simp only [hreview] at h
          obtain ⟨rest, hrest, rfl⟩ := exists_of_map_eq_ok h
          obtain ⟨hreviews, hrecipes, hdiagnostics⟩ := ih hrest
          have hpasses : isPublished registries strict f = r.passes strict := by
            rw [isPublished, hreview]
          refine ⟨?_, ?_, ?_⟩
          · rw [List.forall_mem_cons]
            exact ⟨⟨r, hreview⟩, hreviews⟩
          · rw [List.filter_cons, hpasses]
            cases r.passes strict with
            | true => simp [hrecipes]
            | false => simp [hrecipes]
          · intro d hd
            rcases List.mem_append.mp hd with hd | hd
            · exact ⟨f, List.mem_cons_self, r, hreview, hd⟩
            · obtain ⟨g, hg, hgd⟩ := hdiagnostics d hd
              exact ⟨g, List.mem_cons_of_mem f hg, hgd⟩

theorem file_of_mem_diagnostics {r : Review} {file : String} {d : Diagnostic}
    (h : d ∈ r.diagnostics file) :
  d.file = file
  := by
  obtain ⟨cause, -, rfl⟩ := List.mem_map.mp h
  rfl

/-- A review says nothing about repeated ids of recipes. -/
theorem cause_ne_of_mem_diagnostics {recipe : Recipe} {r : Review} {file : String} {d : Diagnostic}
    (h : (review registries recipe).value = .ok r) (hd : d ∈ r.diagnostics file) (id : String)
    (fs : List String) :
  d.cause ≠ .repeatedId id fs
  := by
  rw [review] at h
  obtain ⟨found, -, rfl⟩ := exists_of_map_eq_ok h
  obtain ⟨cause, hcause, rfl⟩ := List.mem_map.mp hd
  rcases List.mem_append.mp hcause with hcause | hcause
  · rcases List.mem_append.mp hcause with hcause | hcause
    · obtain ⟨path, -, rfl⟩ := List.mem_map.mp hcause
      simp
    · obtain ⟨paths, -, rfl⟩ := List.mem_map.mp hcause
      simp
  · obtain ⟨issue, -, rfl⟩ := List.mem_map.mp hcause
    simp

/-- With a class for every check, all reviews end. -/
theorem exists_publishEach (hcover : registries.Cover) (strict : Bool) (fs : List Found) :
  ∃ o, (publishEach registries strict fs).value = .ok o
  := by
  induction fs with
  | nil => exact ⟨_, rfl⟩
  | cons f fs ih =>
      obtain ⟨found, hfound⟩ := Recipe.exists_issues hcover f.recipe
      obtain ⟨o, ho⟩ := ih
      have hreview : (review registries f.recipe).value = .ok ⟨flaws f.recipe, found⟩ := by
        rw [review, hfound]
        rfl
      rw [publishEach]
      simp only [hreview, ho, Except.map]
      exact ⟨_, rfl⟩

/-! ### Repeated ids -/

theorem mem_filesWith_iff {found : List Found} {id file : String} :
  file ∈ filesWith found id ↔ ∃ f ∈ found, f.recipe.id = id ∧ f.file = file
  := by
  simp [filesWith, and_assoc]

/-- Among files that differ, an id is not repeated just when no other file has it. -/
theorem isRepeated_eq_false_iff {found : List Found} (hnodup : (found.map (·.file)).Nodup)
    {f : Found} (hf : f ∈ found) :
  isRepeated found f.recipe.id = false
    ↔ ∀ g ∈ found, g.recipe.id = f.recipe.id → g.file = f.file
  := by
  have hfile : f.file ∈ filesWith found f.recipe.id := mem_filesWith_iff.mpr ⟨f, hf, rfl, rfl⟩
  have hfiles : (filesWith found f.recipe.id).Nodup :=
    hnodup.sublist (List.filter_sublist.map _)
  rw [isRepeated, decide_eq_false_iff_not, Nat.not_lt]
  constructor
  · intro hlength g hg hid
    have hgfile : g.file ∈ filesWith found f.recipe.id := mem_filesWith_iff.mpr ⟨g, hg, hid, rfl⟩
    obtain ⟨file, hsingle⟩ : ∃ file, filesWith found f.recipe.id = [file] := by
      apply List.length_eq_one_iff.mp
      have hpos := List.length_pos_of_mem hfile
      omega
    rw [hsingle, List.mem_singleton] at hfile hgfile
    rw [hfile, hgfile]
  · intro hsame
    have hall : ∀ file ∈ filesWith found f.recipe.id, file = f.file := by
      intro file hmem
      obtain ⟨g, hg, hid, rfl⟩ := mem_filesWith_iff.mp hmem
      apply hsame g hg hid
    rw [List.eq_replicate_of_mem hall] at hfiles
    apply List.nodup_replicate.mp hfiles

theorem mem_repeatedIds {found : List Found} {d : Diagnostic} (h : d ∈ repeatedIds found) :
  ∃ f ∈ found, d.file = f.file
  := by
  rw [repeatedIds, List.mem_filterMap] at h
  obtain ⟨id, -, hd⟩ := h
  obtain ⟨file, hfile, rfl⟩ := Option.map_eq_some_iff.mp hd
  obtain ⟨f, hf, rfl⟩ := List.mem_map.mp (List.mem_of_head? hfile)
  use f, (List.mem_filter.mp hf).1

theorem mem_ids_iff {found : List Found} {id : String} :
  id ∈ ids found ↔ ∃ f ∈ found, f.recipe.id = id
  := by
  have hids : ids found = addNew [] (found.map (·.recipe.id)) := by
    rw [ids, addNew, List.foldl_map]
  rw [hids, mem_addNew]
  simp

/-- The diagnostics for repeated ids are one for each of them, with all its files. -/
theorem exists_mem_repeatedIds_iff {found : List Found} {id : String} {fs : List String} :
  (∃ file, ⟨file, .repeatedId id fs⟩ ∈ repeatedIds found)
    ↔ isRepeated found id = true ∧ fs = filesWith found id
  := by
  simp only [repeatedIds, List.mem_filterMap, List.mem_filter, Option.map_eq_some_iff]
  constructor
  · rintro ⟨file, id', ⟨-, hrepeated⟩, first, -, heq⟩
    obtain ⟨-, hcause⟩ := Diagnostic.mk.inj heq
    obtain ⟨rfl, rfl⟩ := DiagnosticCause.repeatedId.inj hcause
    exact ⟨hrepeated, rfl⟩
  · rintro ⟨hrepeated, rfl⟩
    obtain ⟨first, hfirst⟩ : ∃ first, (filesWith found id).head? = some first := by
      cases hfiles : filesWith found id with
      | nil => simp [isRepeated, hfiles] at hrepeated
      | cons first rest => exact ⟨first, rfl⟩
    refine ⟨first, id, ⟨?_, hrepeated⟩, first, hfirst, rfl⟩
    obtain ⟨f, hf, hid, -⟩ := mem_filesWith_iff.mp (List.mem_of_head? hfirst)
    exact mem_ids_iff.mpr ⟨f, hf, hid⟩

end Found

namespace Catalog

variable {registries : Registries} {place : Place} {o : CatalogOptions}

/-! ### What a load publishes -/

/-- A scanned file holds a recipe. -/
def Holds (place : Place) (o : CatalogOptions) (file : String) (recipe : Recipe) : Prop :=
  file ∈ files place o ∧ read place o.sizeLimit file = .ok recipe

/-- The recipes of the scanned files. -/
def foundIn (place : Place) (o : CatalogOptions) : List Found :=
  (files place o).filterMap (foundAt place o.sizeLimit)

theorem mem_foundIn_iff {f : Found} :
  f ∈ foundIn place o ↔ Holds place o f.file f.recipe
  := by
  rw [foundIn, List.mem_filterMap, Holds]
  constructor
  · rintro ⟨file, hfile, hfound⟩
    obtain ⟨rfl, hread⟩ := foundAt_eq_some_iff.mp hfound
    exact ⟨hfile, hread⟩
  · rintro ⟨hfile, hread⟩
    use f.file, hfile
    exact foundAt_eq_some_iff.mpr ⟨rfl, hread⟩

theorem files_filterMap_sublist (limit : Int) (paths : List String) :
  ((paths.filterMap (foundAt place limit)).map (·.file)).Sublist paths
  := by
  induction paths with
  | nil => apply List.Sublist.refl
  | cons path paths ih =>
      rw [List.filterMap_cons]
      cases hfound : foundAt place limit path with
      | none => exact ih.cons path
      | some f =>
          rw [List.map_cons, (foundAt_eq_some_iff.mp hfound).1]
          exact ih.cons_cons path

/-- The recipes that a load publishes, with their files. -/
def published (registries : Registries) (place : Place) (o : CatalogOptions) : List Found :=
  ((foundIn place o).filter fun f => !Found.isRepeated (foundIn place o) f.recipe.id).filter
    (Found.isPublished registries o.strict)

/-- What the contents are that a load comes to: all reviews that are needed have ended, the sound
recipes with ids of their own are published, and every diagnostic is for a file that gives no recipe
or for one that does. -/
structure Loaded (registries : Registries) (place : Place) (o : CatalogOptions)
    (contents : CatalogContents) : Prop where
  readable : Readable place o.sizeLimit (files place o)
  reviewed : ∀ f ∈ foundIn place o, Found.isRepeated (foundIn place o) f.recipe.id = false →
    ∃ r, (Found.review registries f.recipe).value = .ok r
  recipes : contents.recipes = (published registries place o).map (·.recipe)
  diagnostics : ∃ others,
    contents.diagnostics = (files place o).filterMap (troubleAt place o.sizeLimit) ++ others
      ∧ ∀ d ∈ others, ∃ f ∈ foundIn place o, d.file = f.file
  times : contents.times = (files place o).map fun p => (p, timeOf place p)

/-- What a load that ends has come to: every file can be read, and the contents are put together from
the files and from the outcome for the recipes whose ids are not repeated. -/
theorem exists_outcome_of_load {contents : CatalogContents}
    (h : (load registries place o).value = .ok contents) :
  Readable place o.sizeLimit (files place o)
    ∧ ∃ each, (Found.publishEach registries o.strict ((foundIn place o).filter fun f =>
        !Found.isRepeated (foundIn place o) f.recipe.id)).value = .ok each
      ∧ contents = ⟨each.recipes, (files place o).filterMap (troubleAt place o.sizeLimit)
          ++ (Found.repeatedIds (foundIn place o) ++ each.diagnostics),
        (files place o).map fun p => (p, timeOf place p)⟩
  := by
  rw [load] at h
  cases hread : readAll place o.sizeLimit (files place o) with
  | error e =>
      simp only [hread] at h
      cases h
  | ok r =>
      simp only [hread] at h
      obtain ⟨hreadable, rfl⟩ := readAll_eq_ok_iff.mp hread
      rw [← foundIn] at h
      cases hpublish : (Found.publish registries o.strict (foundIn place o)).value with
      | error e =>
          rw [hpublish] at h
          cases h
      | ok outcome =>
          rw [hpublish] at h
          obtain ⟨each, heach, rfl⟩ := exists_of_map_eq_ok hpublish
          exact ⟨hreadable, each, heach, (Except.ok.inj h).symm⟩

theorem loaded_of_load {contents : CatalogContents}
    (h : (load registries place o).value = .ok contents) :
  Loaded registries place o contents
  := by
  obtain ⟨hreadable, each, heach, rfl⟩ := exists_outcome_of_load h
  obtain ⟨hreviews, hrecipes, hdiagnostics⟩ := Found.publishEach_eq_ok heach
  refine ⟨hreadable, ?_, hrecipes, ⟨_, rfl, ?_⟩, rfl⟩
  · intro f hf hsingle
    apply hreviews f
    simp [hf, hsingle]
  · intro d hd
    rcases List.mem_append.mp hd with hd | hd
    · apply Found.mem_repeatedIds hd
    · obtain ⟨f, hf, r, -, hmem⟩ := hdiagnostics d hd
      use f, (List.mem_filter.mp hf).1
      apply Found.file_of_mem_diagnostics hmem

theorem load_eq_error {e : LoadError}
    (h : readAll place o.sizeLimit (files place o) = .error e) :
  (load registries place o).value = .error e
  := by
  rw [load]
  simp only [h]

/-- With a class for every check, a load ends just when it can be read to its end. -/
theorem exists_load_iff (hcover : registries.Cover) :
  (∃ contents, (load registries place o).value = .ok contents)
    ↔ Readable place o.sizeLimit (files place o)
  := by
  constructor
  · rintro ⟨contents, h⟩
    apply (loaded_of_load h).readable
  · intro hreadable
    obtain ⟨outcome, houtcome⟩ := Found.exists_publishEach hcover o.strict
      ((foundIn place o).filter fun f => !Found.isRepeated (foundIn place o) f.recipe.id)
    rw [load, readAll_eq_ok_iff.mpr ⟨hreadable, rfl⟩, ← foundIn]
    simp only [Found.publish, houtcome, Except.map]
    exact ⟨_, rfl⟩

/-- A load that ends publishes sound recipes only. -/
theorem sound_of_load {contents : CatalogContents}
    (h : (load registries place o).value = .ok contents) {recipe : Recipe}
    (hrecipe : recipe ∈ contents.recipes) :
  recipe.Sound registries o.strict
  := by
  rw [(loaded_of_load h).recipes, List.mem_map] at hrecipe
  obtain ⟨f, hf, rfl⟩ := hrecipe
  obtain ⟨hsingle, hpublished⟩ := List.mem_filter.mp hf
  obtain ⟨hfound, hrepeated⟩ := List.mem_filter.mp hsingle
  obtain ⟨r, hr⟩ := (loaded_of_load h).reviewed f hfound (by simpa using hrepeated)
  rw [Found.isPublished, hr] at hpublished
  exact (Found.passes_iff_sound hr).mp hpublished

/-- A load that ends publishes just the sound recipes whose ids no other file has. -/
theorem mem_published_iff {contents : CatalogContents} (hnodup : (files place o).Nodup)
    (h : (load registries place o).value = .ok contents) {f : Found} :
  f ∈ published registries place o ↔ Holds place o f.file f.recipe
    ∧ (∀ file recipe, Holds place o file recipe → recipe.id = f.recipe.id → file = f.file)
    ∧ f.recipe.Sound registries o.strict
  := by
  have hreviews := (loaded_of_load h).reviewed
  have hfiles : ((foundIn place o).map (·.file)).Nodup :=
    hnodup.sublist (files_filterMap_sublist _ _)
  rw [published, List.mem_filter, List.mem_filter, Bool.not_eq_true', mem_foundIn_iff, and_assoc]
  constructor
  · rintro ⟨hholds, hsingle, hpublished⟩
    have hf := mem_foundIn_iff.mpr hholds
    obtain ⟨r, hr⟩ := hreviews f hf hsingle
    rw [Found.isPublished, hr] at hpublished
    refine ⟨hholds, ?_, (Found.passes_iff_sound hr).mp hpublished⟩
    intro file recipe hother hid
    apply (Found.isRepeated_eq_false_iff hfiles hf).mp hsingle ⟨file, recipe⟩ _ hid
    apply mem_foundIn_iff.mpr hother
  · rintro ⟨hholds, hunique, hsound⟩
    have hf := mem_foundIn_iff.mpr hholds
    have hsingle : Found.isRepeated (foundIn place o) f.recipe.id = false := by
      rw [Found.isRepeated_eq_false_iff hfiles hf]
      intro g hg hid
      apply hunique g.file g.recipe (mem_foundIn_iff.mp hg) hid
    obtain ⟨r, hr⟩ := hreviews f hf hsingle
    refine ⟨hholds, hsingle, ?_⟩
    rw [Found.isPublished, hr]
    apply (Found.passes_iff_sound hr).mpr hsound

/-! ### Catalogs right after a load -/

/-- A forced refresh loads the contents. -/
theorem refresh_eq_ok {c c' : Catalog} (h : (refresh registries place true c).value = .ok c') :
  ∃ contents, (load registries place c.options).value = .ok contents
    ∧ c' = ⟨c.options, some contents⟩
  := by
  rw [refresh, Bool.true_or, if_pos rfl] at h
  obtain ⟨contents, hload, rfl⟩ := exists_of_map_eq_ok h
  exact ⟨contents, hload, rfl⟩

/-- Nothing is stale right after a load. -/
theorem refresh_of_loaded {contents : CatalogContents}
    (h : (load registries place o).value = .ok contents) :
  (refresh registries place false ⟨o, some contents⟩).value = .ok ⟨o, some contents⟩
  := by
  have htimes := (loaded_of_load h).times
  have hfresh : isStale place o contents = false := by
    rw [isStale, htimes, Bool.not_eq_false', Bool.and_eq_true, and_self, List.all_eq_true]
    intro p hp
    simpa using hp
  have hneeds : needsLoad place ⟨o, some contents⟩ = false := hfresh
  rw [refresh, Bool.false_or, hneeds]
  rfl

/-- A catalog right after a load holds just the sound recipes of the scanned files whose ids no other
file has, in the order of their files and each once, and finds each of them by its id. -/
theorem recipes_refresh {c c' : Catalog} (hnodup : (files place c.options).Nodup)
    (h : (refresh registries place true c).value = .ok c') :
  (∃ fs : List Found, c'.recipes = fs.map (·.recipe)
      ∧ (fs.map (·.file)).Pairwise (· < ·)
      ∧ ∀ f, f ∈ fs ↔ Holds place c.options f.file f.recipe
        ∧ (∀ file recipe, Holds place c.options file recipe → recipe.id = f.recipe.id →
          file = f.file)
        ∧ f.recipe.Sound registries c.options.strict)
    ∧ (refresh registries place false c').value = .ok c'
    ∧ ∀ id recipe, c'.find? id = some recipe ↔ recipe ∈ c'.recipes ∧ recipe.id = id
  := by
  obtain ⟨contents, hload, rfl⟩ := refresh_eq_ok h
  have hmem := fun f => mem_published_iff (f := f) hnodup hload
  have hrecipes := (loaded_of_load hload).recipes
  refine ⟨⟨published registries place c.options, hrecipes, ?_, hmem⟩, refresh_of_loaded hload, ?_⟩
  · have hsub : ((published registries place c.options).map (·.file)).Sublist
        (files place c.options) := by
      apply ((List.filter_sublist.trans List.filter_sublist).map _).trans
      apply files_filterMap_sublist
    have hle := (pairwise_files place c.options).sublist hsub
    have hne : ((published registries place c.options).map (·.file)).Pairwise (· ≠ ·) :=
      hnodup.sublist hsub
    apply List.Pairwise.imp _ (hle.and hne)
    rintro a b ⟨hab, hab'⟩
    exact lt_of_le_of_ne hab hab'
  · intro id recipe
    rw [find?]
    change contents.recipes.find? _ = _ ↔ recipe ∈ contents.recipes ∧ _
    constructor
    · intro hfind
      exact ⟨List.mem_of_find?_eq_some hfind, by simpa using List.find?_some hfind⟩
    · rintro ⟨hrecipe, rfl⟩
      cases hfind : contents.recipes.find? (·.id == recipe.id) with
      | none =>
          have hnone := List.find?_eq_none.mp hfind recipe hrecipe
          simp at hnone
      | some recipe' =>
          have hid : recipe'.id = recipe.id := by simpa using List.find?_some hfind
          have hrecipe' := List.mem_of_find?_eq_some hfind
          rw [hrecipes, List.mem_map] at hrecipe hrecipe'
          obtain ⟨f, hf, rfl⟩ := hrecipe
          obtain ⟨g, hg, rfl⟩ := hrecipe'
          -- Both files hold a recipe with the id, so they are one file.
          obtain ⟨hf, hunique, -⟩ := (hmem f).mp hf
          obtain ⟨hg, -⟩ := (hmem g).mp hg
          have hfile := hunique g.file g.recipe hg hid
          rw [hfile] at hg
          have hread := hg.2.symm.trans hf.2
          rw [Except.ok.inj hread]

/-- The bytes of a text of ASCII characters. -/
def asciiBytes (s : String) : List UInt8 := s.toList.map fun c => UInt8.ofNat c.toNat

/-- A folder with two recipes and a document that is none. -/
def threeFiles : Place where
  tree := {
    files := [
      (["recipes", "a.json"], ⟨asciiBytes r#"{"id": "a"}"#, 1⟩),
      (["recipes", "b.json"], ⟨asciiBytes r#"{"id": "b"}"#, 2⟩),
      (["recipes", "c.json"], ⟨asciiBytes r"{", 3⟩)]
    directories := [["recipes"]] }
  cwd := []
  home := "/"

/-- The catalog of that folder, before it is loaded. -/
def threeFilesCatalog : Catalog := .ofOptions ⟨["/recipes"], false, true, 100⟩

theorem files_threeFiles :
  files threeFiles threeFilesCatalog.options
    = ["/recipes/a.json", "/recipes/b.json", "/recipes/c.json"]
  := by
  have hscan : threeFilesCatalog.options.paths.flatMap
      (threeFiles.recipeFilesBelow threeFilesCatalog.options.recursive)
        = ["/recipes/a.json", "/recipes/b.json", "/recipes/c.json"] := by decide +kernel
  rw [files, Place.recipeFiles, hscan]
  apply List.mergeSort_of_pairwise
  decide

theorem recipes_refresh_threeFiles :
  ∃ c', (refresh .delivered threeFiles true threeFilesCatalog).value = .ok c'
    ∧ (∃ fs : List Found, c'.recipes = fs.map (·.recipe) ∧ (fs.map (·.file)).Pairwise (· < ·))
    ∧ (refresh .delivered threeFiles false c').value = .ok c'
  := by
  have hnodup : (files threeFiles threeFilesCatalog.options).Nodup := by
    rw [files_threeFiles]
    decide
  have hreadable : Readable threeFiles 100 (files threeFiles threeFilesCatalog.options) := by
    rw [files_threeFiles]
    decide +kernel
  obtain ⟨contents, hload⟩ := (exists_load_iff Registries.cover_delivered).mpr hreadable
  have hrefresh : (refresh .delivered threeFiles true threeFilesCatalog).value
      = .ok ⟨threeFilesCatalog.options, some contents⟩ := by
    rw [refresh]
    simp only [Bool.true_or, if_true, hload]
    rfl
  obtain ⟨⟨fs, hrecipes, hsorted, -⟩, hagain, -⟩ := recipes_refresh hnodup hrefresh
  exact ⟨_, hrefresh, ⟨fs, hrecipes, hsorted⟩, hagain⟩

end Catalog
end DeploymentRecipes
