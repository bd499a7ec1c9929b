import DeploymentRecipes.Proofs.Catalog.Document
import DeploymentRecipes.Proofs.Catalog.Publication

/-!
# Bad documents

A file without a recipe is reported and left out, and the catalog is what it would be without the
file.  The only files that are not reported are those whose document asks for a value that cannot be
made, such as a date in a thirteenth month; they end the load.
-/

namespace DeploymentRecipes.Catalog

variable {place : Place} {o : CatalogOptions} {limit : Int} {path : String}

/-! ### Files that end the load -/

/-- A file that is not too large and whose document asks for a value that cannot be made. -/
def AsksForNoValue (place : Place) (limit : Int) (path : String) : Prop :=
  ((place.file? path).getD ⟨[], 0⟩).bytes.length ≤ limit
    ∧ Recipe.HasNoValue place.tools ((place.file? path).getD ⟨[], 0⟩).bytes
      ((DocumentFormat.ofPath? path).getD .yaml)

theorem readsUnless_read (place : Place) (limit : Int) (path : String) :
  Recipe.ReadsUnless (AsksForNoValue place limit path) (read place limit path)
  := Recipe.readsUnless_ofFile _ limit path _

/-- Only such files end the load. -/
theorem endsLoad_iff_asksForNoValue :
  endsLoad place limit path = true ↔ AsksForNoValue place limit path
  := by
  rw [endsLoad_iff, ← (readsUnless_read place limit path).iff_fatal]

/-- With a class for every check, a refresh comes to its end unless it has to load a file that asks for
a value that cannot be made. -/
theorem exists_refresh_iff {registries : Registries} (hcover : registries.Cover) (place : Place)
    (force : Bool) (c : Catalog) :
  (∃ c', (refresh registries place force c).value = .ok c')
    ↔ ((force || c.needsLoad place) = true →
      Readable place c.options.sizeLimit (files place c.options))
  := by
  rw [← exists_load_iff hcover, refresh]
  split
  · rename_i hneeds
    simp only [hneeds, true_implies]
    cases (load registries place c.options).value <;> simp [Except.map]
  · rename_i hneeds
    simp [hneeds]

/-! ### Files without a recipe -/

/-- The diagnostics of the files themselves that name one file: one each time that it is listed. -/
theorem filter_filterMap_troubleAt {cause : DiagnosticCause}
    (h : read place limit path = .error (.reported cause)) (paths : List String) :
  (paths.filterMap (troubleAt place limit)).filter (·.file == path)
    = List.replicate (paths.count path) ⟨path, cause⟩
  := by
  induction paths with
  | nil => rfl
  | cons p paths ih =>
      by_cases hp : p = path
      · subst hp
        have htrouble : troubleAt place limit p = some ⟨p, cause⟩ :=
          troubleAt_eq_some_iff.mpr ⟨rfl, h⟩
        rw [List.filterMap_cons_some htrouble, List.filter_cons_of_pos (by simp), ih,
          List.count_cons_self, List.replicate_succ]
      · rw [List.count_cons_of_ne hp, ← ih]
        cases htrouble : troubleAt place limit p with
        | none => rw [List.filterMap_cons_none htrouble]
        | some d =>
            have hfile := (troubleAt_eq_some_iff.mp htrouble).1
            rw [List.filterMap_cons_some htrouble, List.filter_cons_of_neg]
            simpa [hfile] using hp

/-- The diagnostics of a load that name a file without a recipe: one each time that it is scanned. -/
theorem filter_diagnostics_of_load {registries : Registries} {contents : CatalogContents}
    (h : (load registries place o).value = .ok contents) {cause : DiagnosticCause}
    (hread : read place o.sizeLimit path = .error (.reported cause)) :
  contents.diagnostics.filter (·.file == path)
    = List.replicate ((files place o).count path) ⟨path, cause⟩
  := by
  obtain ⟨others, hdiagnostics, hothers⟩ := (loaded_of_load h).diagnostics
  have hnil : others.filter (·.file == path) = [] := by
    rw [List.filter_eq_nil_iff]
    intro d hd hfile
    obtain ⟨f, hf, hdf⟩ := hothers d hd
    rw [beq_iff_eq, hdf] at hfile
    obtain ⟨-, hread'⟩ := mem_foundIn_iff.mp hf
    rw [hfile, hread] at hread'
    cases hread'
  rw [hdiagnostics, List.filter_append, filter_filterMap_troubleAt hread, hnil, List.append_nil]

/-- A place and options with the same scanned files but one. -/
structure Without (path : String) (place place' : Place) (o o' : CatalogOptions) : Prop where
  files : files place' o' = (files place o).filter (· ≠ path)
  alike : ReadAlike place' place (Catalog.files place' o')
  strict : o'.strict = o.strict
  sizeLimit : o'.sizeLimit = o.sizeLimit

variable {place' : Place} {o' : CatalogOptions}

theorem Without.read_eq (h : Without path place place' o o') {file : String}
    (hfile : file ∈ Catalog.files place' o') :
  read place' o'.sizeLimit file = read place o.sizeLimit file
  := by
  rw [h.sizeLimit, h.alike.read_eq hfile]

/-- A file without a recipe adds nothing to the recipes that are found. -/
theorem Without.foundIn_eq (h : Without path place place' o o')
    (hnone : foundAt place o.sizeLimit path = none) :
  foundIn place' o' = foundIn place o
  := by
  have hcongr : foundIn place' o'
      = (Catalog.files place' o').filterMap (foundAt place o.sizeLimit) := by
    apply List.filterMap_congr
    intro file hfile
    rw [foundAt, foundAt, h.read_eq hfile]
  rw [hcongr, h.files, List.filterMap_filter, foundIn]
  apply List.filterMap_congr
  intro file _
  by_cases hfile : file = path
  · simp [hfile, hnone]
  · simp [hfile]

/-- A catalog leaves a file out: every diagnostic for the file is its own, once each time that it is
scanned, the recipes are those of other files, and they are the same without the file. -/
structure LeavesOut (place : Place) (path : String) (c : Catalog) : Prop where
  reported : ∃ cause, c.diagnostics.filter (·.file == path)
    = List.replicate ((Catalog.files place c.options).count path) ⟨path, cause⟩
  others : ∃ fs : List Found, c.recipes = fs.map (·.recipe)
    ∧ ∀ f ∈ fs, f.file ≠ path ∧ Holds place c.options f.file f.recipe
  unchanged : ∀ place' o', Without path place place' c.options o' →
    ∃ c', (refresh .delivered place' true (ofOptions o')).value = .ok c' ∧ c'.recipes = c.recipes

/-- A load that ends leaves out every scanned file without a recipe. -/
theorem leavesOut_of_load {contents : CatalogContents}
    (h : (load .delivered place o).value = .ok contents) (hpath : path ∈ files place o)
    (hnone : ∀ recipe, ¬ Holds place o path recipe) :
  LeavesOut place path ⟨o, some contents⟩
  := by
  obtain ⟨hreadable, -, hrecipes, -, -⟩ := loaded_of_load h
  obtain ⟨cause, hread⟩ : ∃ cause, read place o.sizeLimit path = .error (.reported cause) := by
    cases hread : read place o.sizeLimit path with
    | ok recipe => cases hnone recipe ⟨hpath, hread⟩
    | error trouble =>
        cases trouble with
        | reported cause => use cause
        | fatal e =>
            have hends := hreadable path hpath
            rw [endsLoad, hread] at hends
            cases hends
  have hfound : foundAt place o.sizeLimit path = none := by
    rw [foundAt, hread]
  have hfile : ∀ f ∈ foundIn place o, f.file ≠ path := by
    rintro f hf rfl
    apply hnone f.recipe (mem_foundIn_iff.mp hf)
  constructor
  · exact ⟨cause, filter_diagnostics_of_load h hread⟩
  · use published .delivered place o, hrecipes
    intro f hf
    have hmem := (List.mem_filter.mp (List.mem_filter.mp hf).1).1
    exact ⟨hfile f hmem, mem_foundIn_iff.mp hmem⟩
  · intro place' o' hwithout
    have hreadable' : Readable place' o'.sizeLimit (files place' o') := by
      intro file hmem
      rw [endsLoad, hwithout.read_eq hmem, ← endsLoad]
      apply hreadable
      rw [hwithout.files] at hmem
      apply (List.mem_filter.mp hmem).1
    obtain ⟨contents', hload'⟩ := (exists_load_iff Registries.cover_delivered).mpr hreadable'
    use ⟨o', some contents'⟩
    constructor
    · rw [refresh]
      simp only [Bool.true_or, if_true, ofOptions, hload', Except.map]
    · have hrecipes' := (loaded_of_load hload').recipes
      change contents'.recipes = contents.recipes
      rw [hrecipes', hrecipes, published, published, hwithout.foundIn_eq hfound, hwithout.strict]

/-- A refresh comes to its end unless it has to load a file that asks for a value that cannot be
made, and a load that ends leaves out every scanned file without a recipe. -/
theorem refresh_leavesOut (place : Place) (force : Bool) (c : Catalog) :
  ((∃ c', (refresh .delivered place force c).value = .ok c')
      ↔ ((force || c.needsLoad place) = true → ∀ path ∈ files place c.options,
        ¬ AsksForNoValue place c.options.sizeLimit path))
    ∧ ∀ c', (force || c.needsLoad place) = true →
      (refresh .delivered place force c).value = .ok c' → ∀ path ∈ files place c.options,
        (∀ recipe, ¬ Holds place c.options path recipe) → LeavesOut place path c'
  := by
  constructor
  · rw [exists_refresh_iff Registries.cover_delivered]
    simp only [Readable, ← endsLoad_iff_asksForNoValue, Bool.not_eq_true]
  · intro c' hneeds h path hpath hnone
    rw [refresh, if_pos hneeds] at h
    obtain ⟨contents, hload, rfl⟩ := exists_of_map_eq_ok h
    apply leavesOut_of_load hload hpath hnone

theorem refresh_leavesOut_threeFiles :
  ∃ c', (refresh .delivered threeFiles true threeFilesCatalog).value = .ok c'
    ∧ LeavesOut threeFiles "/recipes/c.json" c'
  := by
  obtain ⟨hends, hleaves⟩ := refresh_leavesOut threeFiles true threeFilesCatalog
  have hreadable : Readable threeFiles 100 (files threeFiles threeFilesCatalog.options) := by
    rw [files_threeFiles]
    decide +kernel
  obtain ⟨c', hc'⟩ := hends.mpr (fun _ path hpath hasks => by
    have hpathEnds := endsLoad_iff_asksForNoValue.mpr hasks
    cases (hreadable path hpath).symm.trans hpathEnds)
  use c', hc'
  apply hleaves c' rfl hc' "/recipes/c.json"
  · rw [files_threeFiles]
    decide
  · rintro recipe ⟨-, hread⟩
    have hnone : (read threeFiles 100 "/recipes/c.json").toOption.isNone := by decide +kernel
    have hsome : (read threeFiles 100 "/recipes/c.json").toOption = some recipe := by
      rw [show read threeFiles 100 "/recipes/c.json" = .ok recipe from hread]
      rfl
    rw [hsome] at hnone
    cases hnone

/-- A folder with a recipe and a document with a date in a thirteenth month. -/
def badDate : Place where
  tree := {
    files := [
      (["recipes", "bad.yaml"], ⟨asciiBytes "id: Bad\nversion: 2024-13-01\n", 1⟩),
      (["recipes", "good.yaml"], ⟨asciiBytes "id: Good\n", 2⟩)]
    directories := [["recipes"]] }
  cwd := []
  home := "/"

/-- The document with the date keeps the catalog from being loaded, and the recipe with it. -/
theorem not_exists_refresh_badDate :
  "/recipes/bad.yaml" ∈ files badDate threeFilesCatalog.options
    ∧ ¬ ∃ c', (refresh .delivered badDate true threeFilesCatalog).value = .ok c'
  := by
  have hscan : "/recipes/bad.yaml" ∈ threeFilesCatalog.options.paths.flatMap
      (badDate.recipeFilesBelow threeFilesCatalog.options.recursive) := by decide +kernel
  have hmem : "/recipes/bad.yaml" ∈ files badDate threeFilesCatalog.options := by
    rw [files, Place.recipeFiles, List.mem_mergeSort]
    exact hscan
  use hmem
  rw [exists_refresh_iff Registries.cover_delivered]
  intro h
  have hreadable := h rfl "/recipes/bad.yaml" hmem
  revert hreadable
  decide +kernel

end DeploymentRecipes.Catalog
