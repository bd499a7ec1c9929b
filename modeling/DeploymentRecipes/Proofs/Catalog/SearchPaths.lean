import DeploymentRecipes.Proofs.Catalog.Session

/-!
# Search paths

A catalog looks for recipes below a list of directories.  The order of the list does not matter, but
how many of them lead to a file does: a file is scanned once for each of them, and the recipe in a
file that is scanned twice is taken for two recipes with one id.
-/

namespace DeploymentRecipes.Catalog

variable {registries : Registries} {place : Place} {o : CatalogOptions} {roots roots' : List String}

/-- The options with other directories to look in. -/
def withPaths (o : CatalogOptions) (roots : List String) : CatalogOptions := { o with paths := roots }

/-- The files below some directories. -/
abbrev scan (place : Place) (o : CatalogOptions) (roots : List String) : List String :=
  files place (withPaths o roots)

/-- What a new catalog shows of the recipes below some directories. -/
def shown (registries : Registries) (place : Place) (o : CatalogOptions) (roots : List String) :
    Except LoadError (List Recipe × List Diagnostic) :=
  (refresh registries place true (ofOptions (withPaths o roots))).value.map snapshot

/-- A file gives a recipe with an id. -/
def Defines (place : Place) (o : CatalogOptions) (id file : String) : Prop :=
  ∃ recipe : Recipe, Holds place o file recipe ∧ recipe.id = id

theorem defines_iff {id file : String} :
  Defines place o id file
    ↔ file ∈ files place o ∧ (foundAt place o.sizeLimit file).map (·.recipe.id) = some id
  := by
  rw [Option.map_eq_some_iff]
  constructor
  · rintro ⟨recipe, ⟨hfile, hread⟩, hid⟩
    exact ⟨hfile, ⟨file, recipe⟩, foundAt_eq_some_iff.mpr ⟨rfl, hread⟩, hid⟩
  · rintro ⟨hfile, f, hfound, hid⟩
    exact ⟨f.recipe, ⟨hfile, (foundAt_eq_some_iff.mp hfound).2⟩, hid⟩

/-! ### Scans -/

theorem mem_scan_iff {path : String} :
  path ∈ scan place o roots ↔ ∃ root ∈ roots, path ∈ place.recipeFilesBelow o.recursive root
  := mem_files_iff

/-- The files below one more directory come to those that are scanned. -/
theorem scan_cons_perm (root : String) :
  (scan place o (root :: roots)).Perm (place.recipeFilesBelow o.recursive root ++ scan place o roots)
  := by
  rw [scan, files, Place.recipeFiles, withPaths, List.flatMap_cons]
  apply (List.mergeSort_perm _ _).trans
  apply (List.mergeSort_perm _ _).symm.append_left

theorem scan_eq_of_perm (h : (scan place o roots).Perm (scan place o roots')) :
  scan place o roots = scan place o roots'
  := files_eq_of_count fun path => h.count_eq path

/-- The order of the directories does not matter. -/
theorem scan_perm (h : roots.Perm roots') :
  scan place o roots = scan place o roots'
  := by
  apply scan_eq_of_perm
  apply (List.mergeSort_perm _ _).trans
  apply (h.flatMap_right _).trans
  apply (List.mergeSort_perm _ _).symm

/-- If no file is found twice, it only matters which files are found. -/
theorem scan_eq_of_nodup (hnodup : (scan place o roots).Nodup) (hnodup' : (scan place o roots').Nodup)
    (hmem : ∀ path, path ∈ scan place o roots ↔ path ∈ scan place o roots') :
  scan place o roots = scan place o roots'
  := by
  apply scan_eq_of_perm
  apply (List.perm_ext_iff_of_nodup hnodup hnodup').mpr hmem

/-! ### What is shown -/

theorem shown_eq (registries : Registries) (place : Place) (o : CatalogOptions)
    (roots : List String) :
  shown registries place o roots = (load registries place (withPaths o roots)).value.map
    fun contents => (contents.recipes, contents.diagnostics)
  := Session.freshAnswer_eq registries (.start place (withPaths o roots))

/-- Whatever a catalog has shown before, a load that is forced shows what a new one shows. -/
theorem shown_of_force {c : Catalog} (h : c.options = withPaths o roots) :
  (refresh registries place true c).value.map snapshot = shown registries place o roots
  := by
  rw [shown_eq, refresh, Bool.true_or, if_pos rfl, h]
  dsimp only
  cases (load registries place (withPaths o roots)).value <;> rfl

theorem shown_congr (h : scan place o roots = scan place o roots') :
  shown registries place o roots = shown registries place o roots'
  := by
  have hload : load registries place (withPaths o roots) = load registries place (withPaths o roots') :=
    load_congr rfl rfl h (.refl place _)
  rw [shown_eq, shown_eq, hload]

/-- What cannot be read to its end fails in the same way however often its files are found. -/
theorem shown_eq_of_not_readable (hmem : ∀ path, path ∈ scan place o roots ↔ path ∈ scan place o roots')
    (h : ¬ Readable place o.sizeLimit (scan place o roots)) :
  shown registries place o roots = shown registries place o roots'
  := by
  cases hread : readAll place o.sizeLimit (scan place o roots) with
  | ok r => cases h (readAll_eq_ok_iff.mp hread).1
  | error e =>
      have hread' : readAll place o.sizeLimit (scan place o roots') = .error e := by
        rw [readAll_eq_error_iff (pairwise_files place _)] at hread ⊢
        simpa only [hmem] using hread
      have hload : (load registries place (withPaths o roots)).value = .error e :=
        load_eq_error hread
      have hload' : (load registries place (withPaths o roots')).value = .error e :=
        load_eq_error hread'
      rw [shown_eq, shown_eq, hload, hload']

/-- Where the same files are found, the same is shown just when each is found equally often, or the
files cannot be read to the end. -/
theorem shown_eq_iff (hcover : registries.Cover)
    (hmem : ∀ path, path ∈ scan place o roots ↔ path ∈ scan place o roots') :
  shown registries place o roots = shown registries place o roots'
    ↔ scan place o roots = scan place o roots' ∨ ¬ Readable place o.sizeLimit (scan place o roots)
  := by
  by_cases hreadable : Readable place o.sizeLimit (scan place o roots)
  · have hreadable' : Readable place o.sizeLimit (scan place o roots') := by
      intro path hpath
      apply hreadable path ((hmem path).mpr hpath)
    obtain ⟨contents, hload⟩ := (exists_load_iff hcover).mpr hreadable
    obtain ⟨contents', hload'⟩ := (exists_load_iff hcover).mpr hreadable'
    constructor
    · intro heq
      left
      rw [shown_eq, shown_eq, hload, hload'] at heq
      have hdiagnostics := (Prod.mk.inj (Except.ok.inj heq)).2
      have hlimit : (withPaths o roots).sizeLimit = (withPaths o roots').sizeLimit := rfl
      apply files_eq_of_diagnostics_eq hlimit hload' hload hdiagnostics hmem (.refl place _)
    · rintro (hscan | hnot)
      · apply shown_congr hscan
      · cases hnot hreadable
  · simp [hreadable, shown_eq_of_not_readable hmem hreadable]

/-- A directory with files that are found anyway changes nothing only if it has none. -/
theorem shown_cons_eq_iff (hcover : registries.Cover) {root : String}
    (hfound : ∀ path ∈ place.recipeFilesBelow o.recursive root, path ∈ scan place o roots) :
  shown registries place o (root :: roots) = shown registries place o roots
    ↔ place.recipeFilesBelow o.recursive root = []
      ∨ ¬ Readable place o.sizeLimit (scan place o roots)
  := by
  have hmem : ∀ path, path ∈ scan place o (root :: roots) ↔ path ∈ scan place o roots := by
    intro path
    rw [(scan_cons_perm root).mem_iff, List.mem_append]
    exact ⟨fun h => h.elim (hfound path) id, Or.inr⟩
  have hreadable : Readable place o.sizeLimit (scan place o (root :: roots))
      ↔ Readable place o.sizeLimit (scan place o roots) := by
    simp only [Readable, hmem]
  rw [shown_eq_iff hcover hmem, hreadable]
  apply or_congr_left
  constructor
  · intro hscan
    have hperm : (scan place o (root :: roots)).Perm
        (place.recipeFilesBelow o.recursive root ++ scan place o roots) := scan_cons_perm root
    have hlength := hperm.length_eq
    rw [hscan, List.length_append] at hlength
    apply List.eq_nil_of_length_eq_zero
    omega
  · intro hnil
    apply scan_eq_of_perm
    apply (scan_cons_perm root).trans
    rw [hnil, List.nil_append]

/-! ### Repeated ids -/

/-- An id is repeated if two files define it, or one that is scanned more than once. -/
theorem isRepeated_foundIn_iff {id : String} :
  Found.isRepeated (foundIn place o) id = true ↔ ∃ file, Defines place o id file
    ∧ ((∃ file', file' ≠ file ∧ Defines place o id file') ∨ 1 < (files place o).count file)
  := by
  have hmem : ∀ file, file ∈ Found.filesWith (foundIn place o) id ↔ Defines place o id file := by
    intro file
    rw [Found.mem_filesWith_iff, Defines]
    constructor
    · rintro ⟨f, hf, hid, rfl⟩
      exact ⟨f.recipe, mem_foundIn_iff.mp hf, hid⟩
    · rintro ⟨recipe, hholds, hid⟩
      exact ⟨⟨file, recipe⟩, mem_foundIn_iff.mpr hholds, hid, rfl⟩
  have hcount : ∀ file, Defines place o id file →
      (Found.filesWith (foundIn place o) id).count file = (files place o).count file := by
    rintro file ⟨recipe, ⟨-, hread⟩, rfl⟩
    apply count_filesWith hread
  rw [Found.isRepeated, decide_eq_true_iff, one_lt_length_iff]
  simp only [hmem]
  apply exists_congr
  intro file
  apply and_congr_right
  intro hdefines
  rw [hcount file hdefines]
  simp only [and_comm]

/-- A diagnostic says that an id is repeated. -/
def Reports (diagnostics : List Diagnostic) (id : String) : Prop :=
  ∃ file fs, ⟨file, .repeatedId id fs⟩ ∈ diagnostics

/-- The ids that are reported as repeated are so, and no recipe with one of them is published. -/
theorem reports_of_shown {recipes : List Recipe} {diagnostics : List Diagnostic}
    (h : shown registries place o roots = .ok (recipes, diagnostics)) (id : String) :
  (Reports diagnostics id ↔ Found.isRepeated (foundIn place (withPaths o roots)) id = true)
    ∧ (Reports diagnostics id → ∀ recipe ∈ recipes, recipe.id ≠ id)
  := by
  rw [shown_eq] at h
  obtain ⟨contents, hload, hshown⟩ := exists_of_map_eq_ok h
  obtain ⟨rfl, rfl⟩ := Prod.mk.inj hshown
  have hreports : Reports contents.diagnostics id
      ↔ Found.isRepeated (foundIn place (withPaths o roots)) id = true := by
    rw [Reports, exists_comm]
    simp only [exists_mem_diagnostics_iff hload, exists_and_left, exists_eq, and_true]
  use hreports
  rintro hid recipe hrecipe rfl
  rw [(loaded_of_load hload).recipes, List.mem_map] at hrecipe
  obtain ⟨f, hf, rfl⟩ := hrecipe
  have hsingle := (List.mem_filter.mp (List.mem_filter.mp hf).1).2
  rw [hreports.mp hid] at hsingle
  cases hsingle

/-- How what a catalog shows after a forced load depends on the directories in which it looks. What it
has shown before and the order of the directories do not matter. If other directories lead to the same
files, then the same is shown just when they lead to each file equally often, or when a file ends the
load. So nothing changes as long as no file is found twice, but one more directory with files that are
found anyway does change something. An id is reported, and no recipe with it is shown, just when two
files define it or when one does that is found more than once. -/
theorem shown_searchPaths (hcover : registries.Cover) (place : Place) (o : CatalogOptions)
    (roots : List String) :
  (∀ c : Catalog, c.options = withPaths o roots →
      (refresh registries place true c).value.map snapshot = shown registries place o roots)
    ∧ (∀ roots', roots'.Perm roots →
      shown registries place o roots' = shown registries place o roots)
    ∧ (∀ roots', (∀ path, path ∈ scan place o roots' ↔ path ∈ scan place o roots) →
      (shown registries place o roots' = shown registries place o roots
          ↔ scan place o roots' = scan place o roots
            ∨ ¬ Readable place o.sizeLimit (scan place o roots))
        ∧ ((scan place o roots').Nodup → (scan place o roots).Nodup →
          shown registries place o roots' = shown registries place o roots))
    ∧ (∀ root, (∀ path ∈ place.recipeFilesBelow o.recursive root, path ∈ scan place o roots) →
      (shown registries place o (root :: roots) = shown registries place o roots
        ↔ place.recipeFilesBelow o.recursive root = []
          ∨ ¬ Readable place o.sizeLimit (scan place o roots)))
    ∧ ∀ recipes diagnostics, shown registries place o roots = .ok (recipes, diagnostics) →
      ∀ id, (Reports diagnostics id ↔ ∃ file, Defines place (withPaths o roots) id file
          ∧ ((∃ file', file' ≠ file ∧ Defines place (withPaths o roots) id file')
            ∨ 1 < (scan place o roots).count file))
        ∧ (Reports diagnostics id → ∀ recipe ∈ recipes, recipe.id ≠ id)
  := by
  refine ⟨fun _ => shown_of_force, fun _ hperm => shown_congr (scan_perm hperm), ?_,
    fun _ => shown_cons_eq_iff hcover, ?_⟩
  · intro roots' hmem
    constructor
    · have hreadable : Readable place o.sizeLimit (scan place o roots')
          ↔ Readable place o.sizeLimit (scan place o roots) := by
        simp only [Readable, hmem]
      rw [shown_eq_iff hcover hmem, hreadable]
    · intro hnodup' hnodup
      apply shown_congr (scan_eq_of_nodup hnodup' hnodup hmem)
  · intro recipes diagnostics h id
    obtain ⟨hreports, hothers⟩ := reports_of_shown h id
    exact ⟨hreports.trans isRepeated_foundIn_iff, hothers⟩

/-! ### A folder that is named twice -/

theorem scan_threeFiles :
  scan threeFiles threeFilesCatalog.options ["/recipes"]
    = ["/recipes/a.json", "/recipes/b.json", "/recipes/c.json"]
  := files_threeFiles

theorem readable_threeFiles :
  Readable threeFiles 100 (scan threeFiles threeFilesCatalog.options ["/recipes"])
  := by
  rw [scan_threeFiles]
  decide

/-- A folder that does not exist changes nothing. -/
theorem shown_searchPaths_threeFiles :
  Registries.delivered.Cover
    ∧ shown .delivered threeFiles threeFilesCatalog.options ["/missing", "/recipes"]
      = shown .delivered threeFiles threeFilesCatalog.options ["/recipes"]
  := by
  have hnone : threeFiles.recipeFilesBelow threeFilesCatalog.options.recursive "/missing" = [] := by
    decide
  use Registries.cover_delivered
  obtain ⟨-, -, -, hcons, -⟩ := shown_searchPaths Registries.cover_delivered threeFiles
    threeFilesCatalog.options ["/recipes"]
  apply (hcons "/missing" _).mpr (.inl hnone)
  rw [hnone]
  simp

theorem defines_threeFiles_iff {roots : List String} {file : String}
    (hroots : ∀ path, path ∈ scan threeFiles threeFilesCatalog.options roots
      ↔ path ∈ scan threeFiles threeFilesCatalog.options ["/recipes"]) :
  Defines threeFiles (withPaths threeFilesCatalog.options roots) "a" file
    ↔ file = "/recipes/a.json"
  := by
  have ha : (foundAt threeFiles 100 "/recipes/a.json").map (·.recipe.id) = some "a" := by
    decide
  have hb : (foundAt threeFiles 100 "/recipes/b.json").map (·.recipe.id) = some "b" := by
    decide
  have hc : (foundAt threeFiles 100 "/recipes/c.json").map (·.recipe.id) = none := by
    decide
  rw [defines_iff, hroots, scan_threeFiles]
  change _ ∧ (foundAt threeFiles 100 file).map (·.recipe.id) = some "a" ↔ _
  simp only [List.mem_cons, List.not_mem_nil, or_false]
  constructor
  · rintro ⟨rfl | rfl | rfl, hid⟩
    · rfl
    · simp [hb] at hid
    · simp [hc] at hid
  · rintro rfl
    exact ⟨.inl rfl, ha⟩

/-- A folder that is named twice leads to the same files as before, and yet what is shown changes: the
recipe in one of them is reported as repeated. -/
theorem shown_ne_shown_threeFiles :
  let o := threeFilesCatalog.options
  (∀ path, path ∈ scan threeFiles o ["/recipes", "/recipes"] ↔ path ∈ scan threeFiles o ["/recipes"])
    ∧ shown .delivered threeFiles o ["/recipes", "/recipes"]
      ≠ shown .delivered threeFiles o ["/recipes"]
    ∧ ∃ recipes diagnostics,
      shown .delivered threeFiles o ["/recipes", "/recipes"] = .ok (recipes, diagnostics)
        ∧ Reports diagnostics "a" ∧ ∀ file,
          Defines threeFiles (withPaths o ["/recipes", "/recipes"]) "a" file
            ↔ file = "/recipes/a.json"
  := by
  intro o
  have hbelow : "/recipes/a.json" ∈ threeFiles.recipeFilesBelow o.recursive "/recipes" := by
    have hscan : "/recipes/a.json" ∈ scan threeFiles o ["/recipes"] := by
      rw [scan_threeFiles]
      apply List.mem_cons_self
    simpa [mem_scan_iff] using hscan
  have hfound : ∀ path ∈ threeFiles.recipeFilesBelow o.recursive "/recipes",
      path ∈ scan threeFiles o ["/recipes"] := by
    intro path hpath
    exact mem_scan_iff.mpr ⟨"/recipes", List.mem_cons_self, hpath⟩
  have hmem : ∀ path, path ∈ scan threeFiles o ["/recipes", "/recipes"]
      ↔ path ∈ scan threeFiles o ["/recipes"] := by
    intro path
    simp [mem_scan_iff]
  have hreadable : Readable threeFiles 100 (scan threeFiles o ["/recipes", "/recipes"]) := by
    intro path hpath
    apply readable_threeFiles path ((hmem path).mp hpath)
  obtain ⟨contents, hload⟩ := (exists_load_iff Registries.cover_delivered).mpr hreadable
  have hshown : shown .delivered threeFiles o ["/recipes", "/recipes"]
      = .ok (contents.recipes, contents.diagnostics) := by
    rw [shown_eq, hload]
    rfl
  have hdefines : ∀ file, Defines threeFiles (withPaths o ["/recipes", "/recipes"]) "a" file
      ↔ file = "/recipes/a.json" := fun _ => defines_threeFiles_iff hmem
  refine ⟨hmem, ?_, contents.recipes, contents.diagnostics, hshown, ?_, hdefines⟩
  · rw [Ne, shown_cons_eq_iff Registries.cover_delivered hfound, not_or, not_not]
    exact ⟨List.ne_nil_of_mem hbelow, readable_threeFiles⟩
  · rw [(reports_of_shown hshown "a").1, isRepeated_foundIn_iff]
    use "/recipes/a.json", (hdefines _).mpr rfl
    right
    have hpos := List.count_pos_iff.mpr hbelow
    have hpos' := List.count_pos_iff.mpr (hfound _ hbelow)
    rw [(scan_cons_perm _).count_eq, List.count_append]
    omega

end DeploymentRecipes.Catalog
