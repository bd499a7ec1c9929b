import DeploymentRecipes.Proofs.Catalog.Loading

/-!
# Freshness

Contents are up to date if the same files are scanned as when they were loaded, each with its time.
Two loads of the same files come to the same, provided that no file is scanned more often in one of
them: the diagnostics of a load tell how often each file was scanned.
-/

namespace DeploymentRecipes.Catalog

variable {registries : Registries} {place past : Place} {o o' : CatalogOptions}

/-! ### Loads of the same files -/

/-- The same scanned files come to the same load. -/
theorem load_congr (hstrict : o'.strict = o.strict) (hlimit : o'.sizeLimit = o.sizeLimit)
    (hfiles : files place o' = files past o)
    (halike : ReadAlike place past (files past o)) :
  load registries place o' = load registries past o
  := by
  have hread : ∀ paths : List String, (∀ path ∈ paths, place.file? path = past.file? path) →
      readAll place o.sizeLimit paths = readAll past o.sizeLimit paths := by
    intro paths
    induction paths with
    | nil => intro _; rfl
    | cons path paths ih =>
        intro h
        rw [List.forall_mem_cons] at h
        rw [readAll, readAll, halike.tools, h.1, ih h.2]
  have htimes : (files past o).map (fun p => (p, timeOf place p))
      = (files past o).map fun p => (p, timeOf past p) := by
    apply List.map_congr_left
    intro path hpath
    rw [timeOf, timeOf, halike.file path hpath]
  rw [load, load, hstrict, hlimit, hfiles, hread _ halike.file]
  simp only [htimes]

/-! ### How often a file is scanned -/

/-- A file that holds a recipe is listed for the id as often as it is scanned. -/
theorem count_filesWith {limit : Int} {path : String} {recipe : Recipe}
    (h : read place limit path = .ok recipe) (paths : List String) :
  (Found.filesWith (paths.filterMap (foundAt place limit)) recipe.id).count path = paths.count path
  := by
  induction paths with
  | nil => rfl
  | cons p paths ih =>
      by_cases hp : p = path
      · subst hp
        have hfound : foundAt place limit p = some ⟨p, recipe⟩ := foundAt_eq_some_iff.mpr ⟨rfl, h⟩
        rw [List.filterMap_cons_some hfound, Found.filesWith, List.filter_cons_of_pos (by simp),
          List.map_cons, List.count_cons_self, List.count_cons_self, ← Found.filesWith, ih]
      · rw [List.count_cons_of_ne hp, ← ih]
        cases hfound : foundAt place limit p with
        | none => rw [List.filterMap_cons_none hfound]
        | some f =>
            have hfile := (foundAt_eq_some_iff.mp hfound).1
            rw [List.filterMap_cons_some hfound, Found.filesWith, List.filter_cons]
            split
            · rw [List.map_cons, List.count_cons_of_ne (by rwa [hfile]), ← Found.filesWith]
            · rw [← Found.filesWith]

/-- The diagnostics of a load tell which ids are repeated, and in which files. -/
theorem exists_mem_diagnostics_iff {contents : CatalogContents}
    (h : (load registries place o).value = .ok contents) {id : String} {fs : List String} :
  (∃ file, ⟨file, .repeatedId id fs⟩ ∈ contents.diagnostics)
    ↔ Found.isRepeated (foundIn place o) id = true ∧ fs = Found.filesWith (foundIn place o) id
  := by
  obtain ⟨-, each, heach, rfl⟩ := exists_outcome_of_load h
  obtain ⟨-, -, hreviews⟩ := Found.publishEach_eq_ok heach
  rw [← Found.exists_mem_repeatedIds_iff]
  apply exists_congr
  intro file
  rw [List.mem_append, List.mem_append]
  constructor
  · rintro (hmem | hmem | hmem)
    · obtain ⟨path, -, htrouble⟩ := List.mem_filterMap.mp hmem
      obtain ⟨-, hread⟩ := troubleAt_eq_some_iff.mp htrouble
      cases (readsUnless_read place o.sizeLimit path).ne_repeatedId id fs hread
    · exact hmem
    · obtain ⟨f, -, r, hreview, hd⟩ := hreviews _ hmem
      cases Found.cause_ne_of_mem_diagnostics hreview hd id fs rfl
  · intro hmem
    exact Or.inr (Or.inl hmem)

/-- If the same ids are repeated, in the same files, then a file that has a recipe of some id has it
equally often. -/
theorem count_filesWith_eq {found found' : List Found} {id path : String}
    (h : ∀ fs, Found.isRepeated found' id = true ∧ fs = Found.filesWith found' id
      ↔ Found.isRepeated found id = true ∧ fs = Found.filesWith found id)
    (hpath : path ∈ Found.filesWith found id) (hpath' : path ∈ Found.filesWith found' id) :
  (Found.filesWith found' id).count path = (Found.filesWith found id).count path
  := by
  cases hrepeated : Found.isRepeated found id with
  | true =>
      obtain ⟨-, hfiles⟩ := (h _).mpr ⟨hrepeated, rfl⟩
      rw [hfiles]
  | false =>
      -- Then neither list has more than one file.
      have hrepeated' : Found.isRepeated found' id = false := by
        by_contra hne
        obtain ⟨htrue, -⟩ := (h _).mp ⟨Bool.eq_true_of_not_eq_false hne, rfl⟩
        rw [hrepeated] at htrue
        cases htrue
      rw [Found.isRepeated, decide_eq_false_iff_not] at hrepeated hrepeated'
      have hpos := List.count_pos_iff.mpr hpath
      have hpos' := List.count_pos_iff.mpr hpath'
      have hle : (Found.filesWith found id).count path ≤ _ := List.count_le_length
      have hle' : (Found.filesWith found' id).count path ≤ _ := List.count_le_length
      omega

/-- Two loads with the same diagnostics have scanned a file equally often if it is the same in both. -/
theorem count_files_eq {contents contents' : CatalogContents}
    (hlimit : o'.sizeLimit = o.sizeLimit) (h : (load registries past o).value = .ok contents)
    (h' : (load registries place o').value = .ok contents')
    (hdiagnostics : contents'.diagnostics = contents.diagnostics) {path : String}
    (halike : ReadAlike place past (files past o)) (hpath : path ∈ files past o)
    (hpath' : path ∈ files place o') :
  (files place o').count path = (files past o).count path
  := by
  have hsame : read place o'.sizeLimit path = read past o.sizeLimit path := by
    rw [hlimit, halike.read_eq hpath]
  cases hread : read past o.sizeLimit path with
  | error trouble =>
      cases trouble with
      | fatal e =>
          have hends := (loaded_of_load h).readable path hpath
          rw [endsLoad, hread] at hends
          cases hends
      | reported cause =>
          have hreported := filter_diagnostics_of_load h hread
          have hreported' := filter_diagnostics_of_load h' (hsame.trans hread)
          rw [hdiagnostics, hreported] at hreported'
          simpa using (congrArg List.length hreported').symm
  | ok recipe =>
      have hread' := hsame.trans hread
      rw [← count_filesWith hread' (files place o'), ← count_filesWith hread (files past o),
        ← foundIn, ← foundIn]
      apply count_filesWith_eq
      · intro fs
        rw [← exists_mem_diagnostics_iff h', ← exists_mem_diagnostics_iff h, hdiagnostics]
      · apply Found.mem_filesWith_iff.mpr
        exact ⟨⟨path, recipe⟩, mem_foundIn_iff.mpr ⟨hpath, hread⟩, rfl, rfl⟩
      · apply Found.mem_filesWith_iff.mpr
        exact ⟨⟨path, recipe⟩, mem_foundIn_iff.mpr ⟨hpath', hread'⟩, rfl, rfl⟩

/-- Two loads with the same diagnostics have scanned the same files, each equally often, if they have
scanned the same files at all and no file has changed. -/
theorem files_eq_of_diagnostics_eq {contents contents' : CatalogContents}
    (hlimit : o'.sizeLimit = o.sizeLimit) (h : (load registries past o).value = .ok contents)
    (h' : (load registries place o').value = .ok contents')
    (hdiagnostics : contents'.diagnostics = contents.diagnostics)
    (hmem : ∀ path, path ∈ files place o' ↔ path ∈ files past o)
    (halike : ReadAlike place past (files past o)) :
  files place o' = files past o
  := by
  apply files_eq_of_count
  intro path
  by_cases hpath : path ∈ files past o
  · apply count_files_eq hlimit h h' hdiagnostics halike hpath ((hmem path).mpr hpath)
  · rw [List.count_eq_zero_of_not_mem hpath, List.count_eq_zero_of_not_mem (mt (hmem path).mp hpath)]

/-! ### Stale contents -/

/-- Contents are up to date if the files that they were loaded from are scanned again, each with its
time, and no others. -/
theorem isStale_eq_false_iff {contents : CatalogContents}
    (h : (load registries past o).value = .ok contents) :
  isStale place o contents = false ↔ (∀ path, path ∈ files place o ↔ path ∈ files past o)
    ∧ ∀ path ∈ files past o, timeOf place path = timeOf past path
  := by
  rw [isStale, (loaded_of_load h).times]
  simp only [Bool.not_eq_false', Bool.and_eq_true, List.all_eq_true, List.contains_iff_mem]
  rw [List.forall_mem_map, List.forall_mem_map]
  simp only [List.mem_map, Prod.mk.injEq]
  constructor
  · rintro ⟨hnow, hthen⟩
    have htime : ∀ path ∈ files past o, path ∈ files place o ∧ timeOf place path = timeOf past path := by
      intro path hpath
      obtain ⟨_, hmem, rfl, htime⟩ := hthen path hpath
      exact ⟨hmem, htime⟩
    refine ⟨fun path => ⟨?_, fun hpath => (htime path hpath).1⟩, fun path hpath => (htime path hpath).2⟩
    intro hpath
    obtain ⟨_, hmem, rfl, -⟩ := hnow path hpath
    exact hmem
  · rintro ⟨hmem, htime⟩
    refine ⟨fun path hpath => ?_, fun path hpath => ?_⟩
    · have hpath' := (hmem path).mp hpath
      exact ⟨path, hpath', rfl, (htime path hpath').symm⟩
    · exact ⟨path, (hmem path).mpr hpath, rfl, htime path hpath⟩

theorem exists_file_of_mem_files {path : String} (h : path ∈ files place o) :
  ∃ file, place.file? path = some file
  := by
  have hfile := (Bool.and_eq_true_iff.mp (isRecipeFile_of_mem_files h)).2
  obtain ⟨names, hnames, hfile⟩ := Place.isFile_iff.mp hfile
  rw [Place.file?, FileTree.fileAt?, hnames]
  exact Option.isSome_iff_exists.mp hfile

end DeploymentRecipes.Catalog
