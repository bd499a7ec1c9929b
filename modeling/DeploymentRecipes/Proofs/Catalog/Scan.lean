import DeploymentRecipes.Catalog.Basic
import DeploymentRecipes.Proofs.File.Search
import Mathlib.Data.List.Count
import Mathlib.Data.List.Sort

/-!
# Scans

If no path of a catalog holds a wildcard, then a scan lists a recipe file once for each path that it
lies below.  That can be told from its own path, so two scans that list the same files list them
equally often, whatever else has come and gone between them.
-/

namespace DeploymentRecipes

namespace Place

variable {place : Place} {recursive : Bool} {root path : String}

/-- A path leads to a file below a directory through visible names, directly unless the search is
recursive. -/
def LiesBelow (recursive : Bool) (root path : String) : Prop :=
  ∃ above name, (recursive = false → above = []) ∧ (∀ n ∈ above ++ [name], IsVisible n)
    ∧ path = Path.under root (above ++ [name])

/-- A scan finds just the recipe files that lie below the directories that its root stands for, and
none unless the root is a directory itself. -/
theorem mem_recipeFilesBelow_iff (h : place.tree.WellFormed) (hroot : Path.IsNormal root) :
  path ∈ place.recipeFilesBelow recursive root
    ↔ place.isDirectory root = true ∧ place.isRecipeFile path = true
      ∧ ∃ dir ∈ place.directoriesLike recursive root, LiesBelow recursive dir path
  := by
  rw [recipeFilesBelow]
  by_cases hdirectory : place.isDirectory root = true
  · rw [if_pos hdirectory, search_eq_flatMap, List.mem_filter, List.mem_flatMap]
    constructor
    · rintro ⟨⟨dir, hdir, hpath⟩, hrecipe⟩
      exact ⟨hdirectory, hrecipe, dir, hdir, exists_under_of_mem_searchBelow h hpath⟩
    · rintro ⟨-, hrecipe, dir, hdir, above, name, habove, hvisible, rfl⟩
      have hne := ne_empty_of_mem_directoriesLike hroot hdir
      have hfile := (Bool.and_eq_true_iff.mp hrecipe).2
      exact ⟨⟨dir, hdir, mem_searchBelow_of_isFile hne habove hvisible hfile⟩, hrecipe⟩
  · simp [hdirectory]

/-- A scan below a plain directory finds just the recipe files that lie below it. -/
theorem mem_recipeFilesBelow_iff_of_isPlain (h : place.tree.WellFormed) (hroot : IsPlain root) :
  path ∈ place.recipeFilesBelow recursive root
    ↔ place.isRecipeFile path = true ∧ LiesBelow recursive root path
  := by
  simp only [mem_recipeFilesBelow_iff h hroot.normal, directoriesLike_of_isPlain hroot,
    List.mem_singleton, exists_eq_left]
  rw [and_iff_right_of_imp]
  rintro ⟨hrecipe, above, name, -, hvisible, rfl⟩
  have hfile := (Bool.and_eq_true_iff.mp hrecipe).2
  apply isDirectory_of_isFile_under hroot.normal.ne_empty hvisible hfile

theorem nodup_recipeFilesBelow (h : place.tree.WellFormed) (hroot : IsPlain root) :
  (place.recipeFilesBelow recursive root).Nodup
  := by
  rw [recipeFilesBelow]
  split
  · apply List.Nodup.sublist List.filter_sublist
    rw [search_eq_flatMap, directoriesLike_of_isPlain hroot, List.flatMap_singleton]
    apply nodup_searchBelow h recursive hroot.normal.ne_empty
  · apply List.nodup_nil

/-- Below a plain directory, a file is found equally often wherever it is a recipe file. -/
theorem count_recipeFilesBelow_eq {past : Place} (h : place.tree.WellFormed)
    (hpast : past.tree.WellFormed) (hroot : IsPlain root) (hrecipe : place.isRecipeFile path = true)
    (hrecipe' : past.isRecipeFile path = true) :
  (place.recipeFilesBelow recursive root).count path
    = (past.recipeFilesBelow recursive root).count path
  := by
  have hmem : path ∈ place.recipeFilesBelow recursive root
      ↔ path ∈ past.recipeFilesBelow recursive root := by
    rw [mem_recipeFilesBelow_iff_of_isPlain h hroot, mem_recipeFilesBelow_iff_of_isPlain hpast hroot,
      hrecipe, hrecipe']
  rw [(nodup_recipeFilesBelow h hroot).count, (nodup_recipeFilesBelow hpast hroot).count]
  simp only [hmem]

end Place

namespace Catalog

variable {place past : Place} {o o' : CatalogOptions}

theorem isNormal_of_mem_paths {request : CatalogRequest} {config : Config} {root : String}
    (h : root ∈ (request.options place.cwdPath config).paths) :
  Path.IsNormal root
  := by
  obtain ⟨path, -, rfl⟩ := List.mem_map.mp h
  have hcwd : Text.startsWith place.cwdPath "/" = true := by
    rw [Text.startsWith_slash_iff, Place.cwdPath]
    simp
  apply Path.isNormal_absolute hcwd path

/-- The paths of a catalog are normal, so they are plain if they hold no wildcard. -/
theorem isPlain_of_mem_paths {request : CatalogRequest} {config : Config} {root : String}
    (h : root ∈ (request.options place.cwdPath config).paths)
    (hwild : NamePattern.isWild root = false) :
  Place.IsPlain root
  := ⟨isNormal_of_mem_paths h, hwild⟩

theorem mem_files_iff {path : String} :
  path ∈ files place o ↔ ∃ root ∈ o.paths, path ∈ place.recipeFilesBelow o.recursive root
  := by
  rw [files, Place.recipeFiles, List.mem_mergeSort, List.mem_flatMap]

theorem isRecipeFile_of_mem_files {path : String} (h : path ∈ files place o) :
  place.isRecipeFile path = true
  := by
  obtain ⟨root, -, hpath⟩ := mem_files_iff.mp h
  rw [Place.recipeFilesBelow] at hpath
  split at hpath
  · apply (List.mem_filter.mp hpath).2
  · cases hpath

/-- Files are scanned in the order of their paths. -/
theorem pairwise_files (place : Place) (o : CatalogOptions) :
  (files place o).Pairwise (· ≤ ·)
  := by
  apply List.pairwise_mergeSort'

/-- Scans that list each file equally often are the same. -/
theorem files_eq_of_count (h : ∀ path, (files place o').count path = (files past o).count path) :
  files place o' = files past o
  := by
  apply List.Perm.eq_of_pairwise _ (pairwise_files place o') (pairwise_files past o)
  · apply List.perm_iff_count.mpr h
  · intro a b _ _ hab hba
    exact le_antisymm hab hba

/-- Two scans that list the same files list them equally often, if no path holds a wildcard. -/
theorem files_eq_of_mem_iff (h : place.tree.WellFormed) (hpast : past.tree.WellFormed)
    (hpaths : ∀ root ∈ o.paths, Place.IsPlain root)
    (hmem : ∀ path, path ∈ files place o ↔ path ∈ files past o) :
  files place o = files past o
  := by
  apply files_eq_of_count
  intro path
  by_cases hpath : path ∈ files past o
  · have hrecipe := isRecipeFile_of_mem_files ((hmem path).mpr hpath)
    have hrecipe' := isRecipeFile_of_mem_files hpath
    rw [files, files, Place.recipeFiles, Place.recipeFiles, (List.mergeSort_perm _ _).count_eq,
      (List.mergeSort_perm _ _).count_eq, List.count_flatMap, List.count_flatMap]
    congr 1
    apply List.map_congr_left
    intro root hroot
    apply Place.count_recipeFilesBelow_eq h hpast (hpaths root hroot) hrecipe hrecipe'
  · rw [List.count_eq_zero_of_not_mem hpath, List.count_eq_zero_of_not_mem (mt (hmem path).mp hpath)]

end Catalog
end DeploymentRecipes
