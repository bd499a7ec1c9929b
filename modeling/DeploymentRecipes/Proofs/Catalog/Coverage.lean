import DeploymentRecipes.Proofs.Catalog.Session

/-!
# What a scan covers

A catalog finds the files with the ending of a recipe that lie below its search paths, on ways without
hidden names.  A search path is read as a name pattern, though, so one that holds a wildcard stands for
all directories that it describes, and it need not describe itself.
-/

namespace DeploymentRecipes

/-! ### Endings -/

namespace DocumentFormat

/-- The ending of a name is that of a recipe file. -/
def IsEndingOf (name : String) : Prop := ∃ e ∈ endings, e.1.toList <:+ name.toList

theorem ofPath?_isSome_iff {path : String} :
  (ofPath? path).isSome = true ↔ IsEndingOf path
  := by
  rw [ofPath?, Option.isSome_map, List.find?_isSome, IsEndingOf]
  simp only [Text.endsWith_iff]

/-- A path has the ending of a recipe file if its last part has it. -/
theorem isEndingOf_join_iff {base name : String} (hbase : base ≠ "") (hname : '/' ∉ name.toList) :
  IsEndingOf (Path.join base name) ↔ IsEndingOf name
  := by
  have hendings : ∀ e ∈ endings, '/' ∉ e.1.toList := by decide
  simp only [IsEndingOf, ← Text.endsWith_iff]
  apply exists_congr
  intro e
  apply and_congr_right
  intro he
  rw [Path.endsWith_join hbase hname (hendings e he)]

end DocumentFormat

namespace Place

variable {place : Place} {recursive : Bool} {dir path : String}

/-- A path leads from a directory to a recipe file below it: the file is in the tree, its name has the
ending of a recipe file, no name on the way is hidden, and there is no directory on the way unless the
search is recursive. -/
structure LeadsToRecipe (place : Place) (recursive : Bool) (dir path : String)
    (here above : Names) (name : String) : Prop where
  start : place.tree.follow? place.cwd dir = some here
  directory : place.tree.isDirectory here = true
  file : place.tree.isFile (here ++ above ++ [name]) = true
  ending : DocumentFormat.IsEndingOf name
  visible : ∀ n ∈ above ++ [name], isHidden n = false
  direct : recursive = false → above = []
  path : path = Path.under dir (above ++ [name])

/-- A path is that of a recipe file below a directory. -/
def HasRecipe (place : Place) (recursive : Bool) (dir path : String) : Prop :=
  ∃ here above name, place.LeadsToRecipe recursive dir path here above name

theorem isEndingOf_under_iff (hdir : dir ≠ "") {above : List String} {name : String}
    (h : ∀ n ∈ above ++ [name], Path.IsPart n) :
  DocumentFormat.IsEndingOf (Path.under dir (above ++ [name])) ↔ DocumentFormat.IsEndingOf name
  := by
  rw [Path.under, List.foldl_append, List.foldl_cons, List.foldl_nil, ← Path.under]
  apply DocumentFormat.isEndingOf_join_iff (Path.under_ne_empty hdir above) (h name (by simp)).2

/-- The recipe files below a directory, by their places in the tree and by their paths. -/
theorem hasRecipe_iff (h : place.tree.WellFormed) (hdir : dir ≠ "") :
  place.HasRecipe recursive dir path ↔ place.isRecipeFile path = true ∧ LiesBelow recursive dir path
  := by
  rw [isRecipeFile, Bool.and_eq_true, DocumentFormat.ofPath?_isSome_iff]
  constructor
  · rintro ⟨here, above, name, hstart, -, hfile, hending, hvisible, hdirect, rfl⟩
    have hnames : ∀ n ∈ above ++ [name], IsVisible n := by
      intro n hn
      rw [List.append_assoc] at hfile
      have hname := h.isName _ (Or.inl hfile) n (List.mem_append_right here hn)
      exact ⟨hname.isPart, hvisible n hn⟩
    refine ⟨⟨?_, ?_⟩, above, name, hdirect, hnames, rfl⟩
    · apply (isEndingOf_under_iff hdir fun n hn => (hnames n hn).isPart).mpr hending
    · rw [List.append_assoc] at hfile
      exact isFile_iff.mpr ⟨_, h.follow?_under hdir hstart (Or.inl hfile), hfile⟩
  · rintro ⟨⟨hending, hfile⟩, above, name, hdirect, hnames, rfl⟩
    obtain ⟨names, hfollow, hfile⟩ := isFile_iff.mp hfile
    obtain ⟨here, hstart, -, hdirectory, -, rfl⟩ := exists_of_follow?_under hdir hnames hfollow
    have hending' := (isEndingOf_under_iff hdir fun n hn => (hnames n hn).isPart).mp hending
    exact ⟨here, above, name, hstart, hdirectory, hfile, hending', fun n hn => (hnames n hn).visible,
      hdirect, rfl⟩

end Place

namespace Catalog

open Place

/-- The files that a catalog scans. They are the recipe files below the directories that its search
paths describe, apart from search paths that are no directories. A search path without a wildcard
describes itself only, so if no search path has one then they are the recipe files below the search
paths. -/
theorem mem_files_iff_hasRecipe {place : Place} (h : place.tree.WellFormed) (request : CatalogRequest)
    (config : Config) :
  let o := request.options place.cwdPath config
  (∀ path, path ∈ files place o ↔ ∃ root ∈ o.paths, place.isDirectory root = true
      ∧ ∃ dir ∈ place.directoriesLike o.recursive root, place.HasRecipe o.recursive dir path)
    ∧ (∀ root ∈ o.paths, NamePattern.isWild root = false →
      place.directoriesLike o.recursive root = [root])
    ∧ ((∀ root ∈ o.paths, NamePattern.isWild root = false) →
      ∀ path, path ∈ files place o ↔ ∃ root ∈ o.paths, place.HasRecipe o.recursive root path)
  := by
  intro o
  have hnormal : ∀ root ∈ o.paths, Path.IsNormal root := fun _ hroot => isNormal_of_mem_paths hroot
  refine ⟨?_, ?_, ?_⟩
  · intro path
    rw [mem_files_iff]
    apply exists_congr
    intro root
    apply and_congr_right
    intro hroot
    rw [mem_recipeFilesBelow_iff h (hnormal root hroot)]
    apply and_congr_right
    intro _
    rw [← exists_and_left]
    apply exists_congr
    intro dir
    rw [and_left_comm]
    apply and_congr_right
    intro hdir
    rw [hasRecipe_iff h (ne_empty_of_mem_directoriesLike (hnormal root hroot) hdir)]
  · intro root hroot hwild
    apply directoriesLike_of_isPlain ⟨hnormal root hroot, hwild⟩
  · intro hwild path
    rw [mem_files_iff]
    apply exists_congr
    intro root
    apply and_congr_right
    intro hroot
    rw [mem_recipeFilesBelow_iff_of_isPlain h ⟨hnormal root hroot, hwild root hroot⟩,
      hasRecipe_iff h (hnormal root hroot).ne_empty]

theorem mem_files_iff_hasRecipe_threeFiles :
  threeFiles.tree.WellFormed
    ∧ (∀ root ∈ (Session.threeFilesRequest.options threeFiles.cwdPath Session.emptyConfig).paths,
      NamePattern.isWild root = false)
    ∧ threeFiles.HasRecipe false "/recipes" "/recipes/c.json"
  := by
  have hwild : ∀ root ∈ (Session.threeFilesRequest.options threeFiles.cwdPath
      Session.emptyConfig).paths, NamePattern.isWild root = false := by decide
  obtain ⟨-, -, hplain⟩ := mem_files_iff_hasRecipe Session.wellFormed_threeFiles
    Session.threeFilesRequest Session.emptyConfig
  refine ⟨Session.wellFormed_threeFiles, hwild, ?_⟩
  have hmem : "/recipes/c.json" ∈ files threeFiles threeFilesCatalog.options := by
    rw [files_threeFiles]
    decide
  obtain ⟨root, hroot, hrecipe⟩ := (hplain hwild "/recipes/c.json").mp hmem
  obtain rfl := List.mem_singleton.mp hroot
  exact hrecipe

/-! ### A search path that describes another directory -/

/-- A folder with brackets in its name, and one that is named like the character in them. -/
def twoFolders : Place where
  tree := {
    files := [
      (["[b]", "y.json"], ⟨asciiBytes r#"{"id": "Y"}"#, 1⟩),
      (["b", "x.json"], ⟨asciiBytes r#"{"id": "X"}"#, 2⟩)]
    directories := [["[b]"], ["b"]] }
  cwd := []
  home := "/"

def twoFoldersOptions : CatalogOptions := ⟨["/[b]"], false, true, 100⟩

/-- The first folder is searched, and the file in the other one is found. -/
theorem not_mem_files_twoFolders :
  let o := twoFoldersOptions
  twoFolders.HasRecipe o.recursive "/[b]" "/[b]/y.json"
    ∧ "/[b]/y.json" ∉ files twoFolders o
    ∧ "/b/x.json" ∈ files twoFolders o
    ∧ ¬ ∃ root ∈ o.paths, twoFolders.HasRecipe o.recursive root "/b/x.json"
  := by
  intro o
  have hscan : o.paths.flatMap (twoFolders.recipeFilesBelow o.recursive) = ["/b/x.json"] := by
    decide
  have hfiles : files twoFolders o = ["/b/x.json"] := by
    rw [files, Place.recipeFiles, hscan, List.mergeSort_singleton]
  have hstart : twoFolders.tree.follow? twoFolders.cwd "/[b]" = some ["[b]"] := by decide
  rw [hfiles]
  refine ⟨?_, by decide, by decide, ?_⟩
  · refine ⟨["[b]"], [], "y.json", hstart, rfl, rfl, ?_, by decide, fun _ => rfl, rfl⟩
    exact DocumentFormat.ofPath?_isSome_iff.mp (by decide)
  · rintro ⟨root, hroot, here, above, name, hlead⟩
    obtain rfl := List.mem_singleton.mp hroot
    obtain rfl := Option.some.inj (hstart.symm.trans hlead.start)
    obtain rfl := hlead.direct rfl
    have hfile := FileTree.isFile_iff.mp hlead.file
    have hpath := hlead.path
    obtain rfl : name = "y.json" := by
      simpa [twoFolders] using hfile
    revert hpath
    decide

end Catalog
end DeploymentRecipes
