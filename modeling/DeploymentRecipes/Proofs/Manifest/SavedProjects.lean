import DeploymentRecipes.Manifest.Update
import DeploymentRecipes.Proofs.File.Relative

/-!
# Saved projects

A manifest keeps the way from its project to a saved directory, and not the directory itself.  The
directory is found again by following the way, and adding it changes nothing else.
-/

namespace DeploymentRecipes.Manifest

variable {exists_ : String → Bool} {cwd target directory : String}

/-- The way that is kept for a directory leads from the project's own directory to it. -/
theorem normalize_join_projectDirectory (hcwd : Text.startsWith cwd "/" = true)
    (hcwdSlashes : Path.leadingSlashes cwd ≠ 2) (htarget : Path.leadingSlashes target ≠ 2)
    (hdirectory : Path.leadingSlashes directory ≠ 2) :
  Path.normalize (Path.join (projectDirectory cwd target)
      (Path.relative (Path.absolute cwd directory) (projectDirectory cwd target)))
    = Path.absolute cwd directory
  := by
  obtain ⟨names, hnames, habsolute⟩ :=
    Path.exists_absolute_eq_under hcwd hcwdSlashes htarget
  obtain ⟨names', hnames', habsolute'⟩ :=
    Path.exists_absolute_eq_under hcwd hcwdSlashes hdirectory
  rw [projectDirectory, habsolute, habsolute',
    Path.directory_under fun name hname => (hnames name hname).isPart]
  apply Path.normalize_join_relative hnames'
  intro name hname
  apply hnames name (List.dropLast_subset names hname)

/-- An existing directory is added by its way, after the directories that are there. -/
theorem addProject_eq (m : Option Manifest) (hexists : exists_ directory = true) :
  addProject exists_ cwd m target directory
    = some ⟨(m.getD empty).deployed, some ((m.bind (·.projects)).getD []
      ++ [⟨some (Path.relative (Path.absolute cwd directory) (projectDirectory cwd target))⟩])⟩
  := by
  rw [addProject, if_pos hexists]
  cases m <;> rfl

/-- A directory that is added to a manifest is found again, after those found before, and the stacks
stay as they are. -/
theorem savedPaths_addProject (m : Option Manifest) (hcwd : Text.startsWith cwd "/" = true)
    (hcwdSlashes : Path.leadingSlashes cwd ≠ 2) (htarget : Path.leadingSlashes target ≠ 2)
    (hdirectory : Path.leadingSlashes directory ≠ 2) (hexists : exists_ directory = true)
    (habsolute : exists_ (Path.absolute cwd directory) = true) :
  ∃ m', addProject exists_ cwd m target directory = some m'
    ∧ savedPaths exists_ cwd (some m') target
      = savedPaths exists_ cwd m target ++ [Path.absolute cwd directory]
    ∧ m'.deployed = (m.getD empty).deployed
  := by
  have hway : given? (some (Path.relative (Path.absolute cwd directory) (projectDirectory cwd target)))
      = some (Path.relative (Path.absolute cwd directory) (projectDirectory cwd target)) := by
    rw [given?, Option.filter_some, if_pos]
    simpa using Path.relative_ne_empty _ _
  have hfound := normalize_join_projectDirectory hcwd hcwdSlashes htarget hdirectory
  refine ⟨_, addProject_eq m hexists, ?_, rfl⟩
  rw [savedPaths, savedPaths, Option.bind_some, Option.getD_some, List.filterMap_append,
    List.map_append, List.filter_append]
  simp [hway, hfound, habsolute]

/-- Only this directory exists, by two of its paths. -/
def isCustom (path : String) : Bool := path == ".././cdk//custom/" || path == "/cdk/custom"

theorem savedPaths_addProject_custom :
  ∃ m', addProject isCustom "/src/../work/" none "App.csproj" ".././cdk//custom/" = some m'
    ∧ m'.projects = some [⟨some "../cdk/custom"⟩]
    ∧ savedPaths isCustom "/src/../work/" (some m') "App.csproj" = ["/cdk/custom"]
    ∧ m'.deployed = some []
  := by
  have hcwd : Text.startsWith "/src/../work/" "/" = true := by decide
  have hslashes : Path.leadingSlashes "/src/../work/" ≠ 2 ∧ Path.leadingSlashes "App.csproj" ≠ 2
      ∧ Path.leadingSlashes ".././cdk//custom/" ≠ 2 := by decide
  have hexists : isCustom ".././cdk//custom/" = true
      ∧ isCustom (Path.absolute "/src/../work/" ".././cdk//custom/") = true := by decide
  obtain ⟨m', hadd, hpaths, hdeployed⟩ := savedPaths_addProject none hcwd hslashes.1 hslashes.2.1
    hslashes.2.2 hexists.1 hexists.2
  refine ⟨m', hadd, ?_, ?_, hdeployed⟩
  · obtain rfl := Option.some.inj hadd
    decide
  · rw [hpaths]
    decide

end DeploymentRecipes.Manifest
