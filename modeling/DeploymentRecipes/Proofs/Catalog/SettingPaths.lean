import DeploymentRecipes.Proofs.Catalog.PlainFile
import DeploymentRecipes.Proofs.Catalog.Session
import DeploymentRecipes.Proofs.Dependency.OfSettings
import Mathlib.Data.List.Permutation

/-!
# Paths of published settings

A catalog publishes no recipe in which siblings share an id, so the settings of a published recipe
have addresses that differ.  Their dotted paths differ too if the addresses can be read off them.
Otherwise two settings may have one path, and then the dependency graph knows only what the later
one depends on: a cycle through the earlier one goes unnoticed.
-/

namespace DeploymentRecipes.Catalog

open Setting Session

/-- How the settings of a published recipe are told apart.  Their addresses differ, and two of them
have one path only if one of the addresses cannot be read.  The nodes of the dependency graph are the
paths, one for each setting just when all paths differ, and of the settings with one path the last
decides what it leads to.  So if all paths differ then each setting has a node with what it depends
on. -/
theorem paths_of_published {registries : Registries} {place : Place} {request : CatalogRequest}
    {config : Config} {steps : List Step} {recipe : Recipe}
    (h : recipe ∈ ((ofRequest place request config).run registries steps).catalog.recipes) :
  let graph := dependencyGraph recipe.settings
  let entries := addresses recipe.settings
  let paths := entries.map fun a => spelling a.1
  (entries.map (·.1)).Nodup
    ∧ (∀ a ∈ entries, ∀ b ∈ entries, IsSpelled a.1 → IsSpelled b.1 →
      spelling a.1 = spelling b.1 → a = b)
    ∧ ((∀ a ∈ entries, IsSpelled a.1) → paths.Nodup)
    ∧ (∀ path, path ∈ graph.nodes ↔ path ∈ paths)
    ∧ (graph.nodes.length = sizeAll recipe.settings ↔ paths.Nodup)
    ∧ (∀ before a after, entries = before ++ a :: after →
      (∀ b ∈ after, spelling b.1 ≠ spelling a.1) →
        graph.targets (spelling a.1) = ownTargets recipe.settings a)
    ∧ (paths.Nodup → ∀ a ∈ entries, graph.targets (spelling a.1) = ownTargets recipe.settings a)
  := by
  intro graph entries paths
  have hconsistent : ((ofRequest place request config).run registries steps).Consistent registries
      (request.options place.cwdPath config) := (consistent_start registries place _).run steps
  have hdistinct := (hconsistent.sound h).ids
  have hnodes : ∀ path, path ∈ graph.nodes ↔ path ∈ paths := by
    intro path
    rw [mem_nodes_iff, List.mem_map]
  refine ⟨nodup_addressesAll [] hdistinct, ?_, nodup_spellings hdistinct, hnodes,
    length_nodes_eq_iff, fun _ _ _ => targets_of_last, fun hnodup _ => targets_of_nodup hnodup⟩
  intro a ha b hb
  apply eq_of_spelling_eq hdistinct ha hb

/-! ### A folder with a path that two settings share -/

/-- A setting below `a` that depends on `a`, and a second setting with its path. -/
def dottedRecipe : Recipe :=
  bareRecipe "dotted" [
    bareSetting "a" .object [] [bareSetting "b" .string [⟨"a", .null⟩] []],
    bareSetting "a.b" .string [] []] []

def dottedDocument : Value :=
  .ofFields [("id", .str "dotted"), ("optionSettings", .list [
    .ofFields [("id", .str "a"), ("type", .str "Object"), ("childOptionSettings", .list [
      .ofFields [("id", .str "b"), ("dependsOn", .list [.ofFields [("id", .str "a")]])]])],
    .ofFields [("id", .str "a.b")]])]

/-- A setting below `a` that depends on another one, each with its own path. -/
def spelledRecipe : Recipe :=
  bareRecipe "spelled" [
    bareSetting "a" .object [] [bareSetting "b" .string [⟨"c", .null⟩] []],
    bareSetting "c" .string [] []] []

def spelledDocument : Value :=
  .ofFields [("id", .str "spelled"), ("optionSettings", .list [
    .ofFields [("id", .str "a"), ("type", .str "Object"), ("childOptionSettings", .list [
      .ofFields [("id", .str "b"), ("dependsOn", .list [.ofFields [("id", .str "c")]])]])],
    .ofFields [("id", .str "c")]])]

def twoRecipes : List (String × Value) :=
  [("dotted.json", dottedDocument), ("spelled.json", spelledDocument)]

theorem files_twoRecipes :
  files (folder twoRecipes) (folderOptions false twoRecipes)
    = ["/recipes/dotted.json", "/recipes/spelled.json"]
  := by
  have hscan : (folderOptions false twoRecipes).paths.flatMap
      ((folder twoRecipes).recipeFilesBelow (folderOptions false twoRecipes).recursive)
        = ["/recipes/dotted.json", "/recipes/spelled.json"] := by decide
  rw [files, Place.recipeFiles, hscan]
  apply List.mergeSort_of_pairwise
  decide

theorem read_dotted :
  read (folder twoRecipes) (folderOptions false twoRecipes).sizeLimit "/recipes/dotted.json"
    = .ok dottedRecipe
  := by
  have hwritable : isWritable 7 dottedDocument = true := by decide
  have hmem : ("dotted.json", dottedDocument) ∈ twoRecipes := List.mem_cons_self
  exact read_of_isWritable rfl (by decide) hwritable (length_writtenBytes_le hmem) rfl

theorem read_spelled :
  read (folder twoRecipes) (folderOptions false twoRecipes).sizeLimit "/recipes/spelled.json"
    = .ok spelledRecipe
  := by
  have hwritable : isWritable 7 spelledDocument = true := by decide
  have hmem : ("spelled.json", spelledDocument) ∈ twoRecipes := by simp [twoRecipes]
  exact read_of_isWritable rfl (by decide) hwritable (length_writtenBytes_le hmem) rfl

theorem mem_recipes_twoRecipes {file : String} {recipe : Recipe}
    (hfile : ⟨file, recipe⟩ ∈ [
      (⟨"/recipes/dotted.json", dottedRecipe⟩ : Found), ⟨"/recipes/spelled.json", spelledRecipe⟩])
    (hids : DistinctIds recipe.settings) (hcycles : (dependencyGraph recipe.settings).cycles = []) :
  recipe ∈ ((ofRequest (folder twoRecipes) (folderRequest false twoRecipes) emptyConfig).run .delivered
    [.refresh false]).catalog.recipes
  := by
  rw [run_refresh_folder]
  apply mem_recipes_refresh_start Registries.cover_delivered files_twoRecipes (by decide) (by decide) _
    hfile
  · exact ⟨hids, (Graph.cycles_eq_nil_iff _).mp hcycles, fun h : false = true => nomatch h⟩
  · rw [List.forall_mem_cons, List.forall_mem_singleton]
    exact ⟨read_dotted, read_spelled⟩

theorem addresses_dotted :
  addresses dottedRecipe.settings
    = [(["a"], bareSetting "a" .object [] [bareSetting "b" .string [⟨"a", .null⟩] []]),
      (["a", "b"], bareSetting "b" .string [⟨"a", .null⟩] []),
      (["a.b"], bareSetting "a.b" .string [] [])]
  := by simp [addresses, addressesAll, dottedRecipe, bareRecipe, bareSetting]

theorem addresses_spelled :
  addresses spelledRecipe.settings
    = [(["a"], bareSetting "a" .object [] [bareSetting "b" .string [⟨"c", .null⟩] []]),
      (["a", "b"], bareSetting "b" .string [⟨"c", .null⟩] []), (["c"], bareSetting "c" .string [] [])]
  := by simp [addresses, addressesAll, spelledRecipe, bareRecipe, bareSetting]

/-- In the second file, every setting has its own path. -/
theorem paths_of_published_spelled :
  spelledRecipe ∈ ((ofRequest (folder twoRecipes) (folderRequest false twoRecipes) emptyConfig).run
      .delivered [.refresh false]).catalog.recipes
    ∧ (∀ a ∈ addresses spelledRecipe.settings, IsSpelled a.1)
    ∧ (dependencyGraph spelledRecipe.settings).nodes.length = sizeAll spelledRecipe.settings
    ∧ (dependencyGraph spelledRecipe.settings).targets "a.b" = ["c"]
  := by
  have hcycles : (dependencyGraph spelledRecipe.settings).cycles = [] := by
    cbv
  have hmem := mem_recipes_twoRecipes (.tail _ (.head _)) (by decide) hcycles
  have hspelled : ∀ a ∈ addresses spelledRecipe.settings, IsSpelled a.1 := by
    rw [addresses_spelled]
    decide
  obtain ⟨-, -, hnodup, -, hlength, -, htargets⟩ := paths_of_published hmem
  refine ⟨hmem, hspelled, hlength.mpr (hnodup hspelled), ?_⟩
  apply htargets (hnodup hspelled) (["a", "b"], bareSetting "b" .string [⟨"c", .null⟩] [])
  simp [addresses_spelled]

/-- In the first file, two settings have one path. What the earlier one depends on is lost, and with
it the cycle from `a` through its child and back. -/
theorem not_nodup_paths_dotted :
  dottedRecipe ∈ ((ofRequest (folder twoRecipes) (folderRequest false twoRecipes) emptyConfig).run
      .delivered [.refresh false]).catalog.recipes
    ∧ ¬ ((addresses dottedRecipe.settings).map fun a => spelling a.1).Nodup
    ∧ (dependencyGraph dottedRecipe.settings).nodes.length ≠ sizeAll dottedRecipe.settings
    ∧ ∃ a ∈ addresses dottedRecipe.settings, "a" ∈ ownTargets dottedRecipe.settings a
      ∧ (dependencyGraph dottedRecipe.settings).targets (spelling a.1) = []
  := by
  have hcycles : (dependencyGraph dottedRecipe.settings).cycles = [] := by
    cbv
  have hrepeated : ¬ ((addresses dottedRecipe.settings).map fun a => spelling a.1).Nodup := by
    rw [addresses_dotted]
    decide
  refine ⟨mem_recipes_twoRecipes (.head _) (by decide) hcycles, hrepeated, ?_,
    (["a", "b"], bareSetting "b" .string [⟨"a", .null⟩] []), ?_, ?_, ?_⟩
  · rw [Ne, length_nodes_eq_iff]
    exact hrepeated
  · simp [addresses_dotted]
  · decide
  · decide

end DeploymentRecipes.Catalog
