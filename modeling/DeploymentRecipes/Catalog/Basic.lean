import DeploymentRecipes.Catalog.Publication
import DeploymentRecipes.Config.Basic

/-!
# Catalogs

A catalog holds the recipes below some directories as its last load found them, with the
diagnostics.  It is loaded again when a file has come, gone or changed its time.  A file that is
not in order is reported and left out; a load that cannot be finished leaves the catalog as it is.
-/

namespace DeploymentRecipes

/-- Where a catalog looks for recipes, and how. -/
structure CatalogOptions where
  paths : List String
  recursive : Bool
  strict : Bool
  sizeLimit : Int

/-- The options that are asked for; the configuration gives the others. -/
structure CatalogRequest where
  paths : Option (List String)
  recursive : Option Bool
  strict : Option Bool
  sizeLimit : Option Int

/-- The request for some paths only. -/
def CatalogRequest.ofPaths (paths : Option (List String)) : CatalogRequest :=
  ⟨paths, none, none, none⟩

/-- The options of a request, with absolute paths. -/
def CatalogRequest.options (r : CatalogRequest) (cwd : String) (config : Config) :
    CatalogOptions where
  paths := (r.paths.getD config.recipePaths).map (Path.absolute cwd)
  recursive := r.recursive.getD config.recursive
  strict := r.strict.getD config.strict
  sizeLimit := r.sizeLimit.getD config.sizeLimit

/-- What a load has found: the recipes, the diagnostics, and the files with their times. -/
structure CatalogContents where
  recipes : List Recipe
  diagnostics : List Diagnostic
  times : List (String × Nat)

structure Catalog where
  options : CatalogOptions
  contents : Option CatalogContents

namespace Catalog

/-- A catalog that is not loaded yet. -/
def ofOptions (options : CatalogOptions) : Catalog := ⟨options, none⟩

def recipes (c : Catalog) : List Recipe := (c.contents.map (·.recipes)).getD []

def diagnostics (c : Catalog) : List Diagnostic := (c.contents.map (·.diagnostics)).getD []

/-! ### Loading -/

/-- The files of a catalog. -/
def files (place : Place) (o : CatalogOptions) : List String := place.recipeFiles o.recursive o.paths

/-- The time of the last change of a file. -/
def timeOf (place : Place) (path : String) : Nat := ((place.file? path).map (·.modified)).getD 0

/-- The recipes in some files, and the diagnostics of the files that give none. -/
def readAll (place : Place) (limit : Int) :
    List String → Except LoadError (List Found × List Diagnostic)
  | [] => .ok ([], [])
  | path :: paths =>
    match Recipe.ofFile place.tools limit path ((place.file? path).getD ⟨[], 0⟩) with
    | .ok recipe => (readAll place limit paths).map fun r => (⟨path, recipe⟩ :: r.1, r.2)
    | .error (.reported cause) => (readAll place limit paths).map fun r => (r.1, ⟨path, cause⟩ :: r.2)
    | .error (.fatal e) => .error e

/-- The contents that a load finds. -/
def load (registries : Registries) (place : Place) (o : CatalogOptions) :
    Logged (Except LoadError CatalogContents) :=
  let paths := files place o
  match readAll place o.sizeLimit paths with
  | .error e => ⟨.error e, []⟩
  | .ok (found, troubles) =>
    let published := Found.publish registries o.strict found
    match published.value with
    | .error e => ⟨.error e, published.events⟩
    | .ok outcome =>
      let diagnostics := troubles ++ outcome.diagnostics
      ⟨.ok ⟨outcome.recipes, diagnostics, paths.map fun p => (p, timeOf place p)⟩,
        published.events ++
          [.loaded outcome.recipes.length diagnostics.length paths.length o.strict]⟩

/-- Whether files have come, gone or changed their times since a load. -/
def isStale (place : Place) (o : CatalogOptions) (contents : CatalogContents) : Bool :=
  let now := (files place o).map fun p => (p, timeOf place p)
  !(now.all contents.times.contains && contents.times.all now.contains)

/-- Whether a catalog has to be loaded. -/
def needsLoad (place : Place) (c : Catalog) : Bool :=
  match c.contents with
  | none => true
  | some contents => isStale place c.options contents

/-- The catalog with contents that are up to date; `force` loads it in any case. -/
def refresh (registries : Registries) (place : Place) (force : Bool) (c : Catalog) :
    Logged (Except LoadError Catalog) :=
  if force || c.needsLoad place then
    let loaded := load registries place c.options
    ⟨loaded.value.map fun contents => { c with contents := some contents }, loaded.events⟩
  else ⟨.ok c, []⟩

/-- The first recipe with the given id. -/
def find? (c : Catalog) (id : String) : Option Recipe := c.recipes.find? (·.id == id)

end Catalog
end DeploymentRecipes
