import DeploymentRecipes.Catalog.Basic
import Mathlib.Data.String.Basic

/-!
# What a load reads

Each scanned file gives a recipe, a diagnostic, or an error that ends the load.  When no file ends
it, the recipes and the diagnostics are those of the single files, in order.
-/

namespace DeploymentRecipes.Catalog

variable {place : Place} {limit : Int}

/-- What the file with a path gives. -/
def read (place : Place) (limit : Int) (path : String) : Except FileTrouble Recipe :=
  Recipe.ofFile place.tools limit path ((place.file? path).getD ⟨[], 0⟩)

/-- The recipe of a file together with its path. -/
def foundAt (place : Place) (limit : Int) (path : String) : Option Found :=
  match read place limit path with
  | .ok recipe => some ⟨path, recipe⟩
  | .error _ => none

/-- The diagnostic for a file that gives no recipe. -/
def troubleAt (place : Place) (limit : Int) (path : String) : Option Diagnostic :=
  match read place limit path with
  | .error (.reported cause) => some ⟨path, cause⟩
  | _ => none

/-- Two places that have the same tools, and the same at some paths. -/
structure ReadAlike (place past : Place) (paths : List String) : Prop where
  tools : place.tools = past.tools
  file : ∀ path ∈ paths, place.file? path = past.file? path

theorem ReadAlike.refl (place : Place) (paths : List String) :
  ReadAlike place place paths
  := ⟨rfl, fun _ _ => rfl⟩

theorem ReadAlike.read_eq {past : Place} {paths : List String} (h : ReadAlike place past paths)
    {path : String} (hpath : path ∈ paths) :
  read place limit path = read past limit path
  := by
  rw [read, read, h.tools, h.file path hpath]

theorem foundAt_eq_some_iff {path : String} {f : Found} :
  foundAt place limit path = some f ↔ f.file = path ∧ read place limit path = .ok f.recipe
  := by
  obtain ⟨file, recipe⟩ := f
  rw [foundAt]
  cases hread : read place limit path with
  | ok recipe' => simp [eq_comm]
  | error trouble => simp

theorem troubleAt_eq_some_iff {path : String} {d : Diagnostic} :
  troubleAt place limit path = some d
    ↔ d.file = path ∧ read place limit path = .error (.reported d.cause)
  := by
  obtain ⟨file, cause⟩ := d
  rw [troubleAt]
  cases hread : read place limit path with
  | ok recipe => simp
  | error trouble =>
      cases trouble with
      | reported cause' => simp [eq_comm]
      | fatal e => simp

/-- Whether a file ends the load. -/
def endsLoad (place : Place) (limit : Int) (path : String) : Bool :=
  match read place limit path with
  | .error (.fatal _) => true
  | _ => false

theorem endsLoad_iff {path : String} :
  endsLoad place limit path = true ↔ ∃ e, read place limit path = .error (.fatal e)
  := by
  rw [endsLoad]
  cases hread : read place limit path with
  | ok recipe => simp
  | error trouble => cases trouble <;> simp

/-- Files that can be read to the end: none of them ends the load. -/
def Readable (place : Place) (limit : Int) (paths : List String) : Prop :=
  ∀ path ∈ paths, endsLoad place limit path = false

instance (place : Place) (limit : Int) (paths : List String) :
    Decidable (Readable place limit paths) :=
  inferInstanceAs (Decidable (∀ path ∈ paths, endsLoad place limit path = false))

/-- Files that can be read to the end give what the single ones give, and others nothing. -/
theorem readAll_eq_ok_iff {paths : List String} {r : List Found × List Diagnostic} :
  readAll place limit paths = .ok r ↔ Readable place limit paths
    ∧ r = (paths.filterMap (foundAt place limit), paths.filterMap (troubleAt place limit))
  := by
  induction paths generalizing r with
  | nil =>
      rw [readAll, Except.ok.injEq, eq_comm]
      simp [Readable]
  | cons path paths ih =>
      rw [readAll, ← read, Readable, List.forall_mem_cons, ← Readable, List.filterMap_cons,
        List.filterMap_cons, foundAt, troubleAt, endsLoad]
      cases hrest : readAll place limit paths with
      | error e =>
          have hnot : ¬ Readable place limit paths := by
            intro h
            have hok := ih.mpr ⟨h, rfl⟩
            rw [hrest] at hok
            cases hok
          cases read place limit path with
          | ok recipe => simp [Except.map, hnot]
          | error trouble => cases trouble <;> simp [Except.map, hnot]
      | ok r' =>
          obtain ⟨hreadable, rfl⟩ := ih.mp hrest
          cases read place limit path with
          | ok recipe => simp [Except.map, hreadable, eq_comm]
          | error trouble => cases trouble <;> simp [Except.map, hreadable, eq_comm]

/-- A file that does not end the load leaves the error to the files after it. -/
theorem readAll_cons_eq_error_iff {path : String} {paths : List String} {e : LoadError}
    (h : endsLoad place limit path = false) :
  readAll place limit (path :: paths) = .error e ↔ readAll place limit paths = .error e
  := by
  rw [endsLoad] at h
  rw [readAll, ← read]
  cases hread : read place limit path with
  | ok recipe => cases readAll place limit paths <;> simp [Except.map]
  | error trouble =>
      cases trouble with
      | reported cause => cases readAll place limit paths <;> simp [Except.map]
      | fatal e' => simp [hread] at h

/-- Sorted files end the load with the error of the least one that ends it. -/
theorem readAll_eq_error_iff {paths : List String} (hsorted : paths.Pairwise (· ≤ ·))
    {e : LoadError} :
  readAll place limit paths = .error e ↔ ∃ path ∈ paths, read place limit path = .error (.fatal e)
    ∧ ∀ p ∈ paths, endsLoad place limit p = true → path ≤ p
  := by
  induction paths with
  | nil => simp [readAll]
  | cons path paths ih =>
      rw [List.pairwise_cons] at hsorted
      cases hends : endsLoad place limit path with
      | false =>
          have hread : read place limit path ≠ .error (.fatal e) := by
            intro hread
            rw [endsLoad_iff.mpr ⟨e, hread⟩] at hends
            cases hends
          rw [readAll_cons_eq_error_iff hends, ih hsorted.2]
          simp [hends, hread]
      | true =>
          obtain ⟨e', hread⟩ := endsLoad_iff.mp hends
          rw [readAll, ← read, hread]
          constructor
          · rintro ⟨⟩
            refine ⟨path, List.mem_cons_self, hread, ?_⟩
            rw [List.forall_mem_cons]
            exact ⟨fun _ => le_refl path, fun p hp _ => hsorted.1 p hp⟩
          · rintro ⟨p, hp, hfatal, hleast⟩
            have hsame : p = path := by
              rcases List.mem_cons.mp hp with rfl | hp
              · rfl
              · exact le_antisymm (hleast path List.mem_cons_self hends) (hsorted.1 p hp)
            rw [hsame, hread] at hfatal
            obtain ⟨⟩ := Except.error.inj hfatal
            rfl

end DeploymentRecipes.Catalog
