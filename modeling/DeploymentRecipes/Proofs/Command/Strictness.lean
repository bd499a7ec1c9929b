import DeploymentRecipes.Proofs.Catalog.Strictness
import DeploymentRecipes.Command.Report

/-!
# Strict runs

A run that is told to be strict takes the same exit as one that is not, since the exit follows from
the diagnostics alone and strictness has no part in them.
-/

namespace DeploymentRecipes.Command

/-! ### The option -/

/-- The arguments of a run with the given strictness. -/
def Arguments.withStrict (a : Arguments) (strict : Bool) : Arguments :=
  { a with strict := strict }

theorem takeFlag_strict (a : Arguments) (f : Flag) :
  takeFlag (a.withStrict true) f = (takeFlag a f).map (·.withStrict true)
  := by
  cases f with
  | help => rfl
  | recursive => rfl
  | strict => rfl

theorem takeParameter_strict (a : Arguments) (value : String) (p : Parameter) :
  takeParameter (a.withStrict true) value p = (takeParameter a value p).map (·.withStrict true)
  := by
  cases p with
  | path => rfl
  | format =>
      rw [takeParameter, takeParameter]
      cases choose OutputFormat.named value <;> rfl
  | failOn =>
      rw [takeParameter, takeParameter]
      cases choose FailOn.named value <;> rfl
  | logLevel => rfl

/-- Taking words is the same for strict arguments, which stay strict. -/
theorem takeWords_strict (ws : List Word) (taken : Arguments × Bool) :
  takeWords ws (taken.1.withStrict true, taken.2)
    = (takeWords ws taken).map fun t => (t.1.withStrict true, t.2)
  := by
  fun_induction takeWords ws taken with
  | case1 => rfl
  | case2 f ws a extra ih =>
      rw [takeWords, takeFlag_strict]
      cases takeFlag a f with
      | error stop => rfl
      | ok a' => apply ih a'
  | case3 p value ws a extra ih =>
      rw [takeWords, takeParameter_strict]
      cases takeParameter a value p with
      | error stop => rfl
      | ok a' => apply ih a'
  | case4 p value ws a extra ih =>
      rw [takeWords, takeParameter_strict]
      cases takeParameter a value p with
      | error stop => rfl
      | ok a' => apply ih a'
  | case5 s value ws taken hflag hvalue hplain =>
      rw [takeWords]
      · rfl
      · intro f _ _ _
        apply hflag f _ _ rfl
      · intro p text _ _ _
        apply hvalue p text _ _ rfl
      · intro p text rest _ _ _
        apply hplain p text rest _ _ rfl
  | case6 w ws a extra hflag hvalue hplain hswitch ih =>
      rw [takeWords]
      · exact ih
      · exact hflag
      · exact hvalue
      · exact hplain
      · exact hswitch

/-- The words of a command line with the option for strictness in front. -/
theorem sortWords_strict (words : List String) :
  sortWords ("--strict" :: words) = .switch (.flag .strict) none :: sortWords words
  := by
  have hword : sortWord "--strict" = .switch (.flag .strict) none := by rfl
  rw [sortWords, hword]
  rfl

/-- With the option for strictness in front, a command line has the same arguments, which are strict. -/
theorem ofWords_strict (words : List String) :
  Arguments.ofWords ("--strict" :: words) = (Arguments.ofWords words).map (·.withStrict true)
  := by
  have htake : takeWords (.switch (.flag .strict) none :: sortWords words) (.default, false)
      = (takeWords (sortWords words) (.default, false)).map fun t => (t.1.withStrict true, t.2) := by
    rw [takeWords]
    apply takeWords_strict (sortWords words) (.default, false)
  rw [Arguments.ofWords, Arguments.ofWords]
  simp only [sortWords_strict, List.any_cons, Bool.false_or, htake]
  split
  · rfl
  · cases takeWords (sortWords words) (.default, false) with
    | error stop => rfl
    | ok taken =>
        obtain ⟨a, extra⟩ := taken
        cases extra with
        | false => rfl
        | true => rfl

/-! ### Runs -/

/-- The exit code of a run follows from the diagnostics of its catalog. -/
theorem map_exitCode_run (s : Surroundings) (a : Arguments) :
  (run s a).map Run.exitCode = (do
    let config ← (ConfigStore.empty.get s).1.mapError .config
    let _ ← (LogLevel.threshold (a.level config)).mapError .logLevel
    let catalog := Catalog.ofOptions (a.request.options s.place.cwdPath config)
    let diagnostics := (catalog.refresh .delivered s.place true).value.map (·.diagnostics)
    return exitCode a.failOn (← diagnostics.mapError .load))
  := by
  rw [run]
  cases (ConfigStore.empty.get s).1 with
  | error e => rfl
  | ok config =>
      simp only [Except.mapError, bind, Except.bind]
      cases LogLevel.threshold (a.level config) with
      | error e => rfl
      | ok leastRank =>
          dsimp only
          cases (Catalog.refresh .delivered s.place true
              (.ofOptions (a.request.options s.place.cwdPath config))).value with
          | error e => rfl
          | ok c => rfl

/-- Strictness has no part in the exit code of a run, nor in whether the run ends. -/
theorem exitCode_run_withStrict (s : Surroundings) (a : Arguments) (strict : Bool) :
  (run s (a.withStrict strict)).map Run.exitCode = (run s a).map Run.exitCode
  := by
  rw [map_exitCode_run, map_exitCode_run]
  cases (ConfigStore.empty.get s).1 with
  | error e => rfl
  | ok config =>
      -- Both ask for the same options, apart from the strictness.
      obtain ⟨strict', hoptions⟩ : ∃ strict', (a.withStrict strict).request.options s.place.cwdPath
          config = Catalog.withStrict (a.request.options s.place.cwdPath config) strict' := ⟨_, rfl⟩
      have hdiagnostics := Catalog.map_diagnostics_refresh .delivered s.place
        (a.request.options s.place.cwdPath config) none strict'
      rw [← hoptions] at hdiagnostics
      simp only [Except.mapError, bind, Except.bind, Catalog.ofOptions, hdiagnostics]
      rfl

/-- What becomes of a command line: its exit code, unless it is not run or its run has no report. -/
def exitOf (s : Surroundings) (words : List String) : Except Stop (Except RunError Nat) :=
  (Arguments.ofWords words).map fun a => (run s a).map Run.exitCode

/-- The option for strictness in front of a command line does not change what becomes of it. -/
theorem exitOf_strict (s : Surroundings) (words : List String) :
  exitOf s ("--strict" :: words) = exitOf s words
  := by
  rw [exitOf, exitOf, ofWords_strict]
  cases Arguments.ofWords words with
  | error stop => rfl
  | ok a => apply congrArg Except.ok (exitCode_run_withStrict s a true)

/-- Strictness only removes recipes: of two forced loads that differ in it either both end with the
same error, or both have the same diagnostics and the strict one leaves out just the recipes whose
files have a diagnostic about the meaning of the recipe. So it has no part in the exit code of a run,
for whatever arguments, and the option for it has none either. -/
theorem strict_only_removes :
  (∀ (registries : Registries) (place : Place) (o : CatalogOptions)
      (before before' : Option CatalogContents), Catalog.OnlyRemoves place o
      (Catalog.refresh registries place true ⟨Catalog.withStrict o false, before⟩).value
      (Catalog.refresh registries place true ⟨Catalog.withStrict o true, before'⟩).value)
    ∧ (∀ (s : Surroundings) (a : Arguments), (run s (a.withStrict true)).map Run.exitCode
      = (run s (a.withStrict false)).map Run.exitCode)
    ∧ ∀ (s : Surroundings) (words : List String), exitOf s ("--strict" :: words) = exitOf s words
  := by
  refine ⟨Catalog.onlyRemoves_refresh, ?_, exitOf_strict⟩
  intro s a
  rw [exitCode_run_withStrict, exitCode_run_withStrict]

end DeploymentRecipes.Command
