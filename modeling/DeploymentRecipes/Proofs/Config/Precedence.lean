import DeploymentRecipes.Config.Basic
import DeploymentRecipes.Proofs.Result
import Mathlib.Data.List.Forall2

/-!
# Precedence of variables

Where the text of a variable comes from: the process goes before the environment files, and of the
files the last that assigns it counts.  What is remembered between two readings does not show, until
the surroundings change; and a configuration that was read once stays until the store is emptied.
Once a reading has failed, the process is asked anew by the next, but what the environment files were
found to assign stays.
-/

namespace DeploymentRecipes

/-! ### Environments -/

theorem Environment.get?_append (first second : Environment) (name : String) :
  Environment.get? (first ++ second) name = (first.get? name).or (second.get? name)
  := by
  rw [Environment.get?, List.find?_append, Environment.get?, Environment.get?]
  cases first.find? (·.1 == name) <;> rfl

theorem Environment.get?_cons (key value : String) (env : Environment) (name : String) :
  Environment.get? ((key, value) :: env) name = if key = name then some value else env.get? name
  := by
  rw [Environment.get?, List.find?_cons]
  by_cases hkey : key = name
  · rw [if_pos hkey, hkey, beq_self_eq_true]
    rfl
  · rw [if_neg hkey, beq_eq_false_iff_ne.mpr hkey]
    rfl

/-- A variable among the contents of a file is a name with a value. -/
theorem EnvFile.Contents.get?_environment (c : EnvFile.Contents) {name text : String} :
  c.environment.get? name = some text ↔ ⟨name, some text⟩ ∈ c.assignments
  := by
  obtain ⟨as, hnodup⟩ := c
  change Environment.get? (as.filterMap _) name = some text ↔ ⟨name, some text⟩ ∈ as
  induction as with
  | nil => simp [Environment.get?]
  | cons a as ih =>
      rw [List.map_cons, List.nodup_cons] at hnodup
      rw [List.mem_cons]
      cases hvalue : a.value with
      | none =>
          rw [List.filterMap_cons_none (by rw [hvalue]; rfl), ih hnodup.2, or_iff_right]
          rintro rfl
          cases hvalue
      | some value =>
          have ha : a = ⟨a.name, some value⟩ := by rw [← hvalue]
          rw [List.filterMap_cons_some (by rw [hvalue]; rfl), Environment.get?_cons]
          by_cases hname : a.name = name
          · have hother : ⟨name, some text⟩ ∉ as := by
              intro hmem
              apply hnodup.1
              rw [hname]
              exact List.mem_map_of_mem (f := Assignment.name) hmem
            rw [if_pos hname, or_iff_left hother, ha, ← hname]
            simp [eq_comm]
          · rw [if_neg hname, ih hnodup.2, or_iff_right]
            rintro rfl
            exact hname rfl

namespace Surroundings

variable (read : EnvReader) (s : Surroundings)

/-! ### Environment files -/

/-- The path that an entry stands for; a directory stands for the file inside it. -/
def IsEnvFile (entry path : String) : Prop :=
  ∃ base, s.fromHome entry = .ok base
    ∧ path = if s.place.isDirectory base then Path.join base ".env" else base

/-- The file at a path, if there is one, has contents. -/
def Readable (path : String) : Prop :=
  ∀ file, s.place.file? path = some file → ∃ contents, read s.environment file.bytes = .ok contents

/-- There is a file at a path, in which a text is assigned to a name. -/
def Assigns (path name text : String) : Prop :=
  ∃ file contents, s.place.file? path = some file ∧ read s.environment file.bytes = .ok contents
    ∧ ⟨name, some text⟩ ∈ contents.assignments

/-- The last of the files that assign anything to a name assigns it the text. -/
def AssignsLast (files : List String) (name text : String) : Prop :=
  ∃ before path after, files = before ++ path :: after ∧ s.Assigns read path name text
    ∧ ∀ later ∈ after, ∀ other, ¬ s.Assigns read later name other

variable {read s}

theorem envFileOf_eq_ok_iff {entry path : String} :
  s.envFileOf entry = .ok path ↔ s.IsEnvFile entry path
  := by
  rw [envFileOf, IsEnvFile]
  cases s.fromHome entry with
  | error e =>
      constructor
      · nofun
      · rintro ⟨base, hbase, -⟩
        cases hbase
  | ok base =>
      constructor
      · intro h
        exact ⟨base, rfl, (Except.ok.inj h).symm⟩
      · rintro ⟨base', hbase, rfl⟩
        rw [Except.ok.inj hbase]
        rfl

theorem mapM_envFileOf_eq_ok_iff {entries files : List String} :
  entries.mapM s.envFileOf = .ok files ↔ List.Forall₂ s.IsEnvFile entries files
  := by
  induction entries generalizing files with
  | nil =>
      rw [List.forall₂_nil_left_iff]
      exact ⟨fun h => (Except.ok.inj h).symm, congrArg Except.ok ∘ Eq.symm⟩
  | cons entry entries ih =>
      rw [List.mapM_cons, List.forall₂_cons_left_iff]
      constructor
      · intro h
        obtain ⟨path, hpath, h⟩ := exists_of_bind_eq_ok h
        obtain ⟨rest, hrest, h⟩ := exists_of_bind_eq_ok h
        exact ⟨path, rest, envFileOf_eq_ok_iff.mp hpath, ih.mp hrest, (Except.ok.inj h).symm⟩
      · rintro ⟨path, rest, hpath, hrest, rfl⟩
        rw [envFileOf_eq_ok_iff.mpr hpath, ih.mpr hrest]
        rfl

/-- The environment files are those that the entries stand for, one for each. -/
theorem envFiles_eq_ok_iff {paths : String} {files : List String}
    (h : s.environment.get? Config.envFileVariable = some paths) (hne : paths ≠ "") :
  s.envFiles = .ok files ↔ List.Forall₂ s.IsEnvFile (listed paths) files
  := by
  rw [envFiles, h]
  split
  · rename_i hnone
    cases hnone
  · rename_i hempty
    exact absurd (Option.some.inj hempty) hne
  · rename_i hsome
    rw [← Option.some.inj hsome, mapM_envFileOf_eq_ok_iff]

theorem exists_assignedBy_iff {path : String} :
  (∃ found, s.assignedBy read path = .ok found) ↔ s.Readable read path
  := by
  rw [assignedBy, Readable]
  cases s.place.file? path with
  | none => simp
  | some file =>
      simp only [Option.some.injEq, forall_eq']
      constructor
      · rintro ⟨found, hfound⟩
        obtain ⟨contents, hcontents, -⟩ := exists_of_map_eq_ok hfound
        exact ⟨contents, hcontents⟩
      · rintro ⟨contents, hcontents⟩
        rw [hcontents]
        exact ⟨_, rfl⟩

theorem get?_assignedBy {path : String} {found : Environment}
    (h : s.assignedBy read path = .ok found) {name text : String} :
  found.get? name = some text ↔ s.Assigns read path name text
  := by
  rw [assignedBy] at h
  rw [Assigns]
  cases hfile : s.place.file? path with
  | none =>
      rw [hfile] at h
      rw [← Except.ok.inj h]
      simp [Environment.get?]
  | some file =>
      rw [hfile] at h
      obtain ⟨contents, hcontents, rfl⟩ := exists_of_map_eq_ok h
      rw [contents.get?_environment]
      constructor
      · intro hmem
        exact ⟨file, contents, rfl, hcontents, hmem⟩
      · rintro ⟨file', contents', hfile', hcontents', hmem⟩
        rw [← Option.some.inj hfile', hcontents] at hcontents'
        rwa [Except.ok.inj hcontents']

/-! ### All environment files -/

theorem assignsLast_nil {name text : String} :
  ¬ s.AssignsLast read [] name text
  := by
  rintro ⟨before, path, after, hfiles, -⟩
  simp at hfiles

theorem assignsLast_cons {path : String} {files : List String} {name text : String} :
  s.AssignsLast read (path :: files) name text ↔ s.AssignsLast read files name text
    ∨ (s.Assigns read path name text ∧ ∀ later ∈ files, ∀ other, ¬ s.Assigns read later name other)
  := by
  constructor
  · rintro ⟨before, path', after, hfiles, hassigns, hlater⟩
    cases before with
    | nil =>
        obtain ⟨rfl, rfl⟩ := List.cons.inj hfiles
        exact Or.inr ⟨hassigns, hlater⟩
    | cons first before =>
        obtain ⟨rfl, rfl⟩ := List.cons.inj hfiles
        exact Or.inl ⟨before, path', after, rfl, hassigns, hlater⟩
  · rintro (⟨before, path', after, rfl, hassigns, hlater⟩ | ⟨hassigns, hlater⟩)
    · exact ⟨path :: before, path', after, rfl, hassigns, hlater⟩
    · exact ⟨[], path, files, rfl, hassigns, hlater⟩

/-- One of the files that assign something to a name is the last. -/
theorem exists_assignsLast_iff {files : List String} {name : String} :
  (∃ text, s.AssignsLast read files name text) ↔ ∃ path ∈ files, ∃ text, s.Assigns read path name text
  := by
  induction files with
  | nil => simp [assignsLast_nil]
  | cons path files ih =>
      simp only [assignsLast_cons, exists_or, ih, exists_and_right, List.exists_mem_cons_iff]
      by_cases hlater : ∃ later ∈ files, ∃ other, s.Assigns read later name other
      · exact iff_of_true (Or.inl hlater) (Or.inr hlater)
      · have hnone : ∀ later ∈ files, ∀ other, ¬ s.Assigns read later name other := by
          push Not at hlater
          exact hlater
        rw [or_iff_right hlater, or_iff_left hlater, and_iff_left hnone]

/-- Files are merged with what is known if each of them is readable. -/
theorem exists_merge_iff {files : List String} {known : Environment} :
  (∃ found, files.foldlM (s.merge read) known = .ok found)
    ↔ ∀ path ∈ files, s.Readable read path
  := by
  induction files generalizing known with
  | nil => exact ⟨nofun, fun _ => ⟨known, rfl⟩⟩
  | cons path files ih =>
      rw [List.forall_mem_cons, List.foldlM_cons, ← exists_assignedBy_iff]
      constructor
      · rintro ⟨found, hfound⟩
        obtain ⟨merged, hmerged, hrest⟩ := exists_of_bind_eq_ok hfound
        obtain ⟨assigned, hassigned, -⟩ := exists_of_map_eq_ok hmerged
        exact ⟨⟨assigned, hassigned⟩, ih.mp ⟨found, hrest⟩⟩
      · rintro ⟨⟨assigned, hassigned⟩, hreadable⟩
        rw [merge, hassigned]
        exact ih.mpr hreadable

/-- Merging asks the last file that assigns the name; what was known counts if there is none. -/
theorem get?_merge {files : List String} {known found : Environment}
    (h : files.foldlM (s.merge read) known = .ok found)
    {name text : String} :
  found.get? name = some text ↔ s.AssignsLast read files name text
    ∨ ((∀ path ∈ files, ∀ other, ¬ s.Assigns read path name other) ∧ known.get? name = some text)
  := by
  induction files generalizing known with
  | nil =>
      rw [Except.ok.inj h]
      simp [assignsLast_nil]
  | cons path files ih =>
      rw [List.foldlM_cons] at h
      obtain ⟨merged, hmerged, h⟩ := exists_of_bind_eq_ok h
      obtain ⟨assigned, hassigned, rfl⟩ := exists_of_map_eq_ok hmerged
      have hsome : ∀ {text}, assigned.get? name = some text ↔ s.Assigns read path name text :=
        get?_assignedBy hassigned
      have hnone : assigned.get? name = none ↔ ∀ other, ¬ s.Assigns read path name other := by
        rw [Option.eq_none_iff_forall_ne_some]
        apply forall_congr'
        intro other
        rw [ne_eq, hsome]
      rw [ih h, assignsLast_cons, Environment.get?_append, Option.or_eq_some_iff, hsome, hnone,
        List.forall_mem_cons]
      tauto

/-- The files are read if the entries stand for files and each file is readable. -/
theorem exists_assignedByFiles_iff :
  (∃ found, s.assignedByFiles read = .ok found)
    ↔ ∃ files, s.envFiles = .ok files ∧ ∀ path ∈ files, s.Readable read path
  := by
  constructor
  · rintro ⟨found, hfound⟩
    obtain ⟨files, hfiles, hmerge⟩ := exists_of_bind_eq_ok hfound
    exact ⟨files, hfiles, exists_merge_iff.mp ⟨found, hmerge⟩⟩
  · rintro ⟨files, hfiles, hreadable⟩
    rw [assignedByFiles, hfiles]
    exact exists_merge_iff.mpr hreadable

theorem get?_assignedByFiles {files : List String} (hfiles : s.envFiles = .ok files)
    {found : Environment} (h : s.assignedByFiles read = .ok found) {name text : String} :
  found.get? name = some text ↔ s.AssignsLast read files name text
  := by
  rw [assignedByFiles, hfiles] at h
  rw [get?_merge h]
  simp [Environment.get?]

theorem get?_assignedByFiles_eq_none {files : List String} (hfiles : s.envFiles = .ok files)
    {found : Environment} (h : s.assignedByFiles read = .ok found) {name : String} :
  found.get? name = none ↔ ∀ path ∈ files, ∀ text, ¬ s.Assigns read path name text
  := by
  have hlast : (∃ text, found.get? name = some text)
      ↔ ∃ path ∈ files, ∃ text, s.Assigns read path name text := by
    rw [← exists_assignsLast_iff]
    exact exists_congr fun text => get?_assignedByFiles hfiles h
  rw [← Option.not_isSome_iff_eq_none, Option.isSome_iff_exists, hlast]
  push Not
  rfl

/-! ### Raw values -/

variable (s) in
/-- The text of a variable, given what the environment files are taken to assign. -/
def rawValueFrom (files : Except ConfigError Environment) (name : String) (default? : Option String) :
    Except ConfigError (Option String) :=
  match s.environment.get? name with
  | some text => .ok (some text)
  | none => files.map fun found => (found.get? name).or default?

variable (read s) in
/-- The text of a variable when nothing is remembered of the environment files. -/
def rawValue (name : String) (default? : Option String) : Except ConfigError (Option String) :=
  s.rawValueFrom (s.assignedByFiles read) name default?

variable (read s) in
/-- Where the text of a variable comes from. -/
inductive Origin (name : String) (default? : Option String) : Option String → Prop
  | process {text : String} (hprocess : s.environment.get? name = some text) :
      Origin name default? (some text)
  | file {files : List String} {text : String} (hprocess : s.environment.get? name = none)
      (hfiles : s.envFiles = .ok files) (hreadable : ∀ path ∈ files, s.Readable read path)
      (hlast : s.AssignsLast read files name text) : Origin name default? (some text)
  | default {files : List String} (hprocess : s.environment.get? name = none)
      (hfiles : s.envFiles = .ok files) (hreadable : ∀ path ∈ files, s.Readable read path)
      (hnone : ∀ path ∈ files, ∀ text, ¬ s.Assigns read path name text) :
      Origin name default? default?

theorem rawValue_eq_ok_iff {name : String} {default? text? : Option String} :
  s.rawValue read name default? = .ok text? ↔ s.Origin read name default? text?
  := by
  rw [rawValue, rawValueFrom]
  constructor
  · intro h
    cases hprocess : s.environment.get? name with
    | some text =>
        rw [hprocess] at h
        rw [← Except.ok.inj h]
        exact .process hprocess
    | none =>
        rw [hprocess] at h
        obtain ⟨found, hfound, htext⟩ := exists_of_map_eq_ok h
        obtain ⟨files, hfiles, hreadable⟩ := exists_assignedByFiles_iff.mp ⟨found, hfound⟩
        cases hget : found.get? name with
        | some text =>
            rw [hget] at htext
            rw [← htext]
            exact .file hprocess hfiles hreadable ((get?_assignedByFiles hfiles hfound).mp hget)
        | none =>
            rw [hget] at htext
            rw [← htext]
            exact .default hprocess hfiles hreadable
              ((get?_assignedByFiles_eq_none hfiles hfound).mp hget)
  · intro h
    cases h with
    | process hprocess => rw [hprocess]
    | file hprocess hfiles hreadable hlast =>
        obtain ⟨found, hfound⟩ := exists_assignedByFiles_iff.mpr ⟨_, hfiles, hreadable⟩
        have hget := (get?_assignedByFiles hfiles hfound).mpr hlast
        rw [hprocess, hfound]
        simp [Except.map, hget]
    | default hprocess hfiles hreadable hnone =>
        obtain ⟨found, hfound⟩ := exists_assignedByFiles_iff.mpr ⟨_, hfiles, hreadable⟩
        have hget := (get?_assignedByFiles_eq_none hfiles hfound).mpr hnone
        rw [hprocess, hfound]
        simp [Except.map, hget]

/-- A variable has a text, or is known to have none, if the process has it or the files are readable. -/
theorem exists_rawValue_iff {name : String} {default? : Option String} :
  (∃ text?, s.rawValue read name default? = .ok text?) ↔ (s.environment.get? name).isSome
    ∨ ∃ files, s.envFiles = .ok files ∧ ∀ path ∈ files, s.Readable read path
  := by
  rw [rawValue, rawValueFrom]
  cases s.environment.get? name with
  | some text => exact iff_of_true ⟨_, rfl⟩ (Or.inl rfl)
  | none =>
      rw [← exists_assignedByFiles_iff, or_iff_right (by simp)]
      constructor
      · rintro ⟨text?, htext⟩
        obtain ⟨found, hfound, -⟩ := exists_of_map_eq_ok htext
        exact ⟨found, hfound⟩
      · rintro ⟨found, hfound⟩
        rw [hfound]
        exact ⟨_, rfl⟩

/-! ### What is remembered -/

variable (read s) in
/-- What the environment files are taken to assign: what is remembered of them, or what they say. -/
def recalled (known : Option Environment) : Except ConfigError Environment :=
  match known with
  | some found => .ok found
  | none => s.assignedByFiles read

variable (read s) in
/-- What may be remembered after a reading: what was remembered, or what the files said. -/
inductive Remembers : Option Environment → Option Environment → Prop
  | known (known : Option Environment) : Remembers known known
  | read {found : Environment} (h : s.assignedByFiles read = .ok found) : Remembers none (some found)

theorem Remembers.recalled_eq {known after : Option Environment} (h : s.Remembers read known after) :
  s.recalled read after = s.recalled read known
  := by
  cases h with
  | known => rfl
  | read h => exact h.symm

theorem Remembers.trans {known next after : Option Environment} (h : s.Remembers read known next)
    (h' : s.Remembers read next after) :
  s.Remembers read known after
  := by
  cases h with
  | known => exact h'
  | read h =>
      cases h'
      exact .read h

theorem Remembers.of_mem {known after : Option Environment} (h : s.Remembers read known after)
    {found : Environment} (hfound : found ∈ after) :
  found ∈ known ∨ s.assignedByFiles read = .ok found
  := by
  cases h with
  | known => exact Or.inl hfound
  | read h => exact Or.inr (Option.some.inj hfound ▸ h)

variable (read s) in
/-- A reading gives the result whenever the environment files are taken to assign the same. -/
def Agrees {α : Type} (files : Except ConfigError Environment) (reading : Lookup α)
    (result : Except ConfigError α) : Prop :=
  ∀ known, s.recalled read known = files
    → (reading.run.run known).1 = result ∧ s.Remembers read known (reading.run.run known).2

variable {α β : Type} {files : Except ConfigError Environment}

theorem agrees_pure (a : α) :
  s.Agrees read files (pure a) (pure a)
  := fun known _ => ⟨rfl, .known known⟩

theorem agrees_lift (result : Except ConfigError α) :
  s.Agrees read files (liftM result) (liftM result)
  := fun known _ => ⟨rfl, .known known⟩

theorem agrees_bind {reading : Lookup α} {result : Except ConfigError α} {next : α → Lookup β}
    {next' : α → Except ConfigError β} (h : s.Agrees read files reading result)
    (hnext : ∀ a, s.Agrees read files (next a) (next' a)) :
  s.Agrees read files (reading >>= next) (result >>= next')
  := by
  intro known hknown
  obtain ⟨hresult, hafter⟩ := h known hknown
  have hrun : (reading >>= next).run.run known = match reading.run.run known with
      | (.ok a, after) => (next a).run.run after
      | (.error e, after) => (.error e, after) := by
    simp only [ExceptT.run_bind, StateT.run_bind]
    cases reading.run.run known with
    | mk outcome after => cases outcome <;> rfl
  rw [hrun]
  cases hfirst : reading.run.run known with
  | mk outcome after =>
      rw [hfirst] at hresult hafter
      rw [← hresult]
      cases outcome with
      | error e => exact ⟨rfl, hafter⟩
      | ok a =>
          obtain ⟨hresult', hafter'⟩ := hnext a after (hafter.recalled_eq.trans hknown)
          exact ⟨hresult', hafter.trans hafter'⟩

/-- The environment files are read once, and are remembered then. -/
theorem agrees_fileValues :
  s.Agrees read files (s.fileValues read) files
  := by
  rintro known rfl
  cases known with
  | some found => exact ⟨rfl, .known (some found)⟩
  | none =>
      cases hfound : s.assignedByFiles read with
      | error e =>
          have hrun : (s.fileValues read).run.run none = (.error e, none) := by
            rw [fileValues, hfound]
            rfl
          rw [hrun]
          exact ⟨hfound.symm, .known none⟩
      | ok found =>
          have hrun : (s.fileValues read).run.run none = (.ok found, some found) := by
            rw [fileValues, hfound]
            rfl
          rw [hrun]
          exact ⟨hfound.symm, .read hfound⟩

/-- Looking a variable up gives its raw value. -/
theorem agrees_resolve (name : String) (default? : Option String) :
  s.Agrees read files (s.resolve read name default?) (s.rawValueFrom files name default?)
  := by
  rw [resolve, rawValueFrom]
  cases s.environment.get? name with
  | some text => exact agrees_pure (some text)
  | none =>
      have hmap : files.map (fun found => (found.get? name).or default?)
          = files >>= fun found => pure ((found.get? name).or default?) := by
        cases files <;> rfl
      dsimp only
      rw [hmap]
      exact agrees_bind agrees_fileValues fun _ => agrees_pure _

theorem agrees_readConfig :
  s.Agrees read files (s.readConfig (s.resolve read)) (s.readConfig (s.rawValueFrom files))
  := by
  rw [readConfig, readConfig]
  apply agrees_bind (agrees_resolve _ _)
  intro paths
  apply agrees_bind (agrees_lift _)
  intro recipePaths
  apply agrees_bind (agrees_resolve _ _)
  intro size
  apply agrees_bind (agrees_lift _)
  intro sizeLimit
  apply agrees_bind (agrees_resolve _ _)
  intro logLevel
  apply agrees_bind (agrees_resolve _ _)
  intro recursive
  apply agrees_bind (agrees_resolve _ _)
  intro strict
  apply agrees_pure

end Surroundings

/-! ### The store -/

namespace ConfigStore

/-- What is asked of a store. -/
inductive Call where
  | get (s : Surroundings)
  | reload

variable (read : EnvReader)

/-- The store after a call. -/
def after (store : ConfigStore) : Call → ConfigStore
  | .get s => (store.getWith read s).2
  | .reload => .empty

/-- The store after calls. -/
def run (store : ConfigStore) (calls : List Call) : ConfigStore := calls.foldl (after read) store

variable {read} {store : ConfigStore} {s : Surroundings} {config : Config}

/-- A store without a configuration reads one, from the process and from what it remembers of the
environment files. -/
theorem getWith_of_config_none (read : EnvReader) (h : store.config = none) (s : Surroundings) :
  (store.getWith read s).1 = s.readConfig (s.rawValueFrom (s.recalled read store.fileValues))
    ∧ s.Remembers read store.fileValues (store.getWith read s).2.fileValues
  := by
  rw [getWith, h]
  exact Surroundings.agrees_readConfig store.fileValues rfl

/-- A store that has nothing to show but what the surroundings say. -/
structure IsFresh (read : EnvReader) (s : Surroundings) (store : ConfigStore) : Prop where
  fileValues : s.recalled read store.fileValues = s.assignedByFiles read
  config : ∀ config ∈ store.config, s.readConfig (s.rawValue read) = .ok config

theorem isFresh_empty (read : EnvReader) (s : Surroundings) :
  IsFresh read s .empty
  := ⟨rfl, nofun⟩

/-- A fresh store gives the configuration that the raw values make up, and stays fresh. -/
theorem IsFresh.getWith (h : IsFresh read s store) :
  (store.getWith read s).1 = s.readConfig (s.rawValue read)
    ∧ IsFresh read s (store.getWith read s).2
  := by
  cases hstore : store.config with
  | some config =>
      rw [ConfigStore.getWith, hstore]
      exact ⟨(h.config config hstore).symm, h⟩
  | none =>
      obtain ⟨hresult, hremembers⟩ := getWith_of_config_none read hstore s
      rw [h.fileValues] at hresult
      refine ⟨hresult, hremembers.recalled_eq.trans h.fileValues, ?_⟩
      intro config hconfig
      rw [ConfigStore.getWith, hstore] at hresult hconfig
      exact hresult.symm.trans (eq_ok_of_toOption hconfig)

/-- A store that gives a configuration has it from then on. -/
theorem config_of_getWith (h : (store.getWith read s).1 = .ok config) :
  (store.getWith read s).2.config = some config
  := by
  rw [getWith] at h ⊢
  cases hstore : store.config with
  | some known =>
      rw [hstore] at h
      rw [hstore, Except.ok.inj h]
  | none =>
      rw [hstore] at h
      have hresult : ((s.readConfig (s.resolve read)).run.run store.fileValues).1 = .ok config := h
      exact congrArg Except.toOption hresult

/-- A store that has a configuration gives it, whatever the surroundings, and keeps it. -/
theorem getWith_of_config (h : store.config = some config) (s : Surroundings) :
  store.getWith read s = (.ok config, store)
  := by rw [getWith, h]

/-- After a reload the store is as new, however often the same surroundings are looked at then. -/
theorem isFresh_run (history : List Call) (s : Surroundings) (repeats : Nat) :
  IsFresh read s (run read store (history ++ .reload :: List.replicate repeats (.get s)))
  := by
  rw [run, List.foldl_append, List.foldl_cons]
  have hfresh : ∀ store, IsFresh read s store
      → IsFresh read s (List.foldl (after read) store (List.replicate repeats (.get s))) := by
    intro store h
    induction repeats generalizing store with
    | zero => exact h
    | succ n ih => exact ih _ h.getWith.2
  exact hfresh _ (isFresh_empty read s)

/-- Without a reload a store keeps its configuration. -/
theorem config_run (h : store.config = some config) (later : List Surroundings) :
  (run read store (later.map .get)).config = some config
  := by
  induction later generalizing store with
  | nil => exact h
  | cons s later ih =>
      rw [List.map_cons, run, List.foldl_cons]
      apply ih
      rw [after, getWith_of_config h]
      exact h

/-- The values that a store remembers of environment files are those of surroundings that it was asked
about after the last reload. -/
theorem exists_of_mem_fileValues_run {tried : List Surroundings} {found : Environment}
    (h : found ∈ (run read store (tried.map .get)).fileValues) :
  found ∈ store.fileValues ∨ ∃ s ∈ tried, s.assignedByFiles read = .ok found
  := by
  induction tried generalizing store with
  | nil => exact Or.inl h
  | cons s tried ih =>
      rw [List.map_cons, run, List.foldl_cons] at h
      rcases ih h with hknown | ⟨s', hs', hfound⟩
      · rw [after] at hknown
        cases hstore : store.config with
        | some config =>
            rw [getWith_of_config hstore] at hknown
            exact Or.inl hknown
        | none =>
            have hremembers := (getWith_of_config_none read hstore s).2
            exact (hremembers.of_mem hknown).imp_right fun hfound => ⟨s, List.mem_cons_self, hfound⟩
      · exact Or.inr ⟨s', List.mem_cons_of_mem s hs', hfound⟩

/-- After a reload and readings that all failed, in whatever surroundings, the next reading asks the
process of its own surroundings. For the environment files it asks those of its own surroundings, if
none were read; if those of former surroundings were, then these stand for its own. -/
theorem getWith_of_failures {history : List Call} {tried : List Surroundings}
    (hrun : run read .empty (history ++ .reload :: tried.map .get) = store)
    (hfailed : store.config = none) (s : Surroundings) :
  (store.fileValues = none ∧ (store.getWith read s).1 = s.readConfig (s.rawValue read))
    ∨ ∃ former ∈ tried, ∃ found, former.assignedByFiles read = .ok found
      ∧ store.fileValues = some found
      ∧ (store.getWith read s).1 = s.readConfig (s.rawValueFrom (.ok found))
  := by
  have htried : run read .empty (tried.map .get) = store := by
    rw [← hrun, run, run, List.foldl_append]
    rfl
  have hresult := (getWith_of_config_none read hfailed s).1
  cases hvalues : store.fileValues with
  | none =>
      rw [hvalues] at hresult
      exact Or.inl ⟨rfl, hresult⟩
  | some found =>
      rw [hvalues] at hresult
      rw [← htried] at hvalues
      obtain ⟨former, hformer, hfound⟩ :=
        (exists_of_mem_fileValues_run (Option.mem_def.mpr hvalues)).resolve_left nofun
      exact Or.inr ⟨former, hformer, found, hfound, rfl, hresult⟩

/-- After a reload every raw value that makes up the configuration is that of the process, or else that
of the last listed file that assigns it, or else the default; it exists if the files can be read. A
directory stands for the file inside it. A configuration that was given is given again, whatever the
surroundings, until the next reload. -/
theorem getWith_run (read : EnvReader) :
  (∀ (history : List Call) (s : Surroundings) (repeats : Nat),
      ((run read .empty (history ++ .reload :: List.replicate repeats (.get s))).getWith read s).1
        = s.readConfig (s.rawValue read))
    ∧ (∀ (s : Surroundings) (name : String) (default? text? : Option String),
      s.rawValue read name default? = .ok text? ↔ s.Origin read name default? text?)
    ∧ (∀ (s : Surroundings) (name : String) (default? : Option String),
      (∃ text?, s.rawValue read name default? = .ok text?) ↔ (s.environment.get? name).isSome
        ∨ ∃ files, s.envFiles = .ok files ∧ ∀ path ∈ files, s.Readable read path)
    ∧ (∀ (s : Surroundings) (paths : String) (files : List String),
      s.environment.get? Config.envFileVariable = some paths → paths ≠ ""
        → (s.envFiles = .ok files ↔ List.Forall₂ s.IsEnvFile (Surroundings.listed paths) files))
    ∧ ∀ (history : List Call) (s : Surroundings) (config : Config),
      ((run read .empty history).getWith read s).1 = .ok config
        → ∀ (later : List Surroundings) (s' : Surroundings),
          ((run read .empty (history ++ .get s :: later.map .get)).getWith read s').1 = .ok config
  := by
  refine ⟨?_, ?_, ?_, ?_, ?_⟩
  · intro history s repeats
    exact (isFresh_run history s repeats).getWith.1
  · intro s name default? text?
    exact Surroundings.rawValue_eq_ok_iff
  · intro s name default?
    exact Surroundings.exists_rawValue_iff
  · intro s paths files h hne
    exact Surroundings.envFiles_eq_ok_iff h hne
  · intro history s config hget later s'
    have hconfig := @config_run read _ config (config_of_getWith hget) later
    have hrun : run read .empty (history ++ .get s :: later.map .get)
        = run read ((run read .empty history).getWith read s).2 (later.map .get) := by
      rw [run, List.foldl_append]
      rfl
    rw [hrun, getWith_of_config hconfig]

/-! ### Three layers -/

def layeredBase : File := ⟨"VALIDATION_STRICT=1\n".toUTF8.data.toList, 1⟩

def layeredNested : File := ⟨"VALIDATION_STRICT\n".toUTF8.data.toList, 2⟩

/-- Environment files: one that sets a flag, one in a directory that only names it, and a missing one. -/
def layered : Surroundings where
  place := {
    tree := {
      files := [
        (["etc", "base.env"], layeredBase), (["etc", "local", ".env"], layeredNested)]
      directories := [["etc"], ["etc", "local"]] }
    cwd := []
    home := "/" }
  environment := [
    ("DEPLOYCORE_ENV_FILE", "/etc/base.env:/etc/local:/etc/more.env"),
    ("DEPLOYCORE_RECIPES_PATH", ""), ("DEPLOYCORE_LOG_LEVEL", "debug"), ("RECIPES_RECURSIVE", ""),
    ("RECIPES_MAX_FILE_SIZE_BYTES", "100")]
  installation := "/opt"

def layeredFiles : List String := ["/etc/base.env", "/etc/local/.env", "/etc/more.env"]

/-- What the files hold. -/
theorem read_layered :
  (∃ file contents, layered.place.file? "/etc/base.env" = some file
      ∧ EnvReader.utf8 layered.environment file.bytes = .ok contents
      ∧ contents.assignments = [⟨"VALIDATION_STRICT", some "1"⟩])
    ∧ (∃ file contents, layered.place.file? "/etc/local/.env" = some file
      ∧ EnvReader.utf8 layered.environment file.bytes = .ok contents
      ∧ contents.assignments = [⟨"VALIDATION_STRICT", none⟩])
    ∧ layered.place.file? "/etc/more.env" = none
  := by
  have hbase : ((EnvReader.utf8 layered.environment layeredBase.bytes).map (·.assignments)).toOption
      = some [⟨"VALIDATION_STRICT", some "1"⟩] := by decide +kernel
  have hnested : ((EnvReader.utf8 layered.environment layeredNested.bytes).map
      (·.assignments)).toOption = some [⟨"VALIDATION_STRICT", none⟩] := by decide +kernel
  obtain ⟨base, hbase⟩ := exists_of_map_eq_ok (eq_ok_of_toOption hbase)
  obtain ⟨nested, hnested⟩ := exists_of_map_eq_ok (eq_ok_of_toOption hnested)
  exact ⟨⟨layeredBase, base, rfl, hbase⟩, ⟨layeredNested, nested, rfl, hnested⟩, rfl⟩

/-- The flag is set by the first file; the bare name in the second one does not undo it. -/
theorem getWith_run_layered :
  layered.rawValue EnvReader.utf8 Config.strictVariable (some "0") = .ok (some "1")
    ∧ ∀ (later : List Surroundings) (s : Surroundings),
      ((run EnvReader.utf8 .empty (.reload :: .get layered :: later.map .get)).getWith
        EnvReader.utf8 s).1 = .ok ⟨["/opt/recipes"], "DEBUG", false, 100, true⟩
  := by
  obtain ⟨hget, horigin, -, hfiles, hkeep⟩ := getWith_run EnvReader.utf8
  obtain ⟨⟨base, baseContents, hbase, hbaseRead, hbaseHolds⟩,
    ⟨nested, nestedContents, hnested, hnestedRead, hnestedHolds⟩, hmore⟩ := read_layered
  have hentries : Surroundings.listed "/etc/base.env:/etc/local:/etc/more.env"
      = ["/etc/base.env", "/etc/local", "/etc/more.env"] := by decide +kernel
  have hlisted : layered.envFiles = .ok layeredFiles := by
    apply (hfiles layered _ layeredFiles rfl (by decide)).mpr
    rw [hentries]
    exact .cons ⟨"/etc/base.env", rfl, rfl⟩ (.cons ⟨"/etc/local", rfl, rfl⟩
      (.cons ⟨"/etc/more.env", rfl, rfl⟩ .nil))
  have hreadable : ∀ path ∈ layeredFiles, layered.Readable EnvReader.utf8 path := by
    simp [layeredFiles, Surroundings.Readable, hbase, hnested, hmore, hbaseRead, hnestedRead]
  have hlast : layered.AssignsLast EnvReader.utf8 layeredFiles Config.strictVariable "1" := by
    refine ⟨[], "/etc/base.env", ["/etc/local/.env", "/etc/more.env"], rfl, ?_, ?_⟩
    · refine ⟨base, baseContents, hbase, hbaseRead, ?_⟩
      rw [hbaseHolds]
      exact List.mem_singleton_self _
    · simp [Surroundings.Assigns, hnested, hmore, hnestedRead, hnestedHolds]
  have hstrict : layered.rawValue EnvReader.utf8 Config.strictVariable (some "0") = .ok (some "1") :=
    (horigin _ _ _ _).mpr (.file rfl hlisted hreadable hlast)
  have hconfig : layered.readConfig (layered.rawValue EnvReader.utf8)
      = .ok ⟨["/opt/recipes"], "DEBUG", false, 100, true⟩ := by
    rw [Surroundings.readConfig, Config.defaultFlag, hstrict]
    rfl
  refine ⟨hstrict, ?_⟩
  apply hkeep [.reload] layered
  rw [← hconfig]
  exact hget [] layered 0

end ConfigStore
end DeploymentRecipes
