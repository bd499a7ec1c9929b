import DeploymentRecipes.Proofs.Catalog.Freshness

/-!
# Sessions

A catalog that is asked time and again, while files around it come, change and go, loads them again
only when it has to.  Its answer is that of a new catalog just when each file is still scanned as
often as it was when the catalog was loaded, and that is so if no path of it holds a wildcard.
-/

namespace DeploymentRecipes.Catalog

variable {registries : Registries} {place : Place} {o : CatalogOptions}

/-- What the user of a catalog sees of it. -/
def snapshot (c : Catalog) : List Recipe × List Diagnostic := (c.recipes, c.diagnostics)

/-- What happens to a catalog and to the files around it. -/
inductive Step where
  | write (names : Names) (file : File)
  | delete (names : Names)
  | refresh (force : Bool)
  | find (id : String)

/-- A catalog in the place where it is used, with the place as it was at its last load that ended. -/
structure Session where
  place : Place
  catalog : Catalog
  loadedAt : Option Place

namespace Session

/-- A session with a new catalog. -/
def start (place : Place) (o : CatalogOptions) : Session := ⟨place, .ofOptions o, none⟩

/-- The session with other files. -/
def withTree (s : Session) (tree : FileTree) : Session :=
  { s with place := { s.place with tree := tree } }

/-- The session after its catalog was to be loaded. If that cannot be finished it stays as it is. -/
def refresh (registries : Registries) (force : Bool) (s : Session) : Session :=
  match (Catalog.refresh registries s.place force s.catalog).value with
  | .ok c =>
    { s with
      catalog := c
      loadedAt := if force || s.catalog.needsLoad s.place then some s.place else s.loadedAt }
  | .error _ => s

/-- The session after a step. Where no file can be, none is written. -/
def step (registries : Registries) (s : Session) : Step → Session
  | .write names file =>
    if s.place.tree.Admits names then s.withTree (s.place.tree.write names file) else s
  | .delete names => s.withTree (s.place.tree.delete names)
  | .refresh force => s.refresh registries force
  | .find _ => s.refresh registries false

/-- The session after some steps. -/
def run (registries : Registries) (steps : List Step) (s : Session) : Session :=
  steps.foldl (step registries) s

/-- What the catalog shows after it was to be loaded. -/
def answer (registries : Registries) (force : Bool) (s : Session) :
    Except LoadError (List Recipe × List Diagnostic) :=
  (Catalog.refresh registries s.place force s.catalog).value.map snapshot

/-- What a new catalog with the same options shows. -/
def freshAnswer (registries : Registries) (s : Session) :
    Except LoadError (List Recipe × List Diagnostic) :=
  (Catalog.refresh registries s.place true (.ofOptions s.catalog.options)).value.map snapshot

/-- A file that has the same time as when the catalog was last loaded holds what it held then. -/
def Faithful (s : Session) : Prop :=
  ∀ past, s.loadedAt = some past → ∀ path ∈ files past s.catalog.options, ∀ file file',
    past.file? path = some file → s.place.file? path = some file' →
      file'.modified = file.modified → file'.bytes = file.bytes

/-- Every file is scanned as often as when the catalog was last loaded. -/
def ScansAlike (s : Session) : Prop :=
  ∀ past, s.loadedAt = some past → files s.place s.catalog.options = files past s.catalog.options

/-! ### What is kept -/

/-- What every step keeps, a run keeps. -/
theorem run_of_step {P : Session → Prop}
    (hstep : ∀ s event, P s → P (s.step registries event)) {s : Session} (h : P s)
    (steps : List Step) :
  P (s.run registries steps)
  := by
  induction steps generalizing s with
  | nil => exact h
  | cons event steps ih => apply ih (hstep s event h)

/-- The contents of the catalog are those of its last load that ended, which was made with the same
tools. -/
structure Consistent (registries : Registries) (o : CatalogOptions) (s : Session) : Prop where
  options : s.catalog.options = o
  tools : ∀ past, s.loadedAt = some past → s.place.tools = past.tools
  loaded : ∀ contents, s.catalog.contents = some contents →
    ∃ past, s.loadedAt = some past ∧ (load registries past o).value = .ok contents

theorem consistent_start (registries : Registries) (place : Place) (o : CatalogOptions) :
  (start place o).Consistent registries o
  := by
  constructor
  · rfl
  · intro past hpast
    cases hpast
  · intro contents h
    cases h

theorem Consistent.refresh {s : Session} (h : s.Consistent registries o) (force : Bool) :
  (s.refresh registries force).Consistent registries o
  := by
  rw [Session.refresh]
  split
  · rename_i c hc
    rw [Catalog.refresh] at hc
    split at hc
    · rename_i hneeds
      obtain ⟨contents, hload, rfl⟩ := exists_of_map_eq_ok hc
      constructor
      · exact h.options
      · rintro past hpast
        rw [if_pos hneeds] at hpast
        rw [← Option.some.inj hpast]
      · rintro _ ⟨⟩
        rw [if_pos hneeds]
        rw [h.options] at hload
        exact ⟨s.place, rfl, hload⟩
    · rename_i hneeds
      obtain rfl := Except.ok.inj hc
      rw [if_neg hneeds]
      exact ⟨h.options, h.tools, h.loaded⟩
  · exact h

theorem Consistent.step {s : Session} (h : s.Consistent registries o) (event : Step) :
  (s.step registries event).Consistent registries o
  := by
  cases event with
  | write names file =>
      rw [Session.step]
      split
      · exact ⟨h.options, h.tools, h.loaded⟩
      · exact h
  | delete names => exact ⟨h.options, h.tools, h.loaded⟩
  | refresh force => apply h.refresh
  | find id => apply h.refresh

theorem Consistent.run {s : Session} (h : s.Consistent registries o) (steps : List Step) :
  (s.run registries steps).Consistent registries o
  := run_of_step (fun _ event h => h.step event) h steps

/-- The files are well-formed, and were when the catalog was last loaded. -/
structure WellFormed (s : Session) : Prop where
  now : s.place.tree.WellFormed
  loaded : ∀ past, s.loadedAt = some past → past.tree.WellFormed

theorem wellFormed_start (h : place.tree.WellFormed) (o : CatalogOptions) :
  (start place o).WellFormed
  := by
  constructor
  · exact h
  · intro past hpast
    cases hpast

theorem WellFormed.refresh {s : Session} (h : s.WellFormed) (registries : Registries)
    (force : Bool) :
  (s.refresh registries force).WellFormed
  := by
  rw [Session.refresh]
  split
  · constructor
    · exact h.now
    · intro past hpast
      dsimp only at hpast
      split at hpast
      · obtain rfl := Option.some.inj hpast
        exact h.now
      · apply h.loaded past hpast
  · exact h

theorem WellFormed.step {s : Session} (h : s.WellFormed) (registries : Registries) (event : Step) :
  (s.step registries event).WellFormed
  := by
  cases event with
  | write names file =>
      rw [Session.step]
      split
      · rename_i hadmits
        exact ⟨h.now.write hadmits file, h.loaded⟩
      · exact h
  | delete names => exact ⟨h.now.delete names, h.loaded⟩
  | refresh force => apply h.refresh
  | find id => apply h.refresh

theorem WellFormed.run {s : Session} (h : s.WellFormed) (registries : Registries)
    (steps : List Step) :
  (s.run registries steps).WellFormed
  := run_of_step (fun _ event h => h.step registries event) h steps

/-! ### Answers -/

theorem freshAnswer_eq (registries : Registries) (s : Session) :
  s.freshAnswer registries = (load registries s.place s.catalog.options).value.map
    fun contents => (contents.recipes, contents.diagnostics)
  := by
  rw [freshAnswer, Catalog.refresh, Bool.true_or, if_pos rfl]
  simp only [ofOptions]
  cases (load registries s.place s.catalog.options).value <;> rfl

/-- A catalog that has to be loaded answers like a new one. -/
theorem answer_of_needsLoad {s : Session} {force : Bool}
    (h : (force || s.catalog.needsLoad s.place) = true) :
  s.answer registries force = s.freshAnswer registries
  := by
  rw [freshAnswer_eq, answer, Catalog.refresh, if_pos h]
  dsimp only
  cases (load registries s.place s.catalog.options).value <;> rfl

theorem answer_of_loaded {s : Session} {contents : CatalogContents}
    (hcontents : s.catalog.contents = some contents) (h : s.catalog.needsLoad s.place = false) :
  s.answer registries false = .ok (contents.recipes, contents.diagnostics)
  := by
  rw [answer, Catalog.refresh, Bool.false_or, h, if_neg (by simp)]
  simp only [Except.map, snapshot, recipes, diagnostics, hcontents]
  rfl

/-- What is known of a catalog that does not have to be loaded: the same files are scanned as at its
last load, and none of them has changed. -/
theorem Consistent.unchanged {s : Session} (h : s.Consistent registries o) (hfaithful : s.Faithful)
    (hneeds : s.catalog.needsLoad s.place = false) :
  ∃ contents past, s.catalog.contents = some contents ∧ s.loadedAt = some past
    ∧ (load registries past o).value = .ok contents
    ∧ (∀ path, path ∈ files s.place o ↔ path ∈ files past o)
    ∧ ReadAlike s.place past (files past o)
  := by
  obtain ⟨rfl, htools, hloaded⟩ := h
  cases hcontents : s.catalog.contents with
  | none =>
      rw [needsLoad, hcontents] at hneeds
      cases hneeds
  | some contents =>
      obtain ⟨past, hpast, hload⟩ := hloaded contents hcontents
      rw [needsLoad, hcontents] at hneeds
      obtain ⟨hmem, htime⟩ := (isStale_eq_false_iff hload).mp hneeds
      refine ⟨contents, past, rfl, hpast, hload, hmem, htools past hpast, ?_⟩
      intro path hpath
      obtain ⟨file, hfile⟩ := exists_file_of_mem_files hpath
      obtain ⟨file', hfile'⟩ := exists_file_of_mem_files ((hmem path).mpr hpath)
      have hmodified : file'.modified = file.modified := by
        simpa [timeOf, hfile, hfile'] using htime path hpath
      have hbytes := hfaithful past hpast path hpath file file' hfile hfile' hmodified
      rw [hfile, hfile']
      cases file
      cases file'
      congr

/-- A catalog answers like a new one just when it has to be loaded or each file is scanned as often as
at its last load. -/
theorem Consistent.answer_eq_iff {s : Session} (h : s.Consistent registries o)
    (hfaithful : s.Faithful) :
  s.answer registries false = s.freshAnswer registries
    ↔ (s.catalog.needsLoad s.place = false → s.ScansAlike)
  := by
  cases hneeds : s.catalog.needsLoad s.place with
  | true =>
      have hloads : (false || s.catalog.needsLoad s.place) = true := hneeds
      simp [answer_of_needsLoad hloads]
  | false =>
      obtain ⟨contents, past, hcontents, hpast, hload, hmem, halike⟩ := h.unchanged hfaithful hneeds
      rw [answer_of_loaded hcontents hneeds, freshAnswer_eq, h.options, eq_self, true_imp_iff,
        ScansAlike, h.options]
      constructor
      · intro heq past' hpast'
        obtain rfl := Option.some.inj (hpast.symm.trans hpast')
        obtain ⟨contents', hload', hsnapshot⟩ := exists_of_map_eq_ok heq.symm
        apply files_eq_of_diagnostics_eq rfl hload hload' (Prod.mk.inj hsnapshot).2 hmem halike
      · intro hscans
        rw [load_congr rfl rfl (hscans past hpast) halike, hload]
        rfl

/-- If no path holds a wildcard, a catalog always answers like a new one. -/
theorem Consistent.answer_eq {s : Session} (h : s.Consistent registries o) (hwell : s.WellFormed)
    (hfaithful : s.Faithful) (hpaths : ∀ root ∈ o.paths, Place.IsPlain root) :
  s.answer registries false = s.freshAnswer registries
  := by
  rw [h.answer_eq_iff hfaithful]
  intro hneeds past hpast
  obtain ⟨contents, past', -, hpast', -, hmem, -⟩ := h.unchanged hfaithful hneeds
  obtain rfl := Option.some.inj (hpast.symm.trans hpast')
  rw [h.options]
  apply files_eq_of_mem_iff hwell.now (hwell.loaded past hpast) hpaths hmem

/-- A catalog that cannot be loaded stays as it is. -/
theorem refresh_of_error {s : Session} {force : Bool} {e : LoadError}
    (h : s.answer registries force = .error e) :
  s.refresh registries force = s
  := by
  rw [answer] at h
  rw [refresh]
  cases hrefresh : (Catalog.refresh registries s.place force s.catalog).value with
  | error e' => rfl
  | ok c =>
      rw [hrefresh] at h
      cases h

/-- The session after a first load. -/
theorem refresh_start {contents : CatalogContents}
    (h : (load registries place o).value = .ok contents) :
  (start place o).refresh registries false = ⟨place, ⟨o, some contents⟩, some place⟩
  := by
  rw [refresh, start, Catalog.refresh]
  simp [ofOptions, needsLoad, h, Except.map]

/-- What a catalog shows is sound. -/
theorem Consistent.sound {s : Session} (h : s.Consistent registries o) {recipe : Recipe}
    (hrecipe : recipe ∈ s.catalog.recipes) :
  recipe.Sound registries o.strict
  := by
  rw [recipes] at hrecipe
  cases hcontents : s.catalog.contents with
  | none => simp [hcontents] at hrecipe
  | some contents =>
      obtain ⟨past, -, hload⟩ := h.loaded contents hcontents
      apply sound_of_load hload
      simpa [hcontents] using hrecipe

/-- After its first load a catalog shows every sound recipe, if every file holds a recipe and the ids of
these differ. -/
theorem mem_recipes_refresh_start (hcover : registries.Cover) {found : List Found}
    (hfiles : files place o = found.map (·.file)) (hnodup : (found.map (·.file)).Nodup)
    (hids : (found.map (·.recipe.id)).Nodup)
    (hread : ∀ f ∈ found, read place o.sizeLimit f.file = .ok f.recipe) {f : Found} (hf : f ∈ found)
    (hsound : f.recipe.Sound registries o.strict) :
  f.recipe ∈ ((start place o).refresh registries false).catalog.recipes
  := by
  have hholds : ∀ file recipe, Holds place o file recipe → ⟨file, recipe⟩ ∈ found := by
    rintro file recipe ⟨hfile, hrecipe⟩
    rw [hfiles] at hfile
    obtain ⟨g, hg, rfl⟩ := List.mem_map.mp hfile
    rw [hread g hg] at hrecipe
    rwa [← Except.ok.inj hrecipe]
  have hreadable : Readable place o.sizeLimit (files place o) := by
    rw [hfiles, Readable, List.forall_mem_map]
    intro g hg
    rw [endsLoad, hread g hg]
  obtain ⟨contents, hload⟩ := (exists_load_iff hcover).mpr hreadable
  have hpublished : f ∈ published registries place o := by
    rw [mem_published_iff (hfiles ▸ hnodup) hload]
    refine ⟨⟨hfiles ▸ List.mem_map_of_mem hf, hread f hf⟩, ?_, hsound⟩
    intro file recipe hother hid
    rw [← List.inj_on_of_nodup_map hids (hholds file recipe hother) hf hid]
  rw [refresh_start hload]
  change f.recipe ∈ contents.recipes
  rw [(loaded_of_load hload).recipes]
  apply List.mem_map_of_mem hpublished

/-- A session with the catalog of a request. -/
def ofRequest (place : Place) (request : CatalogRequest) (config : Config) : Session :=
  start place (request.options place.cwdPath config)

theorem ofRequest_run_refresh {registries : Registries} {place : Place} {request : CatalogRequest}
    {config : Config} {o : CatalogOptions} (h : request.options place.cwdPath config = o) :
  (ofRequest place request config).run registries [.refresh false]
    = (start place o).refresh registries false
  := by
  subst h
  rfl

/-- At any time a strict catalog shows workable recipes only. -/
theorem workable_of_mem_recipes {registries : Registries} {place : Place} {request : CatalogRequest}
    {config : Config} {steps : List Step} {recipe : Recipe}
    (h : recipe ∈ ((ofRequest place request config).run registries steps).catalog.recipes)
    (hstrict : (request.options place.cwdPath config).strict = true) :
  recipe.Workable registries
  := by
  have hconsistent : ((ofRequest place request config).run registries steps).Consistent registries
      (request.options place.cwdPath config) :=
    (consistent_start registries place _).run steps
  exact (hconsistent.sound h).workable hstrict

/-- The answers of a catalog after any steps.  It answers like a new one just when it has to be loaded
or each file is scanned as often as at its last load, and so if none of its paths holds a wildcard;
and when it cannot be loaded it shows what it has shown before. -/
theorem answer_run (registries : Registries) (place : Place) (request : CatalogRequest)
    (config : Config) (steps : List Step) :
  let s := (ofRequest place request config).run registries steps
  (s.Faithful →
      (s.answer registries false = s.freshAnswer registries
        ↔ (s.catalog.needsLoad s.place = false → s.ScansAlike))
      ∧ (place.tree.WellFormed →
        (∀ root ∈ (request.options place.cwdPath config).paths, NamePattern.isWild root = false) →
          s.answer registries false = s.freshAnswer registries))
    ∧ ∀ force e, s.answer registries force = .error e →
      (s.refresh registries force).catalog.snapshot = s.catalog.snapshot
  := by
  intro s
  have hconsistent : s.Consistent registries (request.options place.cwdPath config) :=
    (consistent_start registries place _).run steps
  constructor
  · intro hfaithful
    constructor
    · apply hconsistent.answer_eq_iff hfaithful
    · intro htree hwild
      apply hconsistent.answer_eq ((wellFormed_start htree _).run registries steps) hfaithful
      intro root hroot
      apply isPlain_of_mem_paths hroot (hwild root hroot)
  · intro force e herror
    rw [refresh_of_error herror]

/-! ### A folder of recipes -/

def emptyConfig : Config := ⟨[], Config.defaultLogLevel, false, Config.defaultSizeLimit, false⟩

def threeFilesRequest : CatalogRequest := ⟨some ["/recipes"], some false, some true, some 100⟩

theorem wellFormed_threeFiles :
  threeFiles.tree.WellFormed
  := by
  have hwritten : threeFiles.tree = ((FileTree.empty.write
      ["recipes", "a.json"] ⟨asciiBytes r#"{"id": "a"}"#, 1⟩).write
      ["recipes", "b.json"] ⟨asciiBytes r#"{"id": "b"}"#, 2⟩).write
      ["recipes", "c.json"] ⟨asciiBytes r"{", 3⟩ := rfl
  rw [hwritten]
  apply FileTree.WellFormed.write
  · apply FileTree.WellFormed.write
    · apply FileTree.wellFormed_empty.write
      decide +kernel
    · decide +kernel
  · decide +kernel

/-- One of the files is deleted after a load. -/
def threeFilesSteps : List Step := [.refresh false, .delete ["recipes", "b.json"]]

theorem answer_run_threeFiles :
  let s := (ofRequest threeFiles threeFilesRequest emptyConfig).run .delivered threeFilesSteps
  s.Faithful ∧ s.answer .delivered false = s.freshAnswer .delivered
  := by
  intro s
  have hreadable : Readable threeFiles 100 (files threeFiles threeFilesCatalog.options) := by
    rw [files_threeFiles]
    decide +kernel
  obtain ⟨contents, hload⟩ := (exists_load_iff Registries.cover_delivered).mpr hreadable
  have hs : s = ⟨{ threeFiles with tree := threeFiles.tree.delete ["recipes", "b.json"] },
      ⟨threeFilesCatalog.options, some contents⟩, some threeFiles⟩ := by
    change ((start threeFiles threeFilesCatalog.options).refresh .delivered false).step .delivered
      (.delete ["recipes", "b.json"]) = _
    rw [refresh_start hload]
    rfl
  have hfaithful : s.Faithful := by
    rw [hs]
    rintro _ ⟨⟩ path hpath file file' hfile hfile' -
    rw [files_threeFiles, List.mem_cons, List.mem_cons, List.mem_singleton] at hpath
    rcases hpath with rfl | rfl | rfl
    · rw [← Option.some.inj (hfile.symm.trans hfile')]
    · cases hfile'
    · rw [← Option.some.inj (hfile.symm.trans hfile')]
  use hfaithful
  obtain ⟨hanswer, -⟩ :=
    answer_run .delivered threeFiles threeFilesRequest emptyConfig threeFilesSteps
  apply (hanswer hfaithful).2 wellFormed_threeFiles
  decide +kernel

/-! ### A directory with brackets in its name -/

/-- A place with a recipe in a directory. -/
def bracketed : Place where
  tree := {
    files := [(["b", "x.json"], ⟨asciiBytes r#"{"id": "X"}"#, 1⟩)]
    directories := [["b"]] }
  cwd := []
  home := "/"

/-- A request for that directory and for one that is not there yet. As a name pattern, the name of the
second one stands for that of the first. -/
def bracketedRequest : CatalogRequest := ⟨some ["/b", "/[b]"], some false, some true, some 100⟩

def bracketedOptions : CatalogOptions := ⟨["/b", "/[b]"], false, true, 100⟩

/-- The second directory is made for some other file after a load. -/
def bracketedSteps : List Step := [.refresh false, .write ["[b]", "note.txt"] ⟨asciiBytes "hi", 2⟩]

def bracketedLater : Place :=
  { bracketed with tree := bracketed.tree.write ["[b]", "note.txt"] ⟨asciiBytes "hi", 2⟩ }

theorem files_bracketed :
  files bracketed bracketedOptions = ["/b/x.json"]
  := by
  have hscan : bracketedOptions.paths.flatMap
      (bracketed.recipeFilesBelow bracketedOptions.recursive) = ["/b/x.json"] := by decide +kernel
  rw [files, Place.recipeFiles, hscan, List.mergeSort_singleton]

theorem files_bracketedLater :
  files bracketedLater bracketedOptions = ["/b/x.json", "/b/x.json"]
  := by
  have hscan : bracketedOptions.paths.flatMap
      (bracketedLater.recipeFilesBelow bracketedOptions.recursive)
        = ["/b/x.json", "/b/x.json"] := by decide +kernel
  rw [files, Place.recipeFiles, hscan]
  apply List.mergeSort_of_pairwise
  decide

/-- The file is then scanned twice, which the catalog does not see: it still shows the recipe, and a
new catalog does not. -/
theorem answer_ne_freshAnswer_bracketed :
  let s := (ofRequest bracketed bracketedRequest emptyConfig).run .delivered bracketedSteps
  s.Faithful ∧ s.answer .delivered false ≠ s.freshAnswer .delivered
  := by
  intro s
  have hreadable : Readable bracketed 100 (files bracketed bracketedOptions) := by
    rw [files_bracketed]
    decide +kernel
  obtain ⟨contents, hload⟩ := (exists_load_iff Registries.cover_delivered).mpr hreadable
  have hs : s = ⟨bracketedLater, ⟨bracketedOptions, some contents⟩, some bracketed⟩ := by
    change ((start bracketed bracketedOptions).refresh .delivered false).step .delivered
      (.write ["[b]", "note.txt"] ⟨asciiBytes "hi", 2⟩) = _
    have hadmits : bracketed.tree.Admits ["[b]", "note.txt"] := by decide +kernel
    rw [refresh_start hload, step, if_pos hadmits]
    rfl
  have hsame : bracketedLater.file? "/b/x.json" = bracketed.file? "/b/x.json" := rfl
  have hfaithful : s.Faithful := by
    rw [hs]
    rintro _ ⟨⟩ path hpath file file' hfile hfile' -
    rw [files_bracketed, List.mem_singleton] at hpath
    subst hpath
    rw [hsame, hfile] at hfile'
    rw [Option.some.inj hfile']
  use hfaithful
  have hconsistent : s.Consistent .delivered bracketedOptions :=
    (consistent_start .delivered bracketed bracketedOptions).run bracketedSteps
  rw [Ne, hconsistent.answer_eq_iff hfaithful, hs]
  intro hscans
  have hfresh : isStale bracketedLater bracketedOptions contents = false := by
    rw [isStale_eq_false_iff hload, files_bracketed, files_bracketedLater]
    constructor
    · simp
    · intro path hpath
      rw [List.mem_singleton] at hpath
      rw [hpath, timeOf, timeOf, hsame]
  have hfiles := hscans hfresh bracketed rfl
  rw [files_bracketedLater, files_bracketed] at hfiles
  simp at hfiles

end Session
end DeploymentRecipes.Catalog
