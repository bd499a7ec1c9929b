import DeploymentRecipes.Proofs.File.Tree
import Mathlib.Data.List.Nodup
import Mathlib.Data.List.TakeWhile
import Mathlib.Data.String.Basic

/-!
# Searches below a directory

A search goes through the directories that its root stands for, as a name pattern, and looks below
each of them.  A path that leads somewhere leads there through directories.  So what is found below a
directory can be told from the paths alone: it is what leads to something through names without a dot
in front, and it is found once.  A root without a wildcard stands for itself only.
-/

namespace DeploymentRecipes

namespace FileTree

variable {tree : FileTree} {cwd : Names}

/-! ### Following paths -/

theorem step?_empty {here names : Names} :
  tree.step? here "" = some names ↔ tree.isDirectory here = true ∧ names = here
  := by
  rw [step?]
  cases tree.isDirectory here with
  | false => simp
  | true => simp [eq_comm]

theorem isDirectory_of_step? {here names : Names} {name : String}
    (h : tree.step? here name = some names) :
  tree.isDirectory here = true
  := by
  rw [step?] at h
  by_contra hnot
  simp [hnot] at h

theorem follow?_eq_some_iff {path : String} {names : Names} :
  tree.follow? cwd path = some names ↔ path ≠ "" ∧ '\x00' ∉ path.toList
    ∧ (Text.split '/' path).foldlM tree.step? (if Text.startsWith path "/" then [] else cwd)
      = some names
  := by
  rw [follow?]
  split
  · rename_i hnone
    simp only [Bool.or_eq_true, beq_iff_eq, List.contains_iff_mem] at hnone
    simp only [reduceCtorEq, false_iff, not_and]
    intro hne hnull
    cases hnone with
    | inl hempty => cases hne hempty
    | inr hmem => cases hnull hmem
  · rename_i hsome
    simp only [Bool.or_eq_true, beq_iff_eq, List.contains_iff_mem, not_or] at hsome
    simp [hsome]

theorem foldlM_step?_concat {here names : Names} {parts : List String} {part : String} :
  (parts ++ [part]).foldlM tree.step? here = some names
    ↔ ∃ before, parts.foldlM tree.step? here = some before ∧ tree.step? before part = some names
  := by
  rw [List.foldlM_append, Option.bind_eq_bind, Option.bind_eq_some_iff]
  apply exists_congr
  intro before
  simp

/-- A path that is continued by a name leads on from the directory that it leads to. -/
theorem follow?_join {base name : String} {names : Names} (hbase : base ≠ "")
    (hname : '/' ∉ name.toList) :
  tree.follow? cwd (Path.join base name) = some names ↔ '\x00' ∉ name.toList
    ∧ ∃ here, tree.follow? cwd base = some here ∧ tree.step? here name = some names
  := by
  have hlead := Path.startsWith_of_not_mem hname
  obtain ⟨before, hjoin, hsplit⟩ := Path.split_join hbase hname
  have hfold : ∀ start, (before ++ [name]).foldlM tree.step? start = some names
      ↔ ∃ here, (Text.split '/' base).foldlM tree.step? start = some here
        ∧ tree.step? here name = some names := by
    intro start
    rw [foldlM_step?_concat]
    rcases hsplit with hsplit | hsplit
    · rw [hsplit]
    · -- After a slash at the end of the base comes an empty part, which leads nowhere else.
      simp only [hsplit, foldlM_step?_concat, step?_empty]
      constructor
      · rintro ⟨here, hhere, hstep⟩
        exact ⟨here, ⟨here, hhere, isDirectory_of_step? hstep, rfl⟩, hstep⟩
      · rintro ⟨here, ⟨before, hbefore, -, heq⟩, hstep⟩
        rw [heq] at hstep
        exact ⟨before, hbefore, hstep⟩
  simp only [follow?_eq_some_iff, hjoin, hfold, Path.startsWith_join_iff hbase hlead,
    Path.mem_join_iff hlead (show '\x00' ≠ '/' by decide)]
  constructor
  · rintro ⟨-, hnull, here, hhere, hstep⟩
    rw [not_or] at hnull
    exact ⟨hnull.2, here, ⟨hbase, hnull.1, hhere⟩, hstep⟩
  · rintro ⟨hnull, here, ⟨-, hnull', hhere⟩, hstep⟩
    exact ⟨Path.join_ne_empty hbase name, not_or.mpr ⟨hnull', hnull⟩, here, hhere, hstep⟩

theorem IsName.step?_eq {here : Names} {name : String} (h : IsName name)
    (hhere : tree.isDirectory here = true) :
  tree.step? here name = some (here ++ [name])
  := by
  have hlong : ¬ name.utf8ByteSize > 255 := by
    have hshort := h.short
    omega
  rw [step?, hhere]
  simp [hlong, h.isPart.1, h.notHere, h.notAbove]

/-- In a well-formed tree the path to something that is there leads there. -/
theorem WellFormed.follow?_under (h : tree.WellFormed) {dir : String} (hdir : dir ≠ "")
    {here below : Names} (hfollow : tree.follow? cwd dir = some here)
    (hbelow : tree.isFile (here ++ below) = true ∨ tree.isDirectory (here ++ below) = true) :
  tree.follow? cwd (Path.under dir below) = some (here ++ below)
  := by
  induction below using List.reverseRecOn with
  | nil =>
      rw [List.append_nil]
      exact hfollow
  | append_singleton below name ih =>
      rw [← List.append_assoc] at hbelow ⊢
      have hname := h.isName _ hbelow name (by simp)
      have hdirectory := h.above _ hbelow
      rw [List.dropLast_concat] at hdirectory
      rw [Path.under, List.foldl_append, List.foldl_cons, List.foldl_nil, ← Path.under,
        follow?_join (Path.under_ne_empty hdir _) hname.isPart.2]
      exact ⟨hname.noNull, here ++ below, ih (Or.inr hdirectory), hname.step?_eq hdirectory⟩

end FileTree

namespace Place

variable {place : Place} {tree : FileTree} {here : Names}

/-! ### What a search finds -/

/-- A part of a path without a dot in front. -/
structure IsVisible (name : String) : Prop where
  isPart : Path.IsPart name
  visible : isHidden name = false

theorem IsVisible.step?_eq_some {name : String} {names : Names} (h : IsVisible name)
    (hstep : tree.step? here name = some names) :
  names = here ++ [name]
  := by
  have hne := h.isPart.1
  have hdot : name ≠ "." := by
    rintro rfl
    exact absurd h.visible (by decide)
  have hdots : name ≠ ".." := by
    rintro rfl
    exact absurd h.visible (by decide)
  rw [FileTree.step?] at hstep
  split at hstep
  · cases hstep
  · simp only [beq_iff_eq, Bool.or_eq_true, hne, hdot, hdots, or_self, if_false] at hstep
    exact (Option.some.inj hstep).symm

/-- A path that leads somewhere through visible names leads there through directories. -/
theorem exists_of_follow?_under {cwd : Names} {root : String} (hroot : root ≠ "")
    {above : List String} {name : String} (h : ∀ n ∈ above ++ [name], IsVisible n) {names : Names}
    (hnames : tree.follow? cwd (Path.under root (above ++ [name])) = some names) :
  ∃ start, tree.follow? cwd root = some start
    ∧ tree.follow? cwd (Path.under root above) = some (start ++ above)
    ∧ tree.isDirectory start = true ∧ tree.isDirectory (start ++ above) = true
    ∧ names = start ++ above ++ [name]
  := by
  -- A path is continued at its end, so the last name is taken off first.
  induction above using List.reverseRecOn generalizing name names with
  | nil =>
      rw [List.nil_append, Path.under, List.foldl_cons, List.foldl_nil,
        FileTree.follow?_join hroot (h name (by simp)).isPart.2] at hnames
      obtain ⟨-, start, hstart, hstep⟩ := hnames
      have hdirectory := FileTree.isDirectory_of_step? hstep
      refine ⟨start, hstart, ?_, hdirectory, ?_, ?_⟩
      · rw [List.append_nil]
        exact hstart
      · rw [List.append_nil]
        exact hdirectory
      · rw [List.append_nil]
        apply (h name (by simp)).step?_eq_some hstep
  | append_singleton above last ih =>
      have hname := h name (by simp)
      rw [Path.under, List.foldl_append, List.foldl_cons, List.foldl_nil, ← Path.under,
        FileTree.follow?_join (Path.under_ne_empty hroot _) hname.isPart.2] at hnames
      obtain ⟨-, here, hhere, hstep⟩ := hnames
      obtain ⟨start, hstart, -, hdirectory, -, rfl⟩ :=
        ih (fun n hn => h n (List.mem_append_left _ hn)) hhere
      rw [List.append_assoc] at hhere hstep
      exact ⟨start, hstart, hhere, hdirectory, FileTree.isDirectory_of_step? hstep,
        hname.step?_eq_some hstep⟩

/-- The way to a directory from one above it, if no name on it is hidden. -/
theorem wayBelow_eq_some_iff {names : Names} {path : String} :
  (if here.isPrefixOf names && !(names.drop here.length).isEmpty
      && (names.drop here.length).all (!isHidden ·) then
      some (Text.join "/" (names.drop here.length))
    else none) = some path
    ↔ ∃ below ≠ [], names = here ++ below ∧ (∀ name ∈ below, isHidden name = false)
      ∧ path = Text.join "/" below
  := by
  constructor
  · intro hbelow
    split at hbelow
    · rename_i hall
      simp only [Bool.and_eq_true, List.isPrefixOf_iff_prefix, Bool.not_eq_true',
        List.isEmpty_eq_false_iff, List.all_eq_true] at hall
      obtain ⟨⟨⟨below, rfl⟩, hne⟩, hvisible⟩ := hall
      rw [List.drop_left] at hne hvisible hbelow
      exact ⟨below, hne, rfl, hvisible, (Option.some.inj hbelow).symm⟩
    · cases hbelow
  · rintro ⟨below, hne, rfl, hvisible, rfl⟩
    rw [List.drop_left, if_pos]
    simpa [hne] using hvisible

theorem mem_directoriesBelow_iff {path : String} :
  path ∈ directoriesBelow tree here ↔ ∃ below ≠ [], here ++ below ∈ tree.directories
    ∧ (∀ name ∈ below, isHidden name = false) ∧ path = Text.join "/" below
  := by
  simp only [directoriesBelow, List.mem_filterMap, wayBelow_eq_some_iff]
  constructor
  · rintro ⟨_, hdirectory, below, hne, rfl, hvisible, hpath⟩
    exact ⟨below, hne, hdirectory, hvisible, hpath⟩
  · rintro ⟨below, hne, hdirectory, hvisible, hpath⟩
    exact ⟨_, hdirectory, below, hne, rfl, hvisible, hpath⟩

theorem accepts_star (cs : List Char) :
  (NamePattern.ofText "*").accepts cs = true
  := by
  have hstar : NamePattern.ofText "*" = [.anyRun] := rfl
  rw [hstar, NamePattern.accepts]
  induction cs with
  | nil => rfl
  | cons c cs ih => rw [NamePattern.anyEnd, ih, Bool.or_true]

/-- A star stands for the visible entries of a directory. -/
theorem entriesLike_star (tree : FileTree) (here : Names) :
  entriesLike tree true "*" here = ((tree.entries here).map (·.1)).filter (!isHidden ·)
  := by
  rw [entriesLike, List.filter_map]
  congr 2
  funext e
  rw [accepts_star]
  simp [show isHidden "*" = false from rfl]

theorem namesFor_star {recursive : Bool} {path : String}
    (h : place.tree.follow? place.cwd path = some here) :
  place.namesFor recursive true "*" path
    = ((place.tree.entries here).map (·.1)).filter (!isHidden ·)
  := by
  have hdepth : ("*" == anyDepth) = false := rfl
  have hwild : NamePattern.isWild "*" = true := rfl
  simp only [namesFor, h, hdepth, hwild, Bool.not_true, Bool.and_false, Bool.false_eq_true,
    if_false]
  apply entriesLike_star

theorem namesFor_anyDepth {path : String} (h : place.tree.follow? place.cwd path = some here) :
  place.namesFor true false anyDepth path
    = (if place.tree.isDirectory here then [""] else []) ++ directoriesBelow place.tree here
  := by
  have hdepth : (anyDepth == anyDepth) = true := rfl
  have hwild : NamePattern.isWild anyDepth = true := rfl
  simp only [namesFor, h, hdepth, hwild]
  rfl

theorem namesFor_eq_nil {recursive last : Bool} {part path : String}
    (h : place.tree.follow? place.cwd path = none) :
  place.namesFor recursive last part path = []
  := by
  simp only [namesFor, h]

/-- Only what leads somewhere has parts of a pattern stand for something below it. -/
theorem exists_follow?_of_mem_namesFor {recursive last : Bool} {part path name : String}
    (h : name ∈ place.namesFor recursive last part path) :
  ∃ here, place.tree.follow? place.cwd path = some here
  := by
  cases hfollow : place.tree.follow? place.cwd path with
  | none =>
      rw [namesFor_eq_nil hfollow] at h
      cases h
  | some here => use here

/-! ### The directories that a root stands for -/

/-- The paths with the names that one more part of a pattern stands for, which is not the last. -/
def deeper (place : Place) (recursive : Bool) (paths : List String) (part : String) : List String :=
  paths.flatMap fun path => (place.namesFor recursive false part path).map (Path.join path)

/-- The directories that the parts of a root stand for, read as name patterns. -/
def directoriesLike (place : Place) (recursive : Bool) (root : String) : List String :=
  let (start, own) := splitPatterns root
  own.foldl (place.deeper recursive) [start]

/-- What a search finds below one directory. -/
def searchBelow (place : Place) (recursive : Bool) (dir : String) : List String :=
  place.expand recursive (if recursive then [anyDepth, "*"] else ["*"]) [dir]

theorem expand_append {recursive : Bool} {patterns : List String} (hne : patterns ≠ [])
    (own paths : List String) :
  place.expand recursive (own ++ patterns) paths
    = place.expand recursive patterns (own.foldl (place.deeper recursive) paths)
  := by
  induction own generalizing paths with
  | nil => rfl
  | cons part own ih =>
      have hlast : (own ++ patterns).isEmpty = false := by simp [hne]
      rw [List.cons_append, expand, hlast, ih]
      rfl

/-- A pattern stands for something below each path apart from the others. -/
theorem expand_eq_flatMap {recursive : Bool} (patterns paths : List String) :
  place.expand recursive patterns paths
    = paths.flatMap fun path => place.expand recursive patterns [path]
  := by
  induction patterns generalizing paths with
  | nil => simp [expand]
  | cons part patterns ih =>
      rw [expand, ih, List.flatMap_assoc]
      apply List.flatMap_congr
      intro path _
      rw [expand, ih, List.flatMap_singleton]

/-- A search looks below the directories that its root stands for. -/
theorem search_eq_flatMap (place : Place) (recursive : Bool) (root : String) :
  place.search recursive root (if recursive then [anyDepth, "*"] else ["*"])
    = (place.directoriesLike recursive root).flatMap (place.searchBelow recursive)
  := by
  have hne : (if recursive then [anyDepth, "*"] else ["*"]) ≠ [] := by cases recursive <;> simp
  rw [search, directoriesLike]
  cases splitPatterns root with
  | mk start own =>
      dsimp only
      rw [expand_append hne, expand_eq_flatMap]
      rfl

theorem forall_ne_empty_foldl_deeper {recursive : Bool} (parts : List String) {paths : List String}
    (h : ∀ path ∈ paths, path ≠ "") :
  ∀ path ∈ parts.foldl (place.deeper recursive) paths, path ≠ ""
  := by
  induction parts generalizing paths with
  | nil => exact h
  | cons part parts ih =>
      apply ih
      intro path hpath
      obtain ⟨before, hbefore, hmem⟩ := List.mem_flatMap.mp hpath
      obtain ⟨name, -, rfl⟩ := List.mem_map.mp hmem
      apply Path.join_ne_empty (h before hbefore)

/-- The directories that a normal root stands for have paths that are not empty. -/
theorem ne_empty_of_mem_directoriesLike {recursive : Bool} {root dir : String}
    (hroot : Path.IsNormal root) (hdir : dir ∈ place.directoriesLike recursive root) :
  dir ≠ ""
  := by
  apply forall_ne_empty_foldl_deeper _ _ dir hdir
  obtain ⟨slashes, names, hslashes, hnames, rfl⟩ := hroot
  rw [List.forall_mem_singleton, Path.leadingSlashes_append hslashes (Path.startsWith_textJoin hnames)]
  rcases hslashes with rfl | rfl <;> simp

/-! ### Plain directories -/

/-- The path of a directory that is taken as it is: it is normal and holds no wildcard. -/
structure IsPlain (root : String) : Prop where
  normal : Path.IsNormal root
  notWild : NamePattern.isWild root = false

theorem splitPatterns_of_isPlain {root : String} (h : IsPlain root) :
  splitPatterns root = (root, [])
  := by
  obtain ⟨⟨slashes, names, hslashes, hnames, rfl⟩, hwild⟩ := h
  have hplain : ∀ name ∈ names, NamePattern.isWild name = false := by
    intro name hname
    rw [NamePattern.isWild, List.any_eq_false] at hwild ⊢
    intro c hc
    apply hwild
    rw [String.toList_append, List.mem_append]
    exact Or.inr (Path.mem_textJoin hname hc)
  have htake : names.takeWhile (!NamePattern.isWild ·) = names := by
    rw [List.takeWhile_eq_self_iff]
    intro name hname
    rw [hplain name hname, Bool.not_false]
  simp only [splitPatterns, Path.parts_of_normal hslashes hnames, htake, List.drop_length,
    Path.leadingSlashes_append hslashes (Path.startsWith_textJoin hnames)]

/-- A plain directory stands for itself. -/
theorem directoriesLike_of_isPlain {root : String} (h : IsPlain root) (place : Place)
    (recursive : Bool) :
  place.directoriesLike recursive root = [root]
  := by
  simp [directoriesLike, splitPatterns_of_isPlain h]

/-! ### Searches below a directory -/

/-- The search in one directory. -/
theorem searchBelow_false (place : Place) (dir : String) :
  place.searchBelow false dir = (place.namesFor false true "*" dir).map (Path.join dir)
  := by
  simp [searchBelow, expand]

/-- The search in a directory and in all directories below it. -/
theorem searchBelow_true (place : Place) (dir : String) :
  place.searchBelow true dir
    = ((place.namesFor true false anyDepth dir).map (Path.join dir)).flatMap fun path =>
      (place.namesFor true true "*" path).map (Path.join path)
  := by
  simp [searchBelow, expand]

theorem isVisible_of_mem_entries (h : tree.WellFormed) {name : String} {b : Bool}
    (hentry : (name, b) ∈ tree.entries here) (hvisible : isHidden name = false) :
  IsVisible name
  := by
  obtain ⟨-, hmem⟩ := FileTree.mem_entries_iff.mp hentry
  have hexists : tree.isFile (here ++ [name]) = true ∨ tree.isDirectory (here ++ [name]) = true := by
    cases b with
    | false => exact Or.inl (FileTree.isFile_iff.mpr hmem)
    | true => exact Or.inr (FileTree.isDirectory_iff.mpr (Or.inr hmem))
  exact ⟨(h.isName _ hexists name (by simp)).isPart, hvisible⟩

theorem isPart_of_mem_directories (h : tree.WellFormed) {below : Names}
    (hbelow : here ++ below ∈ tree.directories) :
  ∀ name ∈ below, Path.IsPart name
  := by
  intro name hname
  have hdirectory := FileTree.isDirectory_iff.mpr (Or.inr hbelow)
  apply (h.isName _ (Or.inr hdirectory) name (List.mem_append_right here hname)).isPart

/-- The names that a star stands for are visible. -/
theorem isVisible_of_mem_namesFor_star (h : place.tree.WellFormed) {recursive : Bool}
    {path name : String} (hname : name ∈ place.namesFor recursive true "*" path) :
  IsVisible name
  := by
  obtain ⟨here, hfollow⟩ := exists_follow?_of_mem_namesFor hname
  rw [namesFor_star hfollow, List.mem_filter, List.mem_map] at hname
  obtain ⟨⟨⟨_, b⟩, hentry, rfl⟩, hvisible⟩ := hname
  apply isVisible_of_mem_entries h hentry
  simpa using hvisible

/-- Two stars stand for the way to a directory through visible names. -/
theorem exists_textJoin_of_mem_namesFor (h : place.tree.WellFormed) {root path : String}
    (hpath : path ∈ place.namesFor true false anyDepth root) :
  ∃ above, (∀ name ∈ above, IsVisible name) ∧ path = Text.join "/" above
  := by
  obtain ⟨here, hfollow⟩ := exists_follow?_of_mem_namesFor hpath
  rw [namesFor_anyDepth hfollow, List.mem_append] at hpath
  rcases hpath with hpath | hpath
  · split at hpath
    · obtain rfl := List.mem_singleton.mp hpath
      exact ⟨[], by simp, rfl⟩
    · cases hpath
  · obtain ⟨below, -, hdirectory, hvisible, rfl⟩ := mem_directoriesBelow_iff.mp hpath
    have hparts := isPart_of_mem_directories h hdirectory
    exact ⟨below, fun name hname => ⟨hparts name hname, hvisible name hname⟩, rfl⟩

/-- A search finds only what lies below its directory through visible names. -/
theorem exists_under_of_mem_searchBelow (h : place.tree.WellFormed) {recursive : Bool}
    {dir path : String} (hpath : path ∈ place.searchBelow recursive dir) :
  ∃ above name, (recursive = false → above = []) ∧ (∀ n ∈ above ++ [name], IsVisible n)
    ∧ path = Path.under dir (above ++ [name])
  := by
  cases recursive with
  | false =>
      rw [searchBelow_false, List.mem_map] at hpath
      obtain ⟨name, hname, rfl⟩ := hpath
      refine ⟨[], name, fun _ => rfl, ?_, rfl⟩
      simpa using isVisible_of_mem_namesFor_star h hname
  | true =>
      rw [searchBelow_true, List.mem_flatMap] at hpath
      obtain ⟨_, hdirectory, hpath⟩ := hpath
      obtain ⟨way, hway, rfl⟩ := List.mem_map.mp hdirectory
      obtain ⟨name, hname, rfl⟩ := List.mem_map.mp hpath
      obtain ⟨above, habove, rfl⟩ := exists_textJoin_of_mem_namesFor h hway
      have hvisible : ∀ n ∈ above ++ [name], IsVisible n := by
        rw [List.forall_mem_append]
        exact ⟨habove, by simpa using isVisible_of_mem_namesFor_star h hname⟩
      refine ⟨above, name, by simp, hvisible, ?_⟩
      apply Path.join_join_textJoin dir fun n hn => (hvisible n hn).isPart

theorem isFile_iff {path : String} :
  place.isFile path = true ↔ ∃ names, place.tree.follow? place.cwd path = some names
    ∧ place.tree.isFile names = true
  := by
  rw [isFile, FileTree.isFileAt]
  cases place.tree.follow? place.cwd path with
  | none => simp
  | some names => simp

/-- What lies below a directory through visible names lies below a directory. -/
theorem isDirectory_of_isFile_under {root : String} (hroot : root ≠ "") {above : List String}
    {name : String} (h : ∀ n ∈ above ++ [name], IsVisible n)
    (hfile : place.isFile (Path.under root (above ++ [name])) = true) :
  place.isDirectory root = true
  := by
  obtain ⟨names, hnames, -⟩ := isFile_iff.mp hfile
  obtain ⟨start, hstart, -, hdirectory, -, -⟩ := exists_of_follow?_under hroot h hnames
  rw [isDirectory, FileTree.isDirectoryAt, hstart]
  exact hdirectory

theorem mem_namesFor_star {recursive : Bool} {path name : String}
    (hfollow : place.tree.follow? place.cwd path = some here)
    (hdirectory : place.tree.isDirectory here = true)
    (hfile : place.tree.isFile (here ++ [name]) = true) (hvisible : isHidden name = false) :
  name ∈ place.namesFor recursive true "*" path
  := by
  rw [namesFor_star hfollow, List.mem_filter, List.mem_map]
  constructor
  · refine ⟨(name, false), ?_, rfl⟩
    rw [FileTree.mem_entries_iff]
    exact ⟨hdirectory, FileTree.isFile_iff.mp hfile⟩
  · rw [hvisible, Bool.not_false]

/-- Two stars stand for each way to a directory through visible names, and the path along it leads
there. -/
theorem textJoin_mem_namesFor {root : String} (hroot : root ≠ "") {above : List String}
    (h : ∀ n ∈ above, IsVisible n) (hfollow : place.tree.follow? place.cwd root = some here)
    (hunder : place.tree.follow? place.cwd (Path.under root above) = some (here ++ above))
    (hhere : place.tree.isDirectory here = true)
    (habove : place.tree.isDirectory (here ++ above) = true) :
  Text.join "/" above ∈ place.namesFor true false anyDepth root
    ∧ place.tree.follow? place.cwd (Path.join root (Text.join "/" above)) = some (here ++ above)
  := by
  rw [namesFor_anyDepth hfollow, if_pos hhere, List.mem_append]
  by_cases hnil : above = []
  · subst hnil
    rw [List.append_nil, FileTree.follow?_join hroot (by simp [Text.join])]
    exact ⟨Or.inl (by simp [Text.join]), by simp [Text.join], here, hfollow,
      FileTree.step?_empty.mpr ⟨hhere, rfl⟩⟩
  · rw [Path.join_textJoin root hnil fun n hn => (h n hn).isPart]
    refine ⟨Or.inr ?_, hunder⟩
    rw [mem_directoriesBelow_iff]
    refine ⟨above, hnil, ?_, fun n hn => (h n hn).visible, rfl⟩
    simpa [FileTree.isDirectory_iff, hnil] using habove

/-- A search finds every file that lies below its directory through visible names. -/
theorem mem_searchBelow_of_isFile {recursive : Bool} {dir : String} (hdir : dir ≠ "")
    {above : List String} {name : String} (habove : recursive = false → above = [])
    (h : ∀ n ∈ above ++ [name], IsVisible n)
    (hfile : place.isFile (Path.under dir (above ++ [name])) = true) :
  Path.under dir (above ++ [name]) ∈ place.searchBelow recursive dir
  := by
  obtain ⟨names, hnames, hfile⟩ := isFile_iff.mp hfile
  obtain ⟨start, hstart, hunder, hstartDirectory, haboveDirectory, rfl⟩ :=
    exists_of_follow?_under hdir h hnames
  obtain ⟨hvisibleAbove, hvisibleName⟩ := List.forall_mem_append.mp h
  have hvisible := (hvisibleName name List.mem_cons_self).visible
  cases recursive with
  | false =>
      obtain rfl := habove rfl
      rw [searchBelow_false]
      apply List.mem_map_of_mem
      apply mem_namesFor_star hstart hstartDirectory _ hvisible
      simpa using hfile
  | true =>
      obtain ⟨hway, hfollow⟩ := textJoin_mem_namesFor hdir hvisibleAbove hstart hunder
        hstartDirectory haboveDirectory
      rw [searchBelow_true, List.mem_flatMap]
      use Path.join dir (Text.join "/" above), List.mem_map_of_mem hway
      rw [← Path.join_join_textJoin dir fun n hn => (h n hn).isPart]
      apply List.mem_map_of_mem (mem_namesFor_star hfollow haboveDirectory hfile hvisible)

theorem nodup_namesFor_star (h : place.tree.WellFormed) (recursive : Bool) (path : String) :
  (place.namesFor recursive true "*" path).Nodup
  := by
  cases hfollow : place.tree.follow? place.cwd path with
  | none =>
      rw [namesFor_eq_nil hfollow]
      apply List.nodup_nil
  | some here =>
      rw [namesFor_star hfollow]
      apply (h.nodup_entries here).sublist List.filter_sublist

theorem nodup_directoriesBelow (h : tree.WellFormed) (here : Names) :
  (directoriesBelow tree here).Nodup
  := by
  rw [directoriesBelow, List.Nodup, List.pairwise_filterMap]
  apply h.nodup_directories.imp_of_mem
  intro names names' hnames hnames' hne path hpath path' hpath' heq
  obtain ⟨below, -, rfl, -, rfl⟩ := wayBelow_eq_some_iff.mp hpath
  obtain ⟨below', -, rfl, -, rfl⟩ := wayBelow_eq_some_iff.mp hpath'
  have hparts := isPart_of_mem_directories h hnames
  have hparts' := isPart_of_mem_directories h hnames'
  apply hne
  rw [Path.textJoin_inj hparts hparts' heq]

/-- The ways to the directories below a directory differ. -/
theorem nodup_namesFor_anyDepth (h : place.tree.WellFormed) (root : String) :
  (place.namesFor true false anyDepth root).Nodup
  := by
  cases hfollow : place.tree.follow? place.cwd root with
  | none =>
      rw [namesFor_eq_nil hfollow]
      apply List.nodup_nil
  | some here =>
      have hempty : "" ∉ directoriesBelow place.tree here := by
        rw [mem_directoriesBelow_iff]
        rintro ⟨below, hne, hdirectory, -, heq⟩
        have hparts := isPart_of_mem_directories h hdirectory
        have hnone : ∀ name ∈ ([] : List String), Path.IsPart name := by simp
        apply hne
        apply Path.textJoin_inj hparts hnone heq.symm
      rw [namesFor_anyDepth hfollow]
      split
      · exact List.nodup_cons.mpr ⟨hempty, nodup_directoriesBelow h here⟩
      · exact nodup_directoriesBelow h here

theorem parts_join_join {root : String} (hroot : root ≠ "") {above : List String} {name : String}
    (habove : ∀ n ∈ above, IsVisible n) (hname : Path.IsPart name) :
  Path.parts (Path.join (Path.join root (Text.join "/" above)) name)
    = Path.parts root ++ (above ++ [name])
  := by
  have hparts : ∀ n ∈ above ++ [name], Path.IsPart n := by
    rw [List.forall_mem_append]
    exact ⟨fun n hn => (habove n hn).isPart, by simpa using hname⟩
  rw [Path.join_join_textJoin root hparts, Path.parts_under hroot hparts]

/-- A search finds nothing twice below its directory. -/
theorem nodup_searchBelow (h : place.tree.WellFormed) (recursive : Bool) {dir : String}
    (hdir : dir ≠ "") :
  (place.searchBelow recursive dir).Nodup
  := by
  have hnames : ∀ {way : String}, way ≠ "" →
      ((place.namesFor recursive true "*" way).map (Path.join way)).Nodup := by
    intro way hway
    apply List.Nodup.map_on _ (nodup_namesFor_star h recursive way)
    intro name hname name' hname' heq
    have hparts := congrArg Path.parts heq
    rw [Path.parts_join hway (isVisible_of_mem_namesFor_star h hname).isPart,
      Path.parts_join hway (isVisible_of_mem_namesFor_star h hname').isPart] at hparts
    simpa using hparts
  cases recursive with
  | false =>
      rw [searchBelow_false]
      apply hnames hdir
  | true =>
      rw [searchBelow_true, List.flatMap_map, List.nodup_flatMap]
      constructor
      · intro way _
        apply hnames (Path.join_ne_empty hdir way)
      · apply (nodup_namesFor_anyDepth h dir).imp_of_mem
        intro way way' hway hway' hne path hpath hpath'
        obtain ⟨above, habove, rfl⟩ := exists_textJoin_of_mem_namesFor h hway
        obtain ⟨above', habove', rfl⟩ := exists_textJoin_of_mem_namesFor h hway'
        obtain ⟨name, hname, rfl⟩ := List.mem_map.mp hpath
        obtain ⟨name', hname', heq⟩ := List.mem_map.mp hpath'
        -- The parts of a path tell in which directory it was found.
        have hpart := (isVisible_of_mem_namesFor_star h hname).isPart
        have hpart' := (isVisible_of_mem_namesFor_star h hname').isPart
        have hparts := congrArg Path.parts heq
        rw [parts_join_join hdir habove' hpart', parts_join_join hdir habove hpart,
          List.append_cancel_left_eq] at hparts
        apply hne
        rw [(List.append_inj' hparts rfl).1]

end Place
end DeploymentRecipes
