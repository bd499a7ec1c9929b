import DeploymentRecipes.File.Search
import DeploymentRecipes.Proofs.Distinct
import DeploymentRecipes.Proofs.File.Path
import Mathlib.Data.List.Infix

/-!
# Well-formed file trees

In a well-formed tree every file and every directory lies in a directory and has a name that can be
written in a path, and nothing is there twice.  Writing a file where one can be, and deleting one,
keep a tree well-formed.
-/

namespace DeploymentRecipes.FileTree

variable {tree : FileTree}

/-! ### Names -/

/-- What the name of a file or of a directory is: a part of a path that leads into a directory. -/
structure IsName (name : String) : Prop where
  isPart : Path.IsPart name
  noNull : '\x00' ∉ name.toList
  notHere : name ≠ "."
  notAbove : name ≠ ".."
  short : name.utf8ByteSize ≤ 255

instance (name : String) : Decidable (IsName name) :=
  decidable_of_iff
    ((name ≠ "" ∧ '/' ∉ name.toList) ∧ '\x00' ∉ name.toList ∧ name ≠ "." ∧ name ≠ ".."
      ∧ name.utf8ByteSize ≤ 255)
    ⟨fun ⟨h₁, h₂, h₃, h₄, h₅⟩ => ⟨h₁, h₂, h₃, h₄, h₅⟩,
      fun ⟨h₁, h₂, h₃, h₄, h₅⟩ => ⟨h₁, h₂, h₃, h₄, h₅⟩⟩

/-! ### Files and directories -/

theorem isFile_iff {names : Names} :
  tree.isFile names = true ↔ names ∈ tree.files.map (·.1)
  := by
  rw [isFile, file?, Option.isSome_map, List.find?_isSome]
  simp

theorem isDirectory_iff {names : Names} :
  tree.isDirectory names = true ↔ names = [] ∨ names ∈ tree.directories
  := by
  simp [isDirectory]

/-- Names that are one more than those of a directory end in the name of an entry. -/
theorem nameBelow_eq_some_iff {names names' : Names} {name : String} :
  (if names'.length = names.length + 1 && names.isPrefixOf names' then names'.getLast? else none)
    = some name ↔ names' = names ++ [name]
  := by
  constructor
  · intro h
    split at h
    · rename_i hbelow
      rw [Bool.and_eq_true, decide_eq_true_eq, List.isPrefixOf_iff_prefix] at hbelow
      obtain ⟨hlength, rest, rfl⟩ := hbelow
      obtain ⟨last, rfl⟩ : ∃ last, rest = [last] := by
        apply List.length_eq_one_iff.mp
        rw [List.length_append] at hlength
        omega
      simpa using h
    · cases h
  · rintro rfl
    simp

/-- The entries of a directory are the files and the directories with one name more. -/
theorem mem_entries_iff {names : Names} {name : String} {b : Bool} :
  (name, b) ∈ tree.entries names ↔ tree.isDirectory names = true
    ∧ names ++ [name] ∈ if b then tree.directories else tree.files.map (·.1)
  := by
  simp only [entries]
  by_cases hdirectory : tree.isDirectory names = true
  · rw [if_pos hdirectory, List.mem_append, List.mem_filterMap, List.mem_filterMap]
    simp only [Option.map_eq_some_iff, nameBelow_eq_some_iff, hdirectory, true_and]
    cases b with
    | false => simp
    | true => simp
  · simp [hdirectory]

/-! ### Well-formed trees -/

structure WellFormed (tree : FileTree) : Prop where
  nodup_files : (tree.files.map (·.1)).Nodup
  nodup_directories : tree.directories.Nodup
  disjoint : ∀ names, tree.isFile names = true → tree.isDirectory names = false
  isName : ∀ names, tree.isFile names = true ∨ tree.isDirectory names = true →
    ∀ name ∈ names, IsName name
  above : ∀ names, tree.isFile names = true ∨ tree.isDirectory names = true →
    tree.isDirectory names.dropLast = true

/-- Things in different places give entries that differ. -/
theorem nodup_filterMap_nameBelow {α : Type} {f : α → Names} {xs : List α}
    (h : xs.Pairwise fun x y => f x ≠ f y) (names : Names) (b : Bool) :
  (xs.filterMap fun x =>
    (if (f x).length = names.length + 1 && names.isPrefixOf (f x) then (f x).getLast?
      else none).map fun name => (name, b)).Nodup
  := by
  rw [List.Nodup, List.pairwise_filterMap]
  apply h.imp
  intro x y hne e he e' he' heq
  obtain ⟨name, hname, rfl⟩ := Option.map_eq_some_iff.mp he
  obtain ⟨name', hname', rfl⟩ := Option.map_eq_some_iff.mp he'
  obtain ⟨rfl, -⟩ := Prod.mk.inj heq
  apply hne
  rw [nameBelow_eq_some_iff.mp hname, nameBelow_eq_some_iff.mp hname']

/-- No two entries of a directory have the same name. -/
theorem WellFormed.nodup_entries (h : tree.WellFormed) (names : Names) :
  ((tree.entries names).map (·.1)).Nodup
  := by
  apply List.Nodup.map_on
  · rintro ⟨name, b⟩ hentry ⟨_, b'⟩ hentry' rfl
    obtain ⟨-, hmem⟩ := mem_entries_iff.mp hentry
    obtain ⟨-, hmem'⟩ := mem_entries_iff.mp hentry'
    -- A file and a directory of one name would be in the same place.
    have hapart : names ++ [name] ∈ tree.files.map (·.1) → names ++ [name] ∉ tree.directories := by
      intro hfile hdirectory
      have hnot := h.disjoint _ (isFile_iff.mpr hfile)
      rw [isDirectory_iff.mpr (Or.inr hdirectory)] at hnot
      cases hnot
    cases b <;> cases b'
    · rfl
    · cases hapart hmem hmem'
    · cases hapart hmem' hmem
    · rfl
  · simp only [entries]
    split
    · rw [List.nodup_append]
      refine ⟨?_, ?_, ?_⟩
      · have hfiles : tree.files.Pairwise fun p q => p.1 ≠ q.1 :=
          List.pairwise_map.mp h.nodup_files
        apply nodup_filterMap_nameBelow hfiles
      · have hdirectories : tree.directories.Pairwise fun d e => id d ≠ id e := h.nodup_directories
        apply nodup_filterMap_nameBelow hdirectories
      · intro e he e' he' heq
        obtain ⟨p, -, hp⟩ := List.mem_filterMap.mp he
        obtain ⟨q, -, hq⟩ := List.mem_filterMap.mp he'
        obtain ⟨name, -, rfl⟩ := Option.map_eq_some_iff.mp hp
        obtain ⟨name', -, rfl⟩ := Option.map_eq_some_iff.mp hq
        cases heq
    · apply List.nodup_nil

/-- A file can be put under the given names: nothing but a file is there, and no file is in the way. -/
def Admits (tree : FileTree) (names : Names) : Prop :=
  (∀ name ∈ names, IsName name) ∧ tree.isDirectory names = false
    ∧ ∀ above ∈ names.dropLast.inits, tree.isFile above = false

instance (tree : FileTree) (names : Names) : Decidable (tree.Admits names) :=
  inferInstanceAs (Decidable (_ ∧ _ ∧ _))

theorem wellFormed_empty :
  empty.WellFormed
  := by
  constructor <;> simp [empty, isFile, file?, isDirectory]

theorem directories_addDirectory (tree : FileTree) (names : Names) :
  (tree.addDirectory names).directories
    = addNew tree.directories ((List.range names.length).map fun n => names.take (n + 1))
  := rfl

theorem isDirectory_addDirectory {names names' : Names} :
  (tree.addDirectory names).isDirectory names' = true
    ↔ tree.isDirectory names' = true ∨ names' <+: names
  := by
  have habove : names' ∈ (List.range names.length).map (fun n => names.take (n + 1))
      ↔ names' ≠ [] ∧ names' <+: names := by
    rw [List.mem_map]
    constructor
    · rintro ⟨n, hn, rfl⟩
      rw [List.mem_range] at hn
      refine ⟨?_, List.take_prefix _ _⟩
      rw [Ne, List.take_eq_nil_iff]
      rintro (hzero | rfl)
      · omega
      · simp at hn
    · rintro ⟨hne, habove⟩
      have hpos := List.length_pos_iff.mpr hne
      refine ⟨names'.length - 1, ?_, ?_⟩
      · have hle := habove.length_le
        rw [List.mem_range]
        omega
      · rw [Nat.sub_add_cancel hpos, ← List.prefix_iff_eq_take.mp habove]
  rw [isDirectory_iff, directories_addDirectory, mem_addNew, isDirectory_iff, habove]
  by_cases hnil : names' = []
  · simp [hnil]
  · simp [hnil]

theorem isFile_addDirectory (names names' : Names) :
  (tree.addDirectory names).isFile names' = tree.isFile names'
  := rfl

/-- New directories where no file is in the way keep a tree well-formed. -/
theorem WellFormed.addDirectory (h : tree.WellFormed) {names : Names}
    (hnames : ∀ name ∈ names, IsName name)
    (hfree : ∀ above ∈ names.inits, tree.isFile above = false) :
  (tree.addDirectory names).WellFormed
  := by
  constructor
  · exact h.nodup_files
  · apply nodup_addNew h.nodup_directories
  · intro names' hfile
    rw [isFile_addDirectory] at hfile
    rw [Bool.eq_false_iff, Ne, isDirectory_addDirectory]
    rintro (hdirectory | habove)
    · rw [h.disjoint names' hfile] at hdirectory
      cases hdirectory
    · rw [hfree names' ((List.mem_inits _ _).mpr habove)] at hfile
      cases hfile
  · intro names' hnames' name hname
    rw [isFile_addDirectory, isDirectory_addDirectory, ← or_assoc] at hnames'
    rcases hnames' with hold | habove
    · apply h.isName names' hold name hname
    · apply hnames name (habove.subset hname)
  · intro names' hnames'
    rw [isFile_addDirectory, isDirectory_addDirectory, ← or_assoc] at hnames'
    rw [isDirectory_addDirectory]
    rcases hnames' with hold | habove
    · exact Or.inl (h.above names' hold)
    · exact Or.inr ((List.dropLast_prefix names').trans habove)

theorem names_write (tree : FileTree) (names : Names) (file : File) :
  (tree.write names file).files.map (·.1) = addNew (tree.files.map (·.1)) [names]
  := by
  have hcontains : (tree.files.map (·.1)).contains names = tree.isFile names := by
    rw [Bool.eq_iff_iff, List.contains_iff_mem, isFile_iff]
  rw [write, isFile_addDirectory, addNew, List.foldl_cons, List.foldl_nil, hcontains]
  split
  · rw [List.map_map]
    apply List.map_congr_left
    intro p _
    rw [Function.comp_apply]
    split
    · rename_i hp
      exact (beq_iff_eq.mp hp).symm
    · rfl
  · rw [List.map_append]
    rfl

theorem directories_write (tree : FileTree) (names : Names) (file : File) :
  (tree.write names file).directories = (tree.addDirectory names.dropLast).directories
  := by
  rw [write]
  split <;> rfl

theorem isFile_write {names names' : Names} {file : File} :
  (tree.write names file).isFile names' = true ↔ tree.isFile names' = true ∨ names' = names
  := by
  rw [isFile_iff, names_write, mem_addNew, ← isFile_iff, List.mem_singleton]

theorem isDirectory_write {names names' : Names} {file : File} :
  (tree.write names file).isDirectory names' = true
    ↔ tree.isDirectory names' = true ∨ names' <+: names.dropLast
  := by
  rw [isDirectory_iff, directories_write, ← isDirectory_iff, isDirectory_addDirectory]

/-- Writing a file where one can be keeps a tree well-formed. -/
theorem WellFormed.write (h : tree.WellFormed) {names : Names} (hadmits : tree.Admits names)
    (file : File) :
  (tree.write names file).WellFormed
  := by
  obtain ⟨hnames, hplace, hfree⟩ := hadmits
  have hdirectories : (tree.addDirectory names.dropLast).WellFormed := by
    apply h.addDirectory _ hfree
    intro name hname
    apply hnames name (List.mem_of_mem_dropLast hname)
  constructor
  · rw [names_write]
    apply nodup_addNew h.nodup_files
  · rw [directories_write]
    exact hdirectories.nodup_directories
  · intro names' hfile
    rw [isFile_write] at hfile
    rw [Bool.eq_false_iff, Ne, isDirectory_write, ← isDirectory_addDirectory]
    rcases hfile with hfile | rfl
    · rw [hdirectories.disjoint names' hfile]
      simp
    · -- The file has one name more than the directories that are made for it.
      rw [isDirectory_addDirectory, hplace]
      rintro (hdirectory | habove)
      · cases hdirectory
      · have hne : names' ≠ [] := by
          rintro rfl
          simp [isDirectory] at hplace
        have hpos := List.length_pos_iff.mpr hne
        have hle := habove.length_le
        rw [List.length_dropLast] at hle
        omega
  · intro names' hnames' name hname
    rw [isFile_write, isDirectory_write, or_right_comm, ← isDirectory_addDirectory] at hnames'
    rcases hnames' with hold | rfl
    · apply hdirectories.isName names' hold name hname
    · apply hnames name hname
  · intro names' hnames'
    rw [isFile_write, isDirectory_write, or_right_comm, ← isDirectory_addDirectory] at hnames'
    rw [isDirectory_write, ← isDirectory_addDirectory]
    rcases hnames' with hold | rfl
    · apply hdirectories.above names' hold
    · rw [isDirectory_addDirectory]
      exact Or.inr (List.prefix_refl _)

theorem isFile_delete {names names' : Names} :
  (tree.delete names).isFile names' = true ↔ tree.isFile names' = true ∧ names' ≠ names
  := by
  rw [isFile_iff, isFile_iff, delete]
  simp

/-- Deleting a file keeps a tree well-formed. -/
theorem WellFormed.delete (h : tree.WellFormed) (names : Names) :
  (tree.delete names).WellFormed
  := by
  have hdirectory : ∀ names', (tree.delete names).isDirectory names' = tree.isDirectory names' :=
    fun _ => rfl
  constructor
  · apply h.nodup_files.sublist (List.filter_sublist.map _)
  · exact h.nodup_directories
  · intro names' hfile
    apply h.disjoint names' (isFile_delete.mp hfile).1
  · intro names' hnames'
    rw [isFile_delete, hdirectory] at hnames'
    apply h.isName names' (hnames'.imp_left And.left)
  · intro names' hnames'
    rw [isFile_delete, hdirectory] at hnames'
    apply h.above names' (hnames'.imp_left And.left)

end DeploymentRecipes.FileTree
