import DeploymentRecipes.File.Path
import DeploymentRecipes.Proofs.Text.Replacement
import DeploymentRecipes.Proofs.Text.Split
import Mathlib.Data.List.Basic
import Mathlib.Tactic.Use

/-!
# Paths by their parts

A part is a text without slashes.  A path that is continued by a part has the parts that it had and
this one more, so it tells by which parts it was continued.
-/

namespace DeploymentRecipes

namespace Text

theorem endsWith_iff {s tail : String} :
  endsWith s tail = true ↔ tail.toList <:+ s.toList
  := by
  rw [endsWith, dropLead?_isSome_iff, List.reverse_prefix]

theorem dropLead?_singleton_isSome {c : Char} {cs : List Char} :
  (dropLead? [c] cs).isSome = true ↔ cs.head? = some c
  := by
  rw [dropLead?_isSome_iff]
  cases cs <;> simp [List.cons_prefix_cons, eq_comm]

/-- A text starts with a slash if its first character is one. -/
theorem startsWith_slash_iff {s : String} :
  startsWith s "/" = true ↔ s.toList.head? = some '/'
  := dropLead?_singleton_isSome

theorem endsWith_slash_iff {s : String} :
  endsWith s "/" = true ↔ s.toList.getLast? = some '/'
  := by
  rw [← List.head?_reverse]
  exact dropLead?_singleton_isSome

end Text

namespace Path

/-- A part of a path: some characters without a slash. -/
def IsPart (s : String) : Prop := s ≠ "" ∧ '/' ∉ s.toList

theorem startsWith_of_not_mem {s : String} (h : '/' ∉ s.toList) :
  Text.startsWith s "/" = false
  := by
  rw [Bool.eq_false_iff, Ne, Text.startsWith_slash_iff]
  intro hhead
  apply h (List.mem_of_head? hhead)

/-- The path of a directory up to the name of an entry. -/
def entryStart (base : String) : String :=
  if base == "" || Text.endsWith base "/" then base else base ++ "/"

theorem join_eq {base path : String} (h : Text.startsWith path "/" = false) :
  join base path = entryStart base ++ path
  := by
  rw [join, h, if_neg (by simp), entryStart]
  split <;> rfl

theorem mem_join_iff {base path : String} (h : Text.startsWith path "/" = false) {c : Char}
    (hc : c ≠ '/') :
  c ∈ (join base path).toList ↔ c ∈ base.toList ∨ c ∈ path.toList
  := by
  rw [join_eq h, String.toList_append, List.mem_append, entryStart]
  split
  · rfl
  · simp [hc]

theorem startsWith_join_iff {base path : String} (hbase : base ≠ "")
    (h : Text.startsWith path "/" = false) :
  Text.startsWith (join base path) "/" = Text.startsWith base "/"
  := by
  rw [Bool.eq_iff_iff, Text.startsWith_slash_iff, Text.startsWith_slash_iff, join_eq h,
    String.toList_append, entryStart]
  have hlist : base.toList ≠ [] := by simpa using hbase
  split
  · rw [List.head?_append_of_ne_nil _ hlist]
  · rw [String.toList_append, List.append_assoc, List.head?_append_of_ne_nil _ hlist]

theorem endsWith_append {s part : String} (h : IsPart part) :
  Text.endsWith (s ++ part) "/" = false
  := by
  obtain ⟨hne, hslash⟩ := h
  rw [Bool.eq_false_iff, Ne, Text.endsWith_slash_iff, String.toList_append,
    List.getLast?_append_of_ne_nil _ (by simpa using hne)]
  intro hlast
  apply hslash (List.mem_of_getLast? hlast)

theorem entryStart_append {s part : String} (h : IsPart part) :
  entryStart (s ++ part) = s ++ part ++ "/"
  := by
  rw [entryStart, endsWith_append h, Bool.or_false, if_neg]
  simpa using fun _ => h.1

theorem startsWith_append {part s : String} (h : IsPart part) :
  Text.startsWith (part ++ s) "/" = false
  := by
  obtain ⟨hne, hslash⟩ := h
  rw [Bool.eq_false_iff, Ne, Text.startsWith_slash_iff, String.toList_append,
    List.head?_append_of_ne_nil _ (by simpa using hne)]
  intro hhead
  apply hslash (List.mem_of_head? hhead)

/-- A path ends as its last part does. -/
theorem endsWith_join {base name tail : String} (hbase : base ≠ "") (hname : '/' ∉ name.toList)
    (htail : '/' ∉ tail.toList) :
  Text.endsWith (join base name) tail = Text.endsWith name tail
  := by
  obtain ⟨before, hstart⟩ : ∃ before, (entryStart base).toList = before ++ ['/'] := by
    rw [entryStart]
    split
    · rename_i hend
      have hslash : Text.endsWith base "/" = true := by simpa [hbase] using hend
      obtain ⟨before, hbefore⟩ := Text.endsWith_iff.mp hslash
      exact ⟨before, hbefore.symm⟩
    · exact ⟨base.toList, by simp⟩
  rw [Bool.eq_iff_iff, Text.endsWith_iff, Text.endsWith_iff, join_eq (startsWith_of_not_mem hname),
    String.toList_append, hstart, List.append_assoc, List.singleton_append]
  constructor
  · intro hsuffix
    -- Neither a longer ending nor one with the slash is possible.
    rcases List.suffix_or_suffix_of_suffix hsuffix (List.suffix_append _ _) with h | h
    · rcases List.suffix_cons_iff.mp h with h | h
      · cases htail (h ▸ List.mem_cons_self)
      · exact h
    · cases htail (h.subset List.mem_cons_self)
  · intro hsuffix
    apply (hsuffix.trans (List.suffix_cons _ _)).trans (List.suffix_append _ _)

/-- A path continued by some parts, one after the other. -/
def under (base : String) (parts : List String) : String := parts.foldl join base

theorem textJoin_cons_cons (a b : String) (rest : List String) :
  Text.join "/" (a :: b :: rest) = a ++ ("/" ++ Text.join "/" (b :: rest))
  := by
  rw [Text.join, String.append_assoc]
  simp

theorem startsWith_textJoin {parts : List String} (h : ∀ part ∈ parts, IsPart part) :
  Text.startsWith (Text.join "/" parts) "/" = false
  := by
  cases parts with
  | nil => rfl
  | cons a rest =>
      obtain ⟨ha, -⟩ := List.forall_mem_cons.mp h
      cases rest with
      | nil => exact startsWith_of_not_mem ha.2
      | cons b rest =>
          rw [textJoin_cons_cons]
          apply startsWith_append ha

theorem mem_textJoin {parts : List String} {part : String} (h : part ∈ parts) {c : Char}
    (hc : c ∈ part.toList) :
  c ∈ (Text.join "/" parts).toList
  := by
  induction parts with
  | nil => cases h
  | cons a rest ih =>
      cases rest with
      | nil =>
          obtain rfl := List.mem_singleton.mp h
          exact hc
      | cons b rest =>
          rw [textJoin_cons_cons, String.toList_append, String.toList_append, List.mem_append,
            List.mem_append]
          rcases List.mem_cons.mp h with rfl | h
          · exact Or.inl hc
          · exact Or.inr (Or.inr (ih h))

/-- Continuing a path by a text of some parts is continuing it by each of them. -/
theorem join_textJoin (base : String) {parts : List String} (hne : parts ≠ [])
    (h : ∀ part ∈ parts, IsPart part) :
  join base (Text.join "/" parts) = under base parts
  := by
  induction parts generalizing base with
  | nil => cases hne rfl
  | cons a rest ih =>
      obtain ⟨ha, hrest⟩ := List.forall_mem_cons.mp h
      cases rest with
      | nil => rfl
      | cons b rest =>
          calc
            join base (Text.join "/" (a :: b :: rest))
              = entryStart base ++ (a ++ ("/" ++ Text.join "/" (b :: rest))) := by
                rw [join_eq (startsWith_textJoin h), textJoin_cons_cons]
            _ = entryStart (join base a) ++ Text.join "/" (b :: rest) := by
                rw [join_eq (startsWith_of_not_mem ha.2), entryStart_append ha]
                simp only [String.append_assoc]
            _ = join (join base a) (Text.join "/" (b :: rest)) :=
                (join_eq (startsWith_textJoin hrest)).symm
            _ = under (join base a) (b :: rest) := ih _ (by simp) hrest

theorem entryStart_entryStart (base : String) :
  entryStart (entryStart base) = entryStart base
  := by
  rw [entryStart]
  split
  · rfl
  · rename_i hnot
    rw [entryStart] at hnot ⊢
    split at hnot
    · contradiction
    · exfalso
      apply hnot
      rw [Bool.or_eq_true]
      right
      rw [Text.endsWith_slash_iff, String.toList_append]
      simp

/-- Continuing a path by a text of some parts, and then by one more, is continuing it by each of
them. -/
theorem join_join_textJoin (base : String) {parts : List String} {part : String}
    (h : ∀ p ∈ parts ++ [part], IsPart p) :
  join (join base (Text.join "/" parts)) part = under base (parts ++ [part])
  := by
  obtain ⟨hparts, hpart⟩ := List.forall_mem_append.mp h
  have hlead := startsWith_of_not_mem (hpart part List.mem_cons_self).2
  cases parts with
  | nil =>
      rw [join_eq hlead, Text.join, join_eq rfl, String.append_empty, entryStart_entryStart,
        ← join_eq hlead]
      rfl
  | cons a rest =>
      rw [join_textJoin _ (by simp) hparts, under, under, List.foldl_append]
      rfl

/-! ### Parts -/

theorem split_join {base part : String} (hbase : base ≠ "") (h : '/' ∉ part.toList) :
  ∃ before, Text.split '/' (join base part) = before ++ [part]
    ∧ (Text.split '/' base = before ∨ Text.split '/' base = before ++ [""])
  := by
  rw [join_eq (startsWith_of_not_mem h), entryStart]
  split
  · rename_i hend
    have hlast : base.toList.getLast? = some '/' := by
      rw [← Text.endsWith_slash_iff]
      simpa [hbase] using hend
    obtain ⟨cs, hcs⟩ := List.getLast?_eq_some_iff.mp hlast
    have heq : base = String.ofList cs ++ String.singleton '/' := by
      apply String.toList_injective
      simp [hcs]
    use Text.split '/' (String.ofList cs)
    constructor
    · rw [heq, Text.split_append_append, Text.split_of_not_mem h]
    · right
      rw [heq, ← String.append_empty (s := String.ofList cs ++ String.singleton '/'),
        Text.split_append_append]
      rfl
  · use Text.split '/' base
    constructor
    · rw [← Text.split_of_not_mem h, ← Text.split_append_append]
      rfl
    · left
      rfl

/-- A path that is continued by a part has one part more. -/
theorem parts_join {base part : String} (hbase : base ≠ "") (h : IsPart part) :
  parts (join base part) = parts base ++ [part]
  := by
  obtain ⟨before, hjoin, hsplit⟩ := split_join hbase h.2
  have hpart : [part].filter (· != "") = [part] := by simpa using h.1
  rw [parts, parts, hjoin, List.filter_append, hpart]
  rcases hsplit with hsplit | hsplit
  · rw [hsplit]
  · rw [hsplit, List.filter_append]
    simp

theorem join_ne_empty {base : String} (hbase : base ≠ "") (part : String) :
  join base part ≠ ""
  := by
  rw [join]
  split
  · rintro rfl
    contradiction
  · split
    · simp [hbase]
    · simp

theorem under_ne_empty {base : String} (hbase : base ≠ "") (names : List String) :
  under base names ≠ ""
  := by
  induction names generalizing base with
  | nil => exact hbase
  | cons name names ih => apply ih (join_ne_empty hbase name)

/-- A path that is continued by some parts has them after its own. -/
theorem parts_under {base : String} (hbase : base ≠ "") {names : List String}
    (h : ∀ name ∈ names, IsPart name) :
  parts (under base names) = parts base ++ names
  := by
  induction names generalizing base with
  | nil => simp [under]
  | cons name names ih =>
      obtain ⟨hname, hnames⟩ := List.forall_mem_cons.mp h
      rw [under, List.foldl_cons, ← under, ih (join_ne_empty hbase name) hnames,
        parts_join hbase hname, List.append_assoc, List.singleton_append]

/-! ### Normal paths -/

/-- An absolute path that is written in the shortest way: one or two slashes, and parts with a slash
between each two. -/
def IsNormal (path : String) : Prop :=
  ∃ slashes names, (slashes = 1 ∨ slashes = 2) ∧ (∀ name ∈ names, IsPart name)
    ∧ path = String.ofList (List.replicate slashes '/') ++ Text.join "/" names

theorem IsNormal.ne_empty {path : String} (h : IsNormal path) :
  path ≠ ""
  := by
  obtain ⟨slashes, names, hslashes, -, rfl⟩ := h
  rcases hslashes with rfl | rfl <;> simp

theorem leadingSlashes_append {slashes : Nat} (hslashes : slashes = 1 ∨ slashes = 2) {s : String}
    (h : Text.startsWith s "/" = false) :
  leadingSlashes (String.ofList (List.replicate slashes '/') ++ s) = slashes
  := by
  rw [Bool.eq_false_iff, Ne, Text.startsWith_slash_iff] at h
  rw [leadingSlashes, String.toList_append, String.toList_ofList]
  cases hs : s.toList with
  | nil => rcases hslashes with rfl | rfl <;> rfl
  | cons c cs =>
      rw [hs, List.head?_cons, Option.some.injEq] at h
      rcases hslashes with rfl | rfl <;> simp [h]

/-- A normal path has the parts that it is written with. -/
theorem parts_of_normal {slashes : Nat} (hslashes : slashes = 1 ∨ slashes = 2)
    {names : List String} (h : ∀ name ∈ names, IsPart name) :
  parts (String.ofList (List.replicate slashes '/') ++ Text.join "/" names) = names
  := by
  have hbase : String.ofList (List.replicate slashes '/') ≠ "" := by
    rcases hslashes with rfl | rfl <;> decide
  have hparts : parts (String.ofList (List.replicate slashes '/')) = [] := by
    rcases hslashes with rfl | rfl <;> decide
  have hstart : entryStart (String.ofList (List.replicate slashes '/'))
      = String.ofList (List.replicate slashes '/') := by
    rcases hslashes with rfl | rfl <;> rfl
  cases names with
  | nil => rw [Text.join, String.append_empty, hparts]
  | cons name rest =>
      rw [← hstart, ← join_eq (startsWith_textJoin h), join_textJoin _ (by simp) h,
        parts_under hbase h, hparts, List.nil_append]

/-- A text of some parts tells which parts they are. -/
theorem textJoin_inj {names names' : List String} (h : ∀ name ∈ names, IsPart name)
    (h' : ∀ name ∈ names', IsPart name) (heq : Text.join "/" names = Text.join "/" names') :
  names = names'
  := by
  rw [← parts_of_normal (Or.inl rfl) h, heq, parts_of_normal (Or.inl rfl) h']

theorem mem_pushPart {absolute : Bool} {before : List String} {part name : String}
    (h : name ∈ pushPart absolute before part) :
  name ∈ before ∨ name = part ∧ part ≠ ""
  := by
  rw [pushPart.eq_def] at h
  split at h
  · exact Or.inl h
  · rename_i hne
    have hpart : part ≠ "" := by
      rintro rfl
      simp at hne
    split at h
    · rcases List.mem_cons.mp h with rfl | h
      · exact Or.inr ⟨rfl, hpart⟩
      · exact Or.inl h
    · rename_i hup
      obtain rfl : part = ".." := by simpa using hup
      split at h
      · split at h
        · cases h
        · exact Or.inr ⟨List.mem_singleton.mp h, hpart⟩
      · rcases List.mem_cons.mp h with rfl | h
        · exact Or.inr ⟨rfl, hpart⟩
        · exact Or.inl h
      · exact Or.inl (List.mem_cons_of_mem _ h)

theorem isPart_of_mem_normalParts {absolute : Bool} {path name : String}
    (h : name ∈ normalParts absolute path) :
  IsPart name
  := by
  have hfold : ∀ pieces before : List String, name ∈ pieces.foldl (pushPart absolute) before →
      name ∈ before ∨ name ∈ pieces ∧ name ≠ "" := by
    intro pieces
    induction pieces with
    | nil =>
        intro before h
        exact Or.inl h
    | cons piece pieces ih =>
        intro before h
        rcases ih _ h with h | ⟨h, hne⟩
        · rcases mem_pushPart h with h | ⟨rfl, hne⟩
          · exact Or.inl h
          · exact Or.inr ⟨List.mem_cons_self, hne⟩
        · exact Or.inr ⟨List.mem_cons_of_mem piece h, hne⟩
  rw [normalParts, List.mem_reverse] at h
  rcases hfold _ _ h with h | ⟨h, hne⟩
  · cases h
  · exact ⟨hne, Text.not_mem_of_mem_split h⟩

theorem leadingSlashes_of_startsWith {path : String} (h : Text.startsWith path "/" = true) :
  leadingSlashes path = 1 ∨ leadingSlashes path = 2
  := by
  rw [Text.startsWith_slash_iff] at h
  rw [leadingSlashes]
  split
  · exact Or.inl rfl
  · exact Or.inr rfl
  · exact Or.inl rfl
  · rename_i hother
    cases hpath : path.toList with
    | nil => simp [hpath] at h
    | cons c cs =>
        rw [hpath, List.head?_cons, Option.some.injEq] at h
        cases hother cs (by rw [hpath, h])

theorem startsWith_join {base : String} (h : Text.startsWith base "/" = true) (path : String) :
  Text.startsWith (join base path) "/" = true
  := by
  rw [join]
  split
  · assumption
  · rw [Text.startsWith_slash_iff] at h ⊢
    split <;> simp [List.head?_append, h]

/-- The absolute path that is found for a path is normal. -/
theorem isNormal_absolute {cwd : String} (h : Text.startsWith cwd "/" = true) (path : String) :
  IsNormal (absolute cwd path)
  := by
  have hslashes := leadingSlashes_of_startsWith (startsWith_join h path)
  rw [absolute, normalize, if_neg]
  · refine ⟨leadingSlashes (join cwd path), _, hslashes, ?_, rfl⟩
    intro name hname
    apply isPart_of_mem_normalParts hname
  · rcases hslashes with hslashes | hslashes <;> simp [hslashes]

end Path
end DeploymentRecipes
