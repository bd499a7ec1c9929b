import DeploymentRecipes.Proofs.File.Path
import Mathlib.Data.List.Induction

/-!
# The way from one directory to another

A normal path below the root is told by the names that it goes down by.  The way from a directory to
it goes up to where the two part, and down from there.  Continuing the directory by that way, and
normalizing, gives the path again.
-/

namespace DeploymentRecipes.Path

/-- A part that a path goes down by. -/
structure IsDown (part : String) : Prop where
  isPart : IsPart part
  ne_dot : part ≠ "."
  ne_up : part ≠ ".."

theorem isPart_up :
  IsPart ".."
  := by
  constructor <;> decide

theorem isPart_dot :
  IsPart "."
  := by
  constructor <;> decide

/-! ### Pushing parts -/

variable {absolute : Bool} {before names : List String}

theorem pushPart_of_isDown {part : String} (h : IsDown part) :
  pushPart absolute before part = part :: before
  := by
  obtain ⟨⟨hempty, -⟩, hdot, hup⟩ := h
  simp [pushPart, hempty, hdot, hup]

theorem pushPart_dot :
  pushPart absolute before "." = before
  := by
  simp [pushPart]

/-- Two dots cancel a part that goes down. -/
theorem pushPart_up {part : String} (h : IsDown part) :
  pushPart absolute (part :: before) ".." = before
  := by
  have hup := h.ne_up
  simp [pushPart]

theorem foldl_pushPart_of_isDown (h : ∀ name ∈ names, IsDown name) :
  names.foldl (pushPart absolute) before = names.reverse ++ before
  := by
  induction names generalizing before with
  | nil => rfl
  | cons name names ih =>
      obtain ⟨hname, hnames⟩ := List.forall_mem_cons.mp h
      rw [List.foldl_cons, pushPart_of_isDown hname, ih hnames, List.reverse_cons, List.append_assoc,
        List.singleton_append]

/-- As many steps up as there are parts cancel them all. -/
theorem foldl_pushPart_up (h : ∀ name ∈ names, IsDown name) :
  (names.map fun _ => "..").foldl (pushPart absolute) (names ++ before) = before
  := by
  induction names with
  | nil => rfl
  | cons name names ih =>
      obtain ⟨hname, hnames⟩ := List.forall_mem_cons.mp h
      rw [List.map_cons, List.foldl_cons, List.cons_append, pushPart_up hname, ih hnames]

theorem isDown_of_mem_pushPart {part name : String} (hpart : '/' ∉ part.toList)
    (hbefore : ∀ name ∈ before, IsDown name) (h : name ∈ pushPart true before part) :
  IsDown name
  := by
  rw [pushPart.eq_def] at h
  split at h
  · exact hbefore name h
  · rename_i hskip
    rw [Bool.or_eq_true, beq_iff_eq, beq_iff_eq, not_or] at hskip
    split at h
    · rename_i hup
      rcases List.mem_cons.mp h with rfl | h
      · exact ⟨⟨hskip.1, hpart⟩, hskip.2, by simpa using hup⟩
      · exact hbefore name h
    · split at h
      · cases h
      · -- Two dots never stand among parts that go down.
        cases (hbefore ".." List.mem_cons_self).ne_up rfl
      · exact hbefore name (List.mem_cons_of_mem _ h)

/-- The parts of an absolute path all go down. -/
theorem isDown_of_mem_normalParts {path name : String} (h : name ∈ normalParts true path) :
  IsDown name
  := by
  have hfold : ∀ pieces before : List String, (∀ piece ∈ pieces, '/' ∉ piece.toList) →
      (∀ name ∈ before, IsDown name) →
      ∀ name ∈ pieces.foldl (pushPart true) before, IsDown name := by
    intro pieces
    induction pieces with
    | nil =>
        intro before _ hbefore
        exact hbefore
    | cons piece pieces ih =>
        intro before hpieces hbefore
        obtain ⟨hpiece, hpieces⟩ := List.forall_mem_cons.mp hpieces
        apply ih _ hpieces
        intro name hname
        apply isDown_of_mem_pushPart hpiece hbefore hname
  rw [normalParts, List.mem_reverse] at h
  apply hfold _ [] _ _ _ h
  · intro piece hpiece
    apply Text.not_mem_of_mem_split hpiece
  · intro name hname
    cases hname

/-! ### Paths below the root -/

theorem normalParts_join {base part : String} (hbase : base ≠ "") (h : '/' ∉ part.toList) :
  normalParts absolute (join base part)
    = (pushPart absolute (normalParts absolute base).reverse part).reverse
  := by
  obtain ⟨pieces, hjoin, hsplit⟩ := split_join hbase h
  rw [normalParts, normalParts, List.reverse_reverse, hjoin, List.foldl_append]
  rcases hsplit with hsplit | hsplit
  · rw [hsplit]
    rfl
  · rw [hsplit, List.foldl_append]
    rfl

/-- A path that is continued by some parts is normalized by pushing these onto its own. -/
theorem normalParts_under {base : String} (hbase : base ≠ "") (h : ∀ name ∈ names, IsPart name) :
  normalParts absolute (under base names)
    = (names.foldl (pushPart absolute) (normalParts absolute base).reverse).reverse
  := by
  induction names generalizing base with
  | nil => simp [under]
  | cons name names ih =>
      obtain ⟨hname, hnames⟩ := List.forall_mem_cons.mp h
      rw [under, List.foldl_cons, ← under, ih (join_ne_empty hbase name) hnames,
        normalParts_join hbase hname.2, List.reverse_reverse, List.foldl_cons]

theorem under_concat (base : String) (names : List String) (name : String) :
  under base (names ++ [name]) = join (under base names) name
  := by
  rw [under, List.foldl_append]
  rfl

theorem textJoin_eq_under (h : ∀ name ∈ names, IsPart name) :
  "/" ++ Text.join "/" names = under "/" names
  := by
  cases names with
  | nil => rfl
  | cons name rest =>
      rw [← join_textJoin "/" (by simp) h, join_eq (startsWith_textJoin h)]
      rfl

theorem leadingSlashes_under (h : ∀ name ∈ names, IsPart name) :
  leadingSlashes (under "/" names) = 1
  := by
  rw [← textJoin_eq_under h]
  apply @leadingSlashes_append 1 (Or.inl rfl) _ (startsWith_textJoin h)

/-- A path with one slash in front is normalized to its parts. -/
theorem normalize_eq_under {path : String} (h : leadingSlashes path = 1) :
  normalize path = under "/" (normalParts true path)
  := by
  have hparts : ∀ name ∈ normalParts true path, IsPart name :=
    fun name hname => isPart_of_mem_normalParts hname
  rw [← textJoin_eq_under hparts, normalize, if_neg]
  · rw [h]
    rfl
  · simp [h]

/-- Unless there are just two of them, the slashes in front of a text of several characters count for
what continues it. -/
theorem leadingSlashes_append_of_ne_two {s : String} (h : leadingSlashes s ≠ 2)
    (hlong : 1 < s.toList.length) (t : String) :
  leadingSlashes (s ++ t) = leadingSlashes s
  := by
  rw [leadingSlashes] at h
  rw [leadingSlashes, leadingSlashes, String.toList_append]
  obtain ⟨a, b, cs, hs⟩ : ∃ a b cs, s.toList = a :: b :: cs := by
    rcases hs : s.toList with _ | ⟨a, _ | ⟨b, cs⟩⟩
    · simp [hs] at hlong
    · simp [hs] at hlong
    · exact ⟨a, b, cs, rfl⟩
  rw [hs] at h
  rw [hs]
  by_cases ha : a = '/'
  · by_cases hb : b = '/'
    · cases cs with
      | nil => simp [ha, hb] at h
      | cons c cs =>
          by_cases hc : c = '/'
          · simp [ha, hb, hc]
          · simp [ha, hb, hc] at h
    · simp [ha, hb]
  · simp [ha]

/-- A path that starts neither with two slashes itself nor from a directory with two starts with
one. -/
theorem leadingSlashes_join {cwd path : String} (hcwd : Text.startsWith cwd "/" = true)
    (hcwdSlashes : leadingSlashes cwd ≠ 2) (hpath : leadingSlashes path ≠ 2) :
  leadingSlashes (join cwd path) = 1
  := by
  cases hstart : Text.startsWith path "/" with
  | true =>
      rw [join, if_pos hstart]
      exact (leadingSlashes_of_startsWith hstart).resolve_right hpath
  | false =>
      have hone := (leadingSlashes_of_startsWith hcwd).resolve_right hcwdSlashes
      rw [join_eq hstart, entryStart]
      by_cases hlong : 1 < cwd.toList.length
      · split
        · rw [leadingSlashes_append_of_ne_two hcwdSlashes hlong, hone]
        · rw [String.append_assoc, leadingSlashes_append_of_ne_two hcwdSlashes hlong, hone]
      · -- The working directory is the root.
        rw [Text.startsWith_slash_iff] at hcwd
        obtain rfl : cwd = "/" := by
          apply String.toList_injective
          rcases hlist : cwd.toList with _ | ⟨c, _ | ⟨d, cs⟩⟩
          · simp [hlist] at hcwd
          · simpa [hlist] using hcwd
          · simp [hlist] at hlong
        apply @leadingSlashes_append 1 (Or.inl rfl) _ hstart

/-- An absolute path that starts with one slash is told by the parts that it goes down by. -/
theorem exists_absolute_eq_under {cwd path : String} (hcwd : Text.startsWith cwd "/" = true)
    (hcwdSlashes : leadingSlashes cwd ≠ 2) (hpath : leadingSlashes path ≠ 2) :
  ∃ names, (∀ name ∈ names, IsDown name) ∧ Path.absolute cwd path = under "/" names
  := by
  use normalParts true (join cwd path)
  constructor
  · intro name hname
    apply isDown_of_mem_normalParts hname
  · apply normalize_eq_under (leadingSlashes_join hcwd hcwdSlashes hpath)

/-! ### Directories -/

theorem dropWhile_reverse_of_not_mem {cs : List Char} (h : '/' ∉ cs) (rest : List Char) :
  (cs.reverse ++ '/' :: rest).dropWhile (· != '/') = '/' :: rest
  := by
  rw [List.dropWhile_append_of_pos]
  · rfl
  · intro c hc
    rw [bne_iff_ne]
    rintro rfl
    apply h (List.mem_reverse.mp hc)

theorem directory_root {name : String} (h : '/' ∉ name.toList) :
  directory ("/" ++ name) = "/"
  := by
  have hhead : ("/" ++ name).toList.reverse.dropWhile (· != '/') = ['/'] := by
    rw [String.toList_append, List.reverse_append]
    apply dropWhile_reverse_of_not_mem h
  rw [directory, hhead]
  rfl

theorem directory_append {s name : String} (hs : s ≠ "") (hend : Text.endsWith s "/" = false)
    (h : '/' ∉ name.toList) :
  directory (s ++ "/" ++ name) = s
  := by
  have hhead : (s ++ "/" ++ name).toList.reverse.dropWhile (· != '/') = '/' :: s.toList.reverse := by
    rw [String.toList_append, String.toList_append, List.reverse_append, List.reverse_append]
    apply dropWhile_reverse_of_not_mem h
  have htrim : ('/' :: s.toList.reverse).dropWhile (· == '/') = s.toList.reverse := by
    rw [Bool.eq_false_iff, Ne, Text.endsWith_slash_iff, ← List.head?_reverse] at hend
    cases hlist : s.toList.reverse with
    | nil => simp
    | cons c cs =>
        rw [hlist, List.head?_cons, Option.some.injEq] at hend
        simp [hend]
  rw [directory, hhead, List.reverse_reverse, htrim, List.reverse_reverse, if_neg]
  · apply String.ofList_toList
  · simpa using hs

/-- The directory of an entry of a directory is that directory. -/
theorem directory_under (h : ∀ name ∈ names, IsPart name) :
  directory (under "/" names) = under "/" names.dropLast
  := by
  induction names using List.reverseRecOn with
  | nil => decide
  | append_singleton names name _ =>
      obtain ⟨hnames, hname⟩ := List.forall_mem_append.mp h
      have hslash := (hname name List.mem_cons_self).2
      rw [List.dropLast_concat, under_concat, join_eq (startsWith_of_not_mem hslash)]
      cases names using List.reverseRecOn with
      | nil => apply directory_root hslash
      | append_singleton before last =>
          have hlast := hnames last (List.mem_append_right _ List.mem_cons_self)
          rw [under_concat, join_eq (startsWith_of_not_mem hlast.2), entryStart_append hlast]
          apply directory_append _ (endsWith_append hlast) hslash
          simp [hlast.1]

/-! ### Ways -/

theorem parts_under_root (h : ∀ name ∈ names, IsPart name) :
  parts (under "/" names) = names
  := by
  rw [parts_under (by decide) h]
  rfl

/-- Without their common beginning, two lists are what follows it. -/
theorem exists_of_dropCommon {as bs up down : List String} (h : dropCommon as bs = (up, down)) :
  ∃ common, as = common ++ up ∧ bs = common ++ down
  := by
  induction as generalizing bs with
  | nil =>
      obtain ⟨rfl, rfl⟩ := Prod.mk.inj h
      exact ⟨[], rfl, rfl⟩
  | cons a as ih =>
      cases bs with
      | nil =>
          obtain ⟨rfl, rfl⟩ := Prod.mk.inj h
          exact ⟨[], rfl, rfl⟩
      | cons b bs =>
          rw [dropCommon] at h
          split at h
          · rename_i hab
            obtain ⟨common, rfl, rfl⟩ := ih h
            exact ⟨a :: common, rfl, by rw [hab, List.cons_append]⟩
          · obtain ⟨rfl, rfl⟩ := Prod.mk.inj h
            exact ⟨[], rfl, rfl⟩

/-- The steps of a way: up from where a directory and a path part, and then down. A way without steps
is a dot. -/
def stepsOf (up down : List String) : List String :=
  if up = [] ∧ down = [] then ["."] else up.map (fun _ => "..") ++ down

theorem exists_relative_eq (path start : String) :
  ∃ common up down, parts start = common ++ up ∧ parts path = common ++ down
    ∧ relative path start = Text.join "/" (stepsOf up down)
  := by
  have hsplit : dropCommon (parts start) (parts path)
      = ((dropCommon (parts start) (parts path)).1, (dropCommon (parts start) (parts path)).2) := rfl
  obtain ⟨common, hup, hdown⟩ := exists_of_dropCommon hsplit
  refine ⟨common, _, _, hup, hdown, ?_⟩
  rw [relative, stepsOf]
  simp only [List.isEmpty_iff, List.append_eq_nil_iff, List.map_eq_nil_iff]
  split <;> rfl

theorem stepsOf_ne_nil (up down : List String) :
  stepsOf up down ≠ []
  := by
  rw [stepsOf]
  split
  · simp
  · rename_i hsome
    simpa using hsome

theorem isPart_of_mem_stepsOf {up down : List String} (hdown : ∀ name ∈ down, IsPart name)
    {step : String} (h : step ∈ stepsOf up down) :
  IsPart step
  := by
  rw [stepsOf] at h
  split at h
  · rw [List.mem_singleton.mp h]
    exact isPart_dot
  · rcases List.mem_append.mp h with h | h
    · obtain ⟨name, -, rfl⟩ := List.mem_map.mp h
      exact isPart_up
    · exact hdown step h

theorem textJoin_ne_empty {names : List String} (hne : names ≠ []) (h : ∀ name ∈ names, IsPart name) :
  Text.join "/" names ≠ ""
  := by
  obtain ⟨name, hname⟩ := List.exists_mem_of_ne_nil names hne
  obtain ⟨c, hc⟩ : ∃ c, c ∈ name.toList := by
    apply List.exists_mem_of_ne_nil
    simpa using (h name hname).1
  intro hempty
  have hmem := mem_textJoin hname hc
  rw [hempty] at hmem
  cases hmem

/-- Every way has some characters. -/
theorem relative_ne_empty (path start : String) :
  relative path start ≠ ""
  := by
  obtain ⟨common, up, down, -, hdown, hrelative⟩ := exists_relative_eq path start
  rw [hrelative]
  apply textJoin_ne_empty (stepsOf_ne_nil up down)
  intro step hstep
  apply isPart_of_mem_stepsOf _ hstep
  intro name hname
  have hmem : name ∈ parts path := by
    rw [hdown]
    apply List.mem_append_right _ hname
  obtain ⟨hsplit, hne⟩ := List.mem_filter.mp hmem
  exact ⟨by simpa using hne, Text.not_mem_of_mem_split hsplit⟩

/-- The steps lead from the directory to the path. -/
theorem foldl_pushPart_stepsOf {common up down : List String} (hup : ∀ name ∈ up, IsDown name)
    (hdown : ∀ name ∈ down, IsDown name) :
  (stepsOf up down).foldl (pushPart absolute) (common ++ up).reverse = (common ++ down).reverse
  := by
  rw [stepsOf]
  split
  · rename_i hnone
    obtain ⟨rfl, rfl⟩ := hnone
    rw [List.foldl_cons, pushPart_dot, List.foldl_nil]
  · have hmap : (up.map fun _ => "..") = up.reverse.map fun _ => ".." := by simp
    rw [List.foldl_append, List.reverse_append, hmap, foldl_pushPart_up, foldl_pushPart_of_isDown hdown,
      List.reverse_append]
    intro name hname
    apply hup name (List.mem_reverse.mp hname)

/-- Following the way from a directory to a path leads to the path. -/
theorem normalize_join_relative {path start : List String} (hpath : ∀ name ∈ path, IsDown name)
    (hstart : ∀ name ∈ start, IsDown name) :
  normalize (join (under "/" start) (relative (under "/" path) (under "/" start)))
    = under "/" path
  := by
  obtain ⟨common, up, down, hparts, hparts', hrelative⟩ :=
    exists_relative_eq (under "/" path) (under "/" start)
  rw [parts_under_root fun name hname => (hstart name hname).isPart] at hparts
  rw [parts_under_root fun name hname => (hpath name hname).isPart] at hparts'
  subst hparts hparts'
  obtain ⟨-, hdown⟩ := List.forall_mem_append.mp hpath
  obtain ⟨-, hup⟩ := List.forall_mem_append.mp hstart
  have hsteps : ∀ step ∈ stepsOf up down, IsPart step :=
    fun step hstep => isPart_of_mem_stepsOf (fun name hname => (hdown name hname).isPart) hstep
  have hnames : ∀ name ∈ common ++ up ++ stepsOf up down, IsPart name :=
    List.forall_mem_append.mpr ⟨fun name hname => (hstart name hname).isPart, hsteps⟩
  have hway : join (under "/" (common ++ up)) (relative (under "/" (common ++ down))
      (under "/" (common ++ up))) = under "/" (common ++ up ++ stepsOf up down) := by
    rw [hrelative, join_textJoin _ (stepsOf_ne_nil up down) hsteps]
    simp only [under, List.foldl_append]
  have hparts : normalParts true (under "/" (common ++ up ++ stepsOf up down)) = common ++ down := by
    calc
      normalParts true (under "/" (common ++ up ++ stepsOf up down))
        = ((common ++ up ++ stepsOf up down).foldl (pushPart true) []).reverse :=
          normalParts_under (by decide) hnames
      _ = ((stepsOf up down).foldl (pushPart true) (common ++ up).reverse).reverse := by
          rw [List.foldl_append, foldl_pushPart_of_isDown hstart, List.append_nil]
      _ = common ++ down := by
          rw [foldl_pushPart_stepsOf hup hdown, List.reverse_reverse]
  rw [hway, normalize_eq_under (leadingSlashes_under hnames), hparts]

end DeploymentRecipes.Path
