import DeploymentRecipes.Json.Strict
import DeploymentRecipes.Proofs.Json.Cut
import DeploymentRecipes.Proofs.Text.CodePoints
import DeploymentRecipes.Proofs.Value.Entries
import Mathlib.Data.List.Nodup

/-!
# Reading printed JSON

The tokens of a textual value are read as that value, and they hold no unpaired halves and are nested
no deeper than the value.  So a printed textual value is read back, strictly, if it is not nested too
deep.
-/

namespace DeploymentRecipes.Json

open Text (codes)

variable {length : Nat} {open_ : List Frame} {ls rest : List Lexeme}

/-! ### Reading tokens -/

theorem run_cons_of_take {l : Lexeme} {expectation next : Expectation} {stillOpen : List Frame}
    (h : take l open_ expectation = .ok (next, stillOpen)) :
  run length (l :: ls) expectation open_ = run length ls next stillOpen
  := by
  rw [run, h]

/-- Whatever comes after lexemes with these tokens, the lexemes are read as the value where one is
due. -/
def AreRead (ts : List Token) (v : Value) : Prop :=
  ∀ length (ls rest : List Lexeme) open_, ls.map (·.token) = ts →
    run length (ls ++ rest) .value open_ = run length rest (deliver v open_).1 (deliver v open_).2

theorem areRead_text (s : String) :
  AreRead [.text (codes s)] (.str s)
  := by
  intro length ls rest open_ hls
  obtain ⟨l, hl, htoken⟩ := List.map_eq_singleton_iff.mp hls
  subst hl
  rw [List.singleton_append]
  apply run_cons_of_take
  simp only [take, takeValue, htoken, Value.ofCodes_codes]

/-- Values between commas are added to the list. -/
theorem run_items {items : List Value} (hne : items ≠ []) (h : ∀ v ∈ items, AreRead (tokens v) v)
    (before : List Value) (hls : ls.map (·.token) = [.mark ','].intercalate (items.map tokens)) :
  run length (ls ++ rest) .value (.list before :: open_)
    = run length rest (.itemEnd (items.reverse ++ before)) open_
  := by
  induction items generalizing ls before with
  | nil => cases hne rfl
  | cons v vs ih =>
      rw [List.forall_mem_cons] at h
      cases vs with
      | nil => exact h.1 length ls rest (.list before :: open_) (by simpa using hls)
      | cons w ws =>
          rw [List.map_cons, List.map_cons, List.intercalate_cons_cons, List.append_assoc,
            List.singleton_append, List.map_eq_append_iff] at hls
          obtain ⟨first, more, rfl, hfirst, hmore⟩ := hls
          obtain ⟨comma, others, rfl, hcomma, hothers⟩ := List.map_eq_cons_iff.mp hmore
          rw [List.append_assoc, h.1 length first _ _ hfirst, List.cons_append]
          have htake : take comma open_ (.itemEnd (v :: before))
              = .ok (.value, .list (v :: before) :: open_) := by
            simp only [take, hcomma]
          rw [deliver, run_cons_of_take htake, ih (by simp) h.2 (v :: before) hothers]
          simp

/-- A value under a new key is entered into the mapping. -/
theorem run_field {f : String × Value} (h : AreRead (tokens f.2) f.2)
    {before : List (String × Value)} (hnew : f.1 ∉ before.map (·.1))
    (hls : ls.map (·.token) = fieldTokens f) :
  run length (ls ++ rest) (.nextKey (before.map fun f => (.str f.1, f.2))) open_
    = run length rest (.entryEnd ((before ++ [f]).map fun f => (.str f.1, f.2))) open_
  := by
  obtain ⟨key, others, rfl, hkey, hothers⟩ := List.map_eq_cons_iff.mp hls
  obtain ⟨colon, value, rfl, hcolon, hvalue⟩ := List.map_eq_cons_iff.mp hothers
  have htakeKey : take key open_ (.nextKey (before.map fun f => (.str f.1, f.2)))
      = .ok (.colon (before.map fun f => (.str f.1, f.2)) (.str f.1), open_) := by
    simp only [take, takeKey, hkey, Value.ofCodes_codes]
  have htakeColon : take colon open_ (.colon (before.map fun f => (.str f.1, f.2)) (.str f.1))
      = .ok (.value, .map (before.map fun f => (.str f.1, f.2)) (.str f.1) :: open_) := by
    simp only [take, hcolon]
  rw [List.cons_append, run_cons_of_take htakeKey, List.cons_append, run_cons_of_take htakeColon,
    h length value rest _ hvalue, deliver, Value.insertEntry_of_not_mem hnew]

/-- Values under new keys are entered into the mapping in their order. -/
theorem run_fields {fields : List (String × Value)} (hne : fields ≠ [])
    (h : ∀ f ∈ fields, AreRead (tokens f.2) f.2) (before : List (String × Value))
    (hnodup : ((before ++ fields).map (·.1)).Nodup)
    (hls : ls.map (·.token) = [.mark ','].intercalate (fields.map fieldTokens)) :
  run length (ls ++ rest) (.nextKey (before.map fun f => (.str f.1, f.2))) open_
    = run length rest (.entryEnd ((before ++ fields).map fun f => (.str f.1, f.2))) open_
  := by
  induction fields generalizing ls before with
  | nil => cases hne rfl
  | cons f fields ih =>
      rw [List.forall_mem_cons] at h
      have hnew : f.1 ∉ before.map (·.1) := by
        intro hmem
        rw [List.map_append, List.map_cons] at hnodup
        exact (List.disjoint_of_nodup_append hnodup) hmem List.mem_cons_self
      cases fields with
      | nil => exact run_field h.1 hnew (by simpa using hls)
      | cons g fields =>
          rw [List.map_cons, List.map_cons, List.intercalate_cons_cons, List.append_assoc,
            List.singleton_append, List.map_eq_append_iff] at hls
          obtain ⟨first, more, rfl, hfirst, hmore⟩ := hls
          obtain ⟨comma, others, rfl, hcomma, hothers⟩ := List.map_eq_cons_iff.mp hmore
          have htake : take comma open_ (.entryEnd ((before ++ [f]).map fun f => (.str f.1, f.2)))
              = .ok (.nextKey ((before ++ [f]).map fun f => (.str f.1, f.2)), open_) := by
            simp only [take, hcomma]
          have hrest := ih (by simp) h.2 (before ++ [f]) (by simpa using hnodup) hothers
          rw [List.append_assoc, run_field h.1 hnew hfirst, List.cons_append, run_cons_of_take htake,
            hrest, List.append_assoc, List.singleton_append]

/-- Tokens in a row begin with the first of them. -/
theorem exists_intercalate_eq_cons (sep : List Token) (t : Token) (ts : List Token)
    (tss : List (List Token)) :
  ∃ us, sep.intercalate ((t :: ts) :: tss) = t :: us
  := by
  cases tss with
  | nil => exact ⟨ts, List.intercalate_singleton⟩
  | cons us tss => exact ⟨_, List.intercalate_cons_cons⟩

/-- A textual value does not begin with the end of a list. -/
theorem exists_tokens_eq_cons {n : Nat} {v : Value} (h : IsTextual n v) :
  ∃ t ts, tokens v = t :: ts ∧ t ≠ .mark ']'
  := by
  cases h with
  | text n s => exact ⟨_, _, rfl, by simp⟩
  | list h => exact ⟨_, _, rfl, by simp⟩
  | map hnodup h => exact ⟨_, _, rfl, by simp⟩

/-- The first value of a list is read like any other. -/
theorem run_firstItem {l : Lexeme} (h : l.token ≠ .mark ']') :
  run length (l :: ls) .firstItem open_ = run length (l :: ls) .value (.list [] :: open_)
  := by
  have htake : take l open_ .firstItem = take l (.list [] :: open_) .value := by
    rw [take, take]
    split
    · rename_i hmark
      cases h hmark
    · rfl
  rw [run, run, htake]

/-- The first key of a mapping is read like any other. -/
theorem run_firstKey {l : Lexeme} {codes : List Nat} (h : l.token = .text codes) :
  run length (l :: ls) .firstKey open_ = run length (l :: ls) (.nextKey []) open_
  := by
  have htake : take l open_ .firstKey = take l open_ (.nextKey []) := by
    simp only [take, takeKey, h]
  rw [run, run, htake]

theorem areRead_list {n : Nat} {items : List Value} (htextual : ∀ v ∈ items, IsTextual n v)
    (h : ∀ v ∈ items, AreRead (tokens v) v) :
  AreRead (tokens (.list items)) (.list items)
  := by
  intro length ls rest open_ hls
  rw [tokens, itemTokens_eq_map] at hls
  obtain ⟨start, others, rfl, hstart, hothers⟩ := List.map_eq_cons_iff.mp hls
  obtain ⟨inside, closing, rfl, hinside, hclosing⟩ := List.map_eq_append_iff.mp hothers
  obtain ⟨stop, rfl, hstop⟩ := List.map_eq_singleton_iff.mp hclosing
  have htakeStart : take start open_ .value = .ok (.firstItem, open_) := by
    simp only [take, takeValue, hstart]
  rw [List.cons_append, run_cons_of_take htakeStart, List.append_assoc, List.singleton_append]
  cases items with
  | nil =>
      obtain rfl : inside = [] := by simpa using hinside
      apply run_cons_of_take
      simp only [take, hstop]
  | cons v vs =>
      obtain ⟨t, ts, hcons, ht⟩ := exists_tokens_eq_cons (htextual v List.mem_cons_self)
      obtain ⟨us, hfirst⟩ := exists_intercalate_eq_cons [.mark ','] t ts (vs.map tokens)
      rw [← hcons] at hfirst
      obtain ⟨l, more, rfl, hl, -⟩ := List.map_eq_cons_iff.mp (hinside.trans hfirst)
      have htakeStop : take stop open_ (.itemEnd ((v :: vs).reverse ++ []))
          = .ok ((deliver (.list (v :: vs)) open_).1, (deliver (.list (v :: vs)) open_).2) := by
        simp only [take, hstop, List.append_nil, List.reverse_reverse]
      rw [List.cons_append, run_firstItem (hl ▸ ht), ← List.cons_append,
        run_items (by simp) h [] hinside, run_cons_of_take htakeStop]

theorem areRead_map {fields : List (String × Value)} (hnodup : (fields.map (·.1)).Nodup)
    (h : ∀ f ∈ fields, AreRead (tokens f.2) f.2) :
  AreRead (tokens (.ofFields fields)) (.ofFields fields)
  := by
  intro length ls rest open_ hls
  rw [Value.ofFields, tokens, entryTokens_eq_map] at hls
  obtain ⟨start, others, rfl, hstart, hothers⟩ := List.map_eq_cons_iff.mp hls
  obtain ⟨inside, closing, rfl, hinside, hclosing⟩ := List.map_eq_append_iff.mp hothers
  obtain ⟨stop, rfl, hstop⟩ := List.map_eq_singleton_iff.mp hclosing
  have htakeStart : take start open_ .value = .ok (.firstKey, open_) := by
    simp only [take, takeValue, hstart]
  rw [List.cons_append, run_cons_of_take htakeStart, List.append_assoc, List.singleton_append]
  cases fields with
  | nil =>
      obtain rfl : inside = [] := by simpa using hinside
      apply run_cons_of_take
      simp only [take, hstop]
      rfl
  | cons f fields =>
      obtain ⟨us, hfirst⟩ := exists_intercalate_eq_cons [.mark ','] (.text (codes f.1))
        (.mark ':' :: tokens f.2) (fields.map fieldTokens)
      obtain ⟨key, more, rfl, hkey, -⟩ := List.map_eq_cons_iff.mp (hinside.trans hfirst)
      have hfields := @run_fields length open_ _ (stop :: rest) _ (by simp) h [] hnodup hinside
      have htakeStop : take stop open_ (.entryEnd ((f :: fields).map fun f => (.str f.1, f.2)))
          = .ok ((deliver (.ofFields (f :: fields)) open_).1,
            (deliver (.ofFields (f :: fields)) open_).2) := by
        simp only [take, hstop, Value.ofFields]
      rw [List.cons_append, run_firstKey hkey, ← List.cons_append]
      exact hfields.trans (run_cons_of_take htakeStop)

/-- A textual value is read where one is due. -/
theorem areRead_tokens {n : Nat} {v : Value} (h : IsTextual n v) :
  AreRead (tokens v) v
  := by
  induction h with
  | text n s => exact areRead_text s
  | list h ih => exact areRead_list h ih
  | map hnodup h ih => exact areRead_map hnodup ih

/-! ### Strict reading -/

/-- Tokens that a strict reading accepts, wherever this leaves room for some more levels. -/
structure IsStrict (levels : Nat) (ts : List Token) : Prop where
  paired : ∀ t ∈ ts, t.isPaired = true
  shallow : ∀ depth (ls rest : List Lexeme), ls.map (·.token) = ts → depth + levels ≤ depthLimit →
    isShallow depth (ls ++ rest) = isShallow depth rest

variable {levels : Nat} {ts us : List Token}

theorem isStrict_nil :
  IsStrict levels []
  := by
  constructor
  · intro t ht
    cases ht
  · intro depth ls rest hls _
    rw [List.map_eq_nil_iff.mp hls, List.nil_append]

theorem IsStrict.append (h : IsStrict levels ts) (h' : IsStrict levels us) :
  IsStrict levels (ts ++ us)
  := by
  constructor
  · intro t ht
    exact (List.mem_append.mp ht).elim (h.paired t) (h'.paired t)
  · intro depth ls rest hls hdepth
    obtain ⟨as, bs, rfl, has, hbs⟩ := List.map_eq_append_iff.mp hls
    rw [List.append_assoc, h.shallow depth as _ has hdepth, h'.shallow depth bs _ hbs hdepth]

/-- A token that neither opens nor closes anything takes no level. -/
theorem isStrict_singleton {t : Token} (hpaired : t.isPaired = true) (hopening : t.isOpening = false)
    (hclosing : t.isClosing = false) :
  IsStrict levels [t]
  := by
  constructor
  · rwa [List.forall_mem_singleton]
  · intro depth ls rest hls _
    obtain ⟨l, rfl, hl⟩ := List.map_eq_singleton_iff.mp hls
    subst hl
    rw [List.singleton_append, isShallow, hopening, hclosing]
    rfl

theorem isStrict_text (s : String) :
  IsStrict levels [.text (codes s)]
  := by
  apply isStrict_singleton _ rfl rfl
  rw [Token.isPaired, List.all_eq_true]
  intro code hcode
  have hhalf := Text.isHalf_of_mem_codes hcode
  simp only [Text.isHalf, Bool.and_eq_false_iff, decide_eq_false_iff_not] at hhalf
  simp only [isHighHalf, isLowHalf, Bool.not_eq_true', Bool.or_eq_false_iff, Bool.and_eq_false_iff,
    decide_eq_false_iff_not]
  omega

theorem IsStrict.intercalate {tss : List (List Token)} {t : Token} (ht : IsStrict levels [t])
    (h : ∀ ts ∈ tss, IsStrict levels ts) :
  IsStrict levels ([t].intercalate tss)
  := by
  induction tss with
  | nil => exact isStrict_nil
  | cons ts tss ih =>
      rw [List.forall_mem_cons] at h
      cases tss with
      | nil =>
          rw [List.intercalate_singleton]
          exact h.1
      | cons us tss =>
          rw [List.intercalate_cons_cons]
          exact (h.1.append ht).append (ih h.2)

/-- A list or mapping takes one level. -/
theorem IsStrict.enclose {opening closing : Char} (h : IsStrict levels ts)
    (hopening : (Token.mark opening).isOpening = true)
    (hclosing : (Token.mark closing).isClosing = true)
    (hnot : (Token.mark closing).isOpening = false) :
  IsStrict (levels + 1) (.mark opening :: (ts ++ [.mark closing]))
  := by
  constructor
  · intro t ht
    rcases List.mem_cons.mp ht with rfl | ht
    · rfl
    · rcases List.mem_append.mp ht with ht | ht
      · exact h.paired t ht
      · rw [List.mem_singleton.mp ht]
        rfl
  · intro depth ls rest hls hdepth
    obtain ⟨start, others, rfl, hstart, hothers⟩ := List.map_eq_cons_iff.mp hls
    obtain ⟨inside, last, rfl, hinside, hlast⟩ := List.map_eq_append_iff.mp hothers
    obtain ⟨stop, rfl, hstop⟩ := List.map_eq_singleton_iff.mp hlast
    have hroom : decide (depth < depthLimit) = true := decide_eq_true (by omega)
    rw [List.cons_append, isShallow, hstart, hopening, if_pos rfl, hroom]
    simp only [Bool.or_true, Bool.true_and]
    rw [List.append_assoc, h.shallow (depth + 1) inside _ hinside (by omega), List.singleton_append,
      isShallow, hstop, hnot, hclosing]
    rfl

/-- The tokens of a textual value take as many levels as the value has. -/
theorem isStrict_tokens {n : Nat} {v : Value} (h : IsTextual n v) :
  IsStrict n (tokens v)
  := by
  have hcomma : ∀ levels, IsStrict levels [.mark ','] := fun _ => isStrict_singleton rfl rfl rfl
  have hcolon : ∀ levels, IsStrict levels [.mark ':'] := fun _ => isStrict_singleton rfl rfl rfl
  induction h with
  | text n s => exact isStrict_text s
  | list h ih =>
      rw [tokens, itemTokens_eq_map]
      apply IsStrict.enclose _ rfl rfl rfl
      apply (hcomma _).intercalate
      rwa [List.forall_mem_map]
  | map hnodup h ih =>
      rw [Value.ofFields, tokens, entryTokens_eq_map]
      apply IsStrict.enclose _ rfl rfl rfl
      apply (hcomma _).intercalate
      rw [List.forall_mem_map]
      intro f hf
      exact (isStrict_text f.1).append ((hcolon _).append (ih f hf))

theorem exists_block_eq (opening closing : String) (depth : Nat) (parts : List String) :
  ∃ s, block opening closing depth parts = opening ++ s
  := by
  rw [block]
  split
  · exact ⟨closing, rfl⟩
  · simp only [String.append_assoc]
    exact ⟨_, rfl⟩

/-- A printed textual value begins with a quote or a bracket. -/
theorem exists_print_eq_cons {n : Nat} {v : Value} (h : IsTextual n v) (depth : Nat) :
  ∃ c cs, (print false depth v).toList = c :: cs ∧ c ∈ ['"', '[', '{']
  := by
  cases h with
  | text n s => exact ⟨'"', _, toList_textLiteral s, by simp⟩
  | list h =>
      obtain ⟨s, hs⟩ := exists_block_eq "[" "]" depth _
      rw [print, hs, String.toList_append]
      exact ⟨'[', s.toList, rfl, by simp⟩
  | map hnodup h =>
      obtain ⟨s, hs⟩ := exists_block_eq r"{" r"}" depth _
      rw [Value.ofFields, print, hs, String.toList_append]
      exact ⟨'{', s.toList, rfl, by simp⟩

/-- A printed textual value is read back. -/
theorem read_print {n : Nat} {v : Value} (h : IsTextual n v) (limit : DigitLimit) (depth : Nat) :
  read limit (print false depth v) = .ok v
  := by
  have hrun := areRead_tokens h (print false depth v).toList.length _ [] [] (lex_print h limit depth)
  rw [List.append_nil] at hrun
  have hmark : ((print false depth v).toList.head? == some '\ufeff') = false := by
    obtain ⟨c, cs, hcons, hc⟩ := exists_print_eq_cons h depth
    rw [hcons]
    simp only [List.mem_cons, List.not_mem_nil, or_false] at hc
    rcases hc with rfl | rfl | rfl <;> rfl
  simp only [read, hmark, hrun]
  rfl

/-- It is read strictly, if it is not nested too deep. -/
theorem readStrict?_print {n : Nat} {v : Value} (h : IsTextual n v) (hn : n ≤ depthLimit)
    (depth : Nat) :
  readStrict? (print false depth v) = some v
  := by
  have htokens := lex_print h (some Numeral.digitLimit) depth
  have hstrict := isStrict_tokens h
  have hpaired : (lex (some Numeral.digitLimit) (print false depth v).toList).all
      (·.token.isPaired) = true := by
    rw [List.all_eq_true]
    intro l hl
    apply hstrict.paired
    rw [← htokens]
    apply List.mem_map_of_mem hl
  have hshallow : isShallow 0 (lex (some Numeral.digitLimit) (print false depth v).toList) = true := by
    have hlevels := hstrict.shallow 0 _ [] htokens (by omega)
    rwa [List.append_nil] at hlevels
  rw [readStrict?]
  simp only [hpaired, hshallow, read_print h]
  rfl

end DeploymentRecipes.Json
