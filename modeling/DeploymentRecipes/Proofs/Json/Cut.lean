import DeploymentRecipes.Json.Printer
import DeploymentRecipes.Json.Token
import Mathlib.Data.List.Forall2
import Mathlib.Tactic.Use

/-!
# Cutting printed JSON

A printed value is cut into the tokens that it is made of, whatever comes after it.  Marks and the
literals of texts are recognised by themselves, and the line ends and blanks between them leave no
token.
-/

namespace DeploymentRecipes.Json

open Text (codes)

variable {quote position : Nat} {rest : List Char} {acc : List Nat}

/-! ### Characters of a text -/

theorem readText_skip (cs rest : List Char) (quote position : Nat) (acc : List Nat) :
  readText quote (cs ++ rest) position cs.length acc
    = readText quote rest (position + cs.length) 0 acc
  := by
  induction cs generalizing position with
  | nil => rfl
  | cons c cs ih =>
      rw [List.cons_append, List.length_cons, readText, ih, Nat.add_right_comm, Nat.add_assoc]

theorem readText_escape {cs : List Char} {code : Nat}
    (h : readEscape quote position (cs ++ rest) = .ok (code, cs.length)) :
  readText quote ('\\' :: cs ++ rest) position 0 acc
    = readText quote rest (position + ('\\' :: cs).length) 0 (code :: acc)
  := by
  rw [List.cons_append, readText, if_neg (by decide), if_pos rfl, h]
  dsimp only
  rw [readText_skip, List.length_cons, Nat.add_right_comm, Nat.add_assoc]

theorem readText_letter {letter : Char} {code : Nat} (h : letterEscape? letter = some code) :
  readText quote ('\\' :: letter :: rest) position 0 acc
    = readText quote rest (position + 2) 0 (code :: acc)
  := by
  apply @readText_escape _ _ _ _ [letter]
  rw [List.singleton_append, readEscape]
  · rw [h]
    rfl
  · rintro rfl
    cases h

theorem fourDigits?_hexPadded :
  ∀ n < 0x20, (Text.hexPadded 4 n).toList.length = 4
    ∧ fourDigits? (Text.hexPadded 4 n).toList = some n
  := by
  decide +kernel

/-- The four digits of a code that is no half are read whatever comes after. -/
theorem codeEscape_of_fourDigits {digits : List Char} {n : Nat} (hlength : digits.length = 4)
    (hdigits : fourDigits? digits = some n) (hhigh : isHighHalf n = false) (hrest : rest ≠ []) :
  codeEscape position (digits ++ rest) = .ok (n, 5)
  := by
  have hread : fourDigits? (digits ++ rest) = some n := by
    rw [← hdigits, fourDigits?, fourDigits?, ← hlength, List.take_left, List.take_length]
  rw [codeEscape, hread, List.drop_left' hlength]
  cases rest with
  | nil => cases hrest rfl
  | cons c cs =>
      dsimp only
      split
      · rw [hhigh]
        rfl
      · rfl

theorem readText_unitEscape {n : Nat} (h : n < 0x20) (hrest : rest ≠ []) :
  readText quote ((unitEscape n).toList ++ rest) position 0 acc
    = readText quote rest (position + (unitEscape n).toList.length) 0 (n :: acc)
  := by
  obtain ⟨hlength, hdigits⟩ := fourDigits?_hexPadded n h
  have hhigh : isHighHalf n = false := by
    simp only [isHighHalf, Bool.and_eq_false_iff, decide_eq_false_iff_not]
    omega
  have hlist : (unitEscape n).toList = '\\' :: 'u' :: (Text.hexPadded 4 n).toList := by
    rw [unitEscape, String.toList_append]
    rfl
  rw [hlist]
  apply readText_escape
  rw [List.cons_append, readEscape, codeEscape_of_fourDigits hlength hdigits hhigh hrest,
    List.length_cons, hlength]

/-- A printed character is read as the character. -/
theorem readText_escaped (c : Char) (hrest : rest ≠ []) :
  readText quote ((escaped false c).toList ++ rest) position 0 acc
    = readText quote rest (position + (escaped false c).toList.length) 0 (c.toNat :: acc)
  := by
  rw [escaped]
  split_ifs with hquote hbackslash hfeed hreturn htab hback hform hcontrol
  · subst hquote
    exact readText_letter rfl
  · subst hbackslash
    exact readText_letter rfl
  · subst hfeed
    exact readText_letter rfl
  · subst hreturn
    exact readText_letter rfl
  · subst htab
    exact readText_letter rfl
  · subst hback
    exact readText_letter rfl
  · subst hform
    exact readText_letter rfl
  · have hlt : c.toNat < 0x20 := by simpa using hcontrol
    rw [charEscape, if_pos (by omega)]
    exact readText_unitEscape hlt hrest
  · have hle : ¬ c.toNat ≤ 0x1f := by simp at hcontrol; omega
    rw [String.toList_ofList, List.singleton_append, readText, if_neg hquote, if_neg hbackslash,
      if_neg hle]
    rfl

/-- The characters of a printed text are read up to the closing quote. -/
theorem readText_escapedAll (cs rest : List Char) (quote position : Nat) (acc : List Nat) :
  readText quote (cs.flatMap (fun c => (escaped false c).toList) ++ '"' :: rest) position 0 acc
    = .ok (acc.reverse ++ cs.map Char.toNat,
      position + (cs.flatMap fun c => (escaped false c).toList).length + 1)
  := by
  induction cs generalizing position acc with
  | nil => simp [readText]
  | cons c cs ih =>
      rw [List.flatMap_cons, List.append_assoc, readText_escaped c (by simp), ih, List.length_append,
        List.reverse_cons, List.append_assoc, List.singleton_append, List.map_cons]
      simp only [Nat.add_assoc]

/-! ### Pieces of a text -/

/-- However a text goes on after these characters, they are cut into the given tokens. -/
def IsCut (cs : List Char) (ts : List Token) : Prop :=
  ∀ limit rest position acc, ∃ (lexemes : List Lexeme) (behind : Nat), lexemes.map (·.token) = ts
    ∧ lexFrom limit (cs ++ rest) position 0 acc = lexFrom limit rest behind 0 (lexemes.reverse ++ acc)

theorem isCut_nil :
  IsCut [] []
  := by
  intro limit rest position acc
  exact ⟨[], position, rfl, rfl⟩

theorem IsCut.append {cs ds : List Char} {ts us : List Token} (h : IsCut cs ts) (h' : IsCut ds us) :
  IsCut (cs ++ ds) (ts ++ us)
  := by
  intro limit rest position acc
  obtain ⟨ls, middle, hts, hls⟩ := h limit (ds ++ rest) position acc
  obtain ⟨ms, behind, hus, hms⟩ := h' limit rest middle (ls.reverse ++ acc)
  use ls ++ ms, behind
  constructor
  · rw [List.map_append, hts, hus]
  · rw [List.append_assoc, hls, hms, List.reverse_append, List.append_assoc]

theorem isCut_spaces {cs : List Char} (h : ∀ c ∈ cs, isSpace c = true) :
  IsCut cs []
  := by
  induction cs with
  | nil => exact isCut_nil
  | cons c cs ih =>
      rw [List.forall_mem_cons] at h
      intro limit rest position acc
      obtain ⟨ls, behind, hnone, hls⟩ := ih h.2 limit rest (position + 1) acc
      use ls, behind, hnone
      rw [List.cons_append, lexFrom, if_pos h.1, hls]

theorem isCut_mark {c : Char} (h : isMark c = true) :
  IsCut [c] [.mark c]
  := by
  have hspace : isSpace c = false := by
    simp only [isMark, Bool.or_eq_true, decide_eq_true_eq] at h
    rcases h with ((((rfl | rfl) | rfl) | rfl) | rfl) | rfl <;> rfl
  intro limit rest position acc
  use [⟨position, .mark c⟩], position + 1, rfl
  rw [List.singleton_append, lexFrom, if_neg (by simp [hspace]), tokenAt, if_pos h]
  rfl

theorem lexFrom_skip (limit : DigitLimit) (cs rest : List Char) (position : Nat) (acc : List Lexeme) :
  lexFrom limit (cs ++ rest) position cs.length acc = lexFrom limit rest (position + cs.length) 0 acc
  := by
  induction cs generalizing position with
  | nil => rfl
  | cons c cs ih =>
      rw [List.cons_append, List.length_cons, lexFrom, ih, Nat.add_right_comm, Nat.add_assoc]

/-- The characters between the quotes of a text. -/
def inner (s : String) : List Char := s.toList.flatMap fun c => (escaped false c).toList

theorem toList_textLiteral (s : String) :
  (textLiteral false s).toList = '"' :: (inner s ++ ['"'])
  := by
  simp [textLiteral, inner, String.toList_join, List.flatMap_map]

theorem tokenAt_inner (limit : DigitLimit) (position : Nat) (s : String) (rest : List Char) :
  tokenAt limit position '"' (inner s ++ '"' :: rest) = (.text (codes s), (inner s).length + 1 + 1)
  := by
  have hread := readText_escapedAll s.toList rest position (position + 1) []
  rw [tokenAt, if_neg (by decide), if_pos rfl, inner, hread]
  dsimp only
  rw [List.reverse_nil, List.nil_append, codes]
  congr 1
  omega

/-- The literal of a text is the token of the text. -/
theorem isCut_textLiteral (s : String) :
  IsCut (textLiteral false s).toList [.text (codes s)]
  := by
  intro limit rest position acc
  use [⟨position, .text (codes s)⟩], position + 1 + (inner s ++ ['"']).length, rfl
  rw [toList_textLiteral, List.cons_append, lexFrom, if_neg (by decide), List.append_assoc,
    List.singleton_append, tokenAt_inner]
  dsimp only
  have hskip := lexFrom_skip limit (inner s ++ ['"']) rest (position + 1)
    (⟨position, .text (codes s)⟩ :: acc)
  rw [List.append_assoc, List.singleton_append, List.length_append, List.length_singleton] at hskip
  rw [hskip, List.length_append, List.length_singleton]
  rfl

theorem isCut_newLine (depth : Nat) :
  IsCut (newLine depth).toList []
  := by
  apply isCut_spaces
  intro c hc
  have heq : c = '\n' ∨ c = ' ' := by
    rcases (by simpa [newLine] using hc) with heq | ⟨-, heq⟩
    · exact Or.inl heq
    · exact Or.inr heq
  rcases heq with rfl | rfl <;> rfl

theorem isCut_intercalate {sep : List Char} {mark : Token} (hsep : IsCut sep [mark])
    {pieces : List (List Char)} {tss : List (List Token)} (h : List.Forall₂ IsCut pieces tss) :
  IsCut (sep.intercalate pieces) ([mark].intercalate tss)
  := by
  induction h with
  | nil => exact isCut_nil
  | cons hpiece hrest ih =>
      cases hrest with
      | nil =>
          rw [List.intercalate_singleton, List.intercalate_singleton]
          exact hpiece
      | cons hnext hrest =>
          rw [List.intercalate_cons_cons, List.intercalate_cons_cons]
          exact (hpiece.append hsep).append ih

/-- Printed parts between marks are cut at the marks. -/
theorem isCut_block {opening closing : Char} (hopening : isMark opening = true)
    (hclosing : isMark closing = true) (depth : Nat) {parts : List String} {tss : List (List Token)}
    (h : List.Forall₂ IsCut (parts.map String.toList) tss) :
  IsCut (block (String.ofList [opening]) (String.ofList [closing]) depth parts).toList
    (.mark opening :: ([.mark ','].intercalate tss ++ [.mark closing]))
  := by
  have hsep : IsCut ("," ++ newLine (depth + 1)).toList [.mark ','] := by
    rw [String.toList_append]
    exact (isCut_mark rfl).append (isCut_newLine _)
  have hparts := isCut_intercalate hsep h
  rw [block]
  split
  · rename_i hempty
    rw [List.isEmpty_iff] at hempty
    subst hempty
    obtain rfl : tss = [] := by simpa using h
    rw [String.toList_append, String.toList_ofList, String.toList_ofList]
    exact (isCut_mark hopening).append (isCut_mark hclosing)
  · have hopened := (isCut_mark hopening).append (isCut_newLine (depth + 1))
    have hclosed := (isCut_newLine depth).append (isCut_mark hclosing)
    simpa using (hopened.append hparts).append hclosed

/-! ### Textual values -/

/-- The values made of texts, of lists and of mappings with different text keys, nested at most so
deep. -/
inductive IsTextual : Nat → Value → Prop where
  | text (n : Nat) (s : String) : IsTextual n (.str s)
  | list {n : Nat} {items : List Value} (h : ∀ v ∈ items, IsTextual n v) :
    IsTextual (n + 1) (.list items)
  | map {n : Nat} {fields : List (String × Value)} (hnodup : (fields.map (·.1)).Nodup)
    (h : ∀ f ∈ fields, IsTextual n f.2) : IsTextual (n + 1) (.ofFields fields)

mutual

/-- Whether a value is textual, computed. -/
def isTextual : Nat → Value → Bool
  | _, .str _ => true
  | n + 1, .list items => areTextual n items
  | n + 1, .map entries => haveTextual n entries
  | _, _ => false

def areTextual (n : Nat) : List Value → Bool
  | [] => true
  | v :: vs => isTextual n v && areTextual n vs

def haveTextual (n : Nat) : List (Value × Value) → Bool
  | [] => true
  | (.str key, v) :: es =>
    isTextual n v && !es.any (fun e => e.1.isText key) && haveTextual n es
  | _ => false

end

mutual

theorem IsTextual.of_check : ∀ {n : Nat} {v : Value}, isTextual n v = true → IsTextual n v
  | n, .str s, _ => .text n s
  | _ + 1, .list items, h => .list (forall_of_areTextual h)
  | _ + 1, .map entries, h => by
      obtain ⟨fields, rfl, hnodup, hfields⟩ := exists_of_haveTextual h
      exact .map hnodup hfields

theorem forall_of_areTextual {n : Nat} :
    ∀ {items : List Value}, areTextual n items = true → ∀ v ∈ items, IsTextual n v
  | [], _ => by simp
  | v :: vs, h => by
      rw [areTextual, Bool.and_eq_true] at h
      rw [List.forall_mem_cons]
      exact ⟨IsTextual.of_check h.1, forall_of_areTextual h.2⟩

/-- Entries that pass the check are fields with different names. -/
theorem exists_of_haveTextual {n : Nat} :
    ∀ {entries : List (Value × Value)}, haveTextual n entries = true →
      ∃ fields : List (String × Value), entries = fields.map (fun f => (.str f.1, f.2))
        ∧ (fields.map (·.1)).Nodup ∧ ∀ f ∈ fields, IsTextual n f.2
  | [], _ => ⟨[], by simp⟩
  | (.str key, v) :: es, h => by
      rw [haveTextual, Bool.and_eq_true, Bool.and_eq_true, Bool.not_eq_true', List.any_eq_false] at h
      obtain ⟨⟨hv, hkey⟩, hes⟩ := h
      obtain ⟨fields, rfl, hnodup, hfields⟩ := exists_of_haveTextual hes
      refine ⟨(key, v) :: fields, rfl, ?_, ?_⟩
      · rw [List.map_cons, List.nodup_cons]
        refine ⟨?_, hnodup⟩
        intro hmem
        obtain ⟨f, hf, rfl⟩ := List.mem_map.mp hmem
        exact hkey _ (List.mem_map_of_mem hf) (by simp [Value.isText])
      · rw [List.forall_mem_cons]
        exact ⟨IsTextual.of_check hv, hfields⟩

end

mutual

/-- The tokens of a printed value, if it is textual. -/
def tokens : Value → List Token
  | .str s => [.text (codes s)]
  | .list items => .mark '[' :: ([.mark ','].intercalate (itemTokens items) ++ [.mark ']'])
  | .map entries =>
    .mark '{' :: ([.mark ','].intercalate (entryTokens entries) ++ [.mark '}'])
  | _ => []

def itemTokens : List Value → List (List Token)
  | [] => []
  | v :: vs => tokens v :: itemTokens vs

def entryTokens : List (Value × Value) → List (List Token)
  | [] => []
  | (k, v) :: es => (.text (codes (keyText k)) :: .mark ':' :: tokens v) :: entryTokens es

end

/-- The tokens of a field. -/
def fieldTokens (f : String × Value) : List Token := .text (codes f.1) :: .mark ':' :: tokens f.2

theorem itemTokens_eq_map (items : List Value) :
  itemTokens items = items.map tokens
  := by
  induction items with
  | nil => rfl
  | cons v vs ih => rw [itemTokens, ih, List.map_cons]

theorem entryTokens_eq_map (fields : List (String × Value)) :
  entryTokens (fields.map fun f => (.str f.1, f.2)) = fields.map fieldTokens
  := by
  induction fields with
  | nil => rfl
  | cons f fields ih =>
      rw [List.map_cons, entryTokens, ih, List.map_cons]
      rfl

theorem printItems_eq_map (depth : Nat) (items : List Value) :
  printItems false depth items = items.map (print false depth)
  := by
  induction items with
  | nil => rfl
  | cons v vs ih => rw [printItems, ih, List.map_cons]

theorem printEntries_eq_map (depth : Nat) (fields : List (String × Value)) :
  printEntries false depth (fields.map fun f => (.str f.1, f.2))
    = fields.map fun f => textLiteral false f.1 ++ ": " ++ print false depth f.2
  := by
  induction fields with
  | nil => rfl
  | cons f fields ih => rw [List.map_cons, printEntries, ih, List.map_cons, keyText]

/-- A printed textual value is cut into its tokens. -/
theorem isCut_print {n : Nat} {v : Value} (h : IsTextual n v) (depth : Nat) :
  IsCut (print false depth v).toList (tokens v)
  := by
  induction h generalizing depth with
  | text n s => exact isCut_textLiteral s
  | list h ih =>
      rw [print, tokens, printItems_eq_map, itemTokens_eq_map]
      apply isCut_block rfl rfl
      rw [List.map_map, List.forall₂_map_left_iff, List.forall₂_map_right_iff, List.forall₂_same]
      exact fun v hv => ih v hv (depth + 1)
  | map hnodup h ih =>
      rw [Value.ofFields, print, tokens, printEntries_eq_map, entryTokens_eq_map]
      apply isCut_block rfl rfl
      rw [List.map_map, List.forall₂_map_left_iff, List.forall₂_map_right_iff, List.forall₂_same]
      intro f hf
      have hcolon : IsCut ": ".toList [.mark ':'] :=
        (isCut_mark rfl).append (isCut_spaces (List.forall_mem_singleton.mpr rfl))
      rw [Function.comp_apply, String.toList_append, String.toList_append]
      exact ((isCut_textLiteral f.1).append hcolon).append (ih f hf (depth + 1))

/-- The tokens of a textual value are cut out of its printed text. -/
theorem lex_print {n : Nat} {v : Value} (h : IsTextual n v) (limit : DigitLimit) (depth : Nat) :
  (lex limit (print false depth v).toList).map (·.token) = tokens v
  := by
  obtain ⟨lexemes, behind, htokens, hlex⟩ := isCut_print h depth limit [] 0 []
  rw [List.append_nil, List.append_nil, lexFrom, List.reverse_reverse] at hlex
  rw [lex, hlex, htokens]

end DeploymentRecipes.Json
