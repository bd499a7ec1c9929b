import DeploymentRecipes.Proofs.Text.CodePoints
import DeploymentRecipes.Proofs.Token.Occurrence
import DeploymentRecipes.Proofs.Token.Table
import Mathlib.Data.List.Perm.Basic

/-!
# Replacing all tokens at once

The tokens of a table are replaced one after the other, each in the text that the ones before it left.
A token begins with an opening brace.  Where no substitution has one and no brace is opened twice
before it is closed, a replacement neither makes a token nor breaks one, so the tokens are replaced as
if all at once.
-/

namespace DeploymentRecipes

namespace TokenTable

/-- The text to put in the place of a token: its substitution, when that is not empty. -/
def textFor (table : TokenTable) (token : List Char) : Option (List Char) :=
  match table.lookup (String.ofList token) with
  | some (.str new) => if new = "" then none else some new.toList
  | _ => none

/-- Every entry is for another token, and its substitution is a text that opens no brace. -/
structure IsPlain (table : TokenTable) : Prop where
  nodup : (table.map (·.1)).Nodup
  token : ∀ p ∈ table, Token.IsToken p.1.toList
  text : ∀ p ∈ table, ∃ new : String, p.2 = .str new ∧ '{' ∉ new.toList

variable {table : TokenTable}

theorem IsPlain.perm (h : table.IsPlain) {order : TokenTable} (horder : order.Perm table) :
  order.IsPlain
  where
  nodup := (horder.map (·.1)).nodup_iff.mpr h.nodup
  token p hp := h.token p (horder.mem_iff.mp hp)
  text p hp := h.text p (horder.mem_iff.mp hp)

theorem IsPlain.tail {p : String × Value} (h : IsPlain (p :: table)) :
  table.IsPlain
  where
  nodup := (List.nodup_cons.mp h.nodup).2
  token q hq := h.token q (List.mem_cons_of_mem p hq)
  text q hq := h.text q (List.mem_cons_of_mem p hq)

theorem IsPlain.head {p : String × Value} (h : IsPlain (p :: table)) :
  IsPlain [p]
  where
  nodup := List.nodup_singleton p.1
  token := by simpa using h.token p List.mem_cons_self
  text := by simpa using h.text p List.mem_cons_self

theorem textFor_perm (h : (table.map (·.1)).Nodup) {order : TokenTable} (horder : order.Perm table) :
  order.textFor = table.textFor
  := by
  funext token
  rw [textFor, textFor, lookup_perm h horder]

theorem IsPlain.not_mem_of_textFor (h : table.IsPlain) {token new : List Char}
    (hnew : table.textFor token = some new) :
  '{' ∉ new
  := by
  rw [textFor] at hnew
  split at hnew
  · rename_i text hlookup
    split at hnew
    · cases hnew
    · obtain ⟨text', htext, hbrace⟩ := h.text _ ((lookup_eq_some_iff h.nodup).mp hlookup)
      cases htext
      cases hnew
      exact hbrace
  · cases hnew

theorem textFor_cons_self (key new : String) :
  textFor ((key, .str new) :: table) key.toList = if new = "" then none else some new.toList
  := by
  simp [textFor]

theorem textFor_cons_of_ne {key : String} {token : List Char} (h : token ≠ key.toList) (v : Value) :
  textFor ((key, v) :: table) token = table.textFor token
  := by
  have hkey : (String.ofList token == key) = false := by
    rw [beq_eq_false_iff_ne]
    rintro rfl
    simp at h
  rw [textFor, textFor, List.lookup_cons, hkey]

theorem textFor_singleton (key new : String) :
  textFor [(key, .str new)]
    = fun token => if token = key.toList ∧ new ≠ "" then some new.toList else none
  := by
  funext token
  by_cases htoken : token = key.toList
  · rw [htoken, textFor_cons_self]
    simp
  · rw [textFor_cons_of_ne htoken, if_neg (by simp [htoken])]
    rfl

/-- The text for a token is the one of the first entry or of the others. -/
theorem textFor_cons {key new : String} (h : key ∉ table.map (·.1)) (token : List Char) :
  textFor ((key, .str new) :: table) token
    = (textFor [(key, .str new)] token).or (table.textFor token)
  := by
  by_cases hkey : token = key.toList
  · have hrest : table.textFor token = none := by
      rw [textFor, hkey, String.ofList_toList, lookup_eq_none_iff.mpr h]
    rw [hrest, Option.or_none, hkey, textFor_cons_self, textFor_cons_self]
  · rw [textFor_cons_of_ne hkey, textFor_cons_of_ne hkey]
    rfl

end TokenTable

namespace Token

variable {texts more : List Char → Option (List Char)} {token rest cs : List Char}

/-- The characters with every token replaced by the text for it, if there is one. -/
def replaceEach (texts : List Char → Option (List Char)) : List Char → List Char
  | [] => []
  | c :: cs =>
    match _hlead : lead? (c :: cs) with
    | some (token, rest) => (texts token).getD token ++ replaceEach texts rest
    | none => c :: replaceEach texts cs
termination_by cs => cs.length
decreasing_by
  · obtain ⟨htoken, hcs⟩ := lead?_eq_some_iff.mp _hlead
    have hpos := List.length_pos_iff.mpr htoken.ne_nil
    rw [hcs, List.length_append]
    omega
  · simp

/-- The text with every token replaced by its substitution in the table, if that is not empty. -/
def replaceAtOnce (table : TokenTable) (s : String) : String :=
  String.ofList (replaceEach table.textFor s.toList)

/-- No brace is opened twice before it is closed. -/
def IsFlat (cs : List Char) : Prop :=
  ∀ before inside after, cs = before ++ '{' :: (inside ++ '}' :: after) →
    '}' ∉ inside → '{' ∉ inside

theorem IsFlat.of_append {front : List Char} (h : IsFlat (front ++ cs)) :
  IsFlat cs
  := by
  rintro before inside after rfl
  apply h (front ++ before) inside after
  rw [List.append_assoc]

/-! ### Equations -/

theorem replaceEach_append_of_isToken (h : IsToken token) (rest : List Char) :
  replaceEach texts (token ++ rest) = (texts token).getD token ++ replaceEach texts rest
  := by
  have hlead := h.lead?_append rest
  obtain ⟨inner, rfl, -⟩ := h.exists_eq_cons
  rw [List.cons_append] at hlead ⊢
  rw [replaceEach]
  split
  · rename_i token' rest' hlead'
    rw [hlead] at hlead'
    cases hlead'
    rfl
  · rename_i hnone
    rw [hlead] at hnone
    cases hnone

theorem replaceEach_cons {c : Char} (h : lead? (c :: cs) = none) :
  replaceEach texts (c :: cs) = c :: replaceEach texts cs
  := by
  rw [replaceEach]
  split
  · rename_i hsome
    rw [h] at hsome
    cases hsome
  · rfl

/-- A text is empty, starts with a token or starts with a character at which no token starts. -/
theorem lead_induction {motive : List Char → Prop} (nil : motive [])
    (token : ∀ token rest, IsToken token → motive rest → motive (token ++ rest))
    (char : ∀ c cs, lead? (c :: cs) = none → motive cs → motive (c :: cs)) (cs : List Char) :
  motive cs
  := by
  induction cs using replaceEach.induct with
  | case1 => exact nil
  | case2 c cs t rest hlead ih =>
      obtain ⟨htoken, hcs⟩ := lead?_eq_some_iff.mp hlead
      rw [hcs]
      apply token t rest htoken ih
  | case3 c cs hlead ih => exact char c cs hlead ih

theorem replaceEach_append_of_not_mem {kept : List Char} (hkept : '{' ∉ kept)
    (rest : List Char) :
  replaceEach texts (kept ++ rest) = kept ++ replaceEach texts rest
  := by
  induction kept with
  | nil => rfl
  | cons c kept ih =>
      rw [List.mem_cons, not_or] at hkept
      rw [List.cons_append, replaceEach_cons (lead?_cons_of_ne (Ne.symm hkept.1) _), ih hkept.2,
        List.cons_append]

theorem replaceEach_none (cs : List Char) :
  replaceEach (fun _ => none) cs = cs
  := by
  induction cs using lead_induction with
  | nil => rw [replaceEach]
  | token token rest htoken ih => rw [replaceEach_append_of_isToken htoken, Option.getD_none, ih]
  | char c cs hlead ih => rw [replaceEach_cons hlead, ih]

/-- Where no brace is closed there is no token. -/
theorem replaceEach_of_not_mem (h : '}' ∉ cs) :
  replaceEach texts cs = cs
  := by
  induction cs using lead_induction with
  | nil => rw [replaceEach]
  | token token rest htoken ih =>
      obtain ⟨word, -, -, rfl⟩ := htoken
      simp at h
  | char c cs hlead ih =>
      rw [List.mem_cons, not_or] at h
      rw [replaceEach_cons hlead, ih h.2]

/-! ### One token -/

/-- Searching a text for one token finds it where it is met from left to right. -/
theorem replaceChars_eq_replaceEach {key new : List Char} (hkey : IsToken key) (cs : List Char) :
  Text.replaceChars key new hkey.ne_nil cs
    = replaceEach (fun token => if token = key then some new else none) cs
  := by
  have hhead : key.head? = some '{' := by
    obtain ⟨inner, rfl, -⟩ := hkey.exists_eq_cons
    rfl
  induction cs using lead_induction with
  | nil => simp [Text.replaceChars, replaceEach]
  | token token rest htoken ih =>
      rw [replaceEach_append_of_isToken htoken]
      by_cases hsame : token = key
      · subst hsame
        rw [Text.replaceChars_lead, ih, if_pos rfl, Option.getD_some]
      · have hother : ¬ key <+: token ++ rest := by
          rintro ⟨after, hafter⟩
          have hlead := hkey.lead?_append after
          rw [hafter, htoken.lead?_append, Option.some_inj, Prod.mk.injEq] at hlead
          exact hsame hlead.1
        obtain ⟨inner, rfl, hinner⟩ := htoken.exists_eq_cons
        rw [List.cons_append] at hother ⊢
        rw [Text.replaceChars_cons hother, Text.replaceChars_append hhead hinner, ih, if_neg hsame,
          Option.getD_none, List.cons_append]
  | char c cs hlead ih =>
      have hother : ¬ key <+: c :: cs := by
        rintro ⟨after, hafter⟩
        rw [← hafter, hkey.lead?_append] at hlead
        cases hlead
      rw [Text.replaceChars_cons hother, replaceEach_cons hlead, ih]

theorem substituteOne_eq_replaceEach {key : String} (hkey : IsToken key.toList) (new s : String) :
  substituteOne (Text.codes s) key (.str new)
    = .ok (Text.codes (String.ofList (replaceEach (TokenTable.textFor [(key, .str new)]) s.toList)))
  := by
  rw [substituteOne, TokenTable.textFor_singleton]
  by_cases hnew : new = ""
  · simp [hnew, Value.holds, replaceEach_none]
  · have hall : Text.replaceAll s key new = String.ofList
        (replaceEach (fun token => if token = key.toList then some new.toList else none) s.toList) := by
      rw [Text.replaceAll, Text.replaceIn, dif_neg hkey.ne_nil, replaceChars_eq_replaceEach hkey]
    simp [hnew, Value.holds, Value.codes?, Text.replaceIn_codes, hall]

/-! ### One token after the other -/

/-- What stands behind the closing brace does not matter to a token. -/
theorem lead?_eq_none_iff {inside : List Char} (hinside : '}' ∉ inside) (rest : List Char) :
  lead? ('{' :: (inside ++ '}' :: rest)) = none ↔ ¬ IsToken ('{' :: (inside ++ ['}']))
  := by
  constructor
  · intro hnone htoken
    have hlead := htoken.lead?_append rest
    simp [hnone] at hlead
  · intro hother
    by_contra hsome
    obtain ⟨⟨token, after⟩, hsome⟩ := Option.ne_none_iff_exists'.mp hsome
    obtain ⟨htoken, hcs⟩ := lead?_eq_some_iff.mp hsome
    obtain ⟨word, hne, hword, rfl⟩ := htoken
    have hsame : inside ++ '}' :: rest = word ++ '}' :: after := by simpa using hcs
    have hclose : '}' ∉ word := by
      intro hmem
      have hclose := hword _ hmem
      rw [isWord_brace.2] at hclose
      cases hclose
    rcases List.append_eq_append_iff.mp hsame with ⟨as, rfl, has⟩ | ⟨bs, rfl, hbs⟩
    · cases as with
      | nil =>
          rw [List.append_nil] at hword hne
          exact hother ⟨inside, hne, hword, rfl⟩
      | cons a as =>
          obtain ⟨rfl, -⟩ := List.cons.inj has
          simp at hclose
    · cases bs with
      | nil => exact hother ⟨word, hne, hword, by simp⟩
      | cons b bs =>
          obtain ⟨rfl, -⟩ := List.cons.inj hbs
          simp at hinside

/-- A replacement makes no token of a brace that opens none. -/
theorem IsFlat.lead?_cons_replaceEach {c : Char} (h : IsFlat (c :: cs))
    (hlead : lead? (c :: cs) = none) :
  lead? (c :: replaceEach texts cs) = none
  := by
  by_cases hc : c = '{'
  · subst hc
    by_cases hclosed : '}' ∈ cs
    · -- Up to where the brace is closed nothing is replaced, since no other one is opened.
      obtain ⟨inside, after, rfl, hinside⟩ := List.eq_append_cons_of_mem hclosed
      have hopen : '{' ∉ inside := h [] inside after rfl hinside
      rw [replaceEach_append_of_not_mem hopen, replaceEach_cons (lead?_cons_of_ne (by decide) _),
        lead?_eq_none_iff hinside]
      exact (lead?_eq_none_iff hinside after).mp hlead
    · rw [replaceEach_of_not_mem hclosed, hlead]
  · apply lead?_cons_of_ne hc

/-- Replacing tokens by texts that open no brace, and then others, replaces the ones and the
others. -/
theorem replaceEach_replaceEach (hcs : IsFlat cs)
    (htexts : ∀ token new, texts token = some new → '{' ∉ new) :
  replaceEach more (replaceEach texts cs) = replaceEach (fun token => (texts token).or (more token)) cs
  := by
  induction cs using lead_induction with
  | nil => simp [replaceEach]
  | token token rest htoken ih =>
      rw [replaceEach_append_of_isToken htoken, replaceEach_append_of_isToken htoken,
        ← ih hcs.of_append]
      cases hnew : texts token with
      | none =>
          rw [Option.getD_none, replaceEach_append_of_isToken htoken]
          rfl
      | some new =>
          rw [Option.getD_some, replaceEach_append_of_not_mem (htexts token new hnew)]
          rfl
  | char c cs hlead ih =>
      rw [replaceEach_cons hlead, replaceEach_cons hlead,
        replaceEach_cons (hcs.lead?_cons_replaceEach hlead), ih (@IsFlat.of_append cs [c] hcs)]

/-- The tokens of a table are replaced after others as if all of them were replaced at once. -/
theorem substituteCodes_replaceEach {table : TokenTable} (htable : table.IsPlain) (hcs : IsFlat cs)
    (htexts : ∀ token new, texts token = some new → '{' ∉ new) :
  substituteCodes table (Text.codes (String.ofList (replaceEach texts cs)))
    = .ok (Text.codes (String.ofList
        (replaceEach (fun token => (texts token).or (table.textFor token)) cs)))
  := by
  induction table generalizing texts with
  | nil =>
      have hnone : (fun token => (texts token).or (TokenTable.textFor [] token)) = texts := by
        funext token
        apply Option.or_none
      rw [hnone]
      rfl
  | cons p table ih =>
      obtain ⟨key, value⟩ := p
      obtain ⟨new, rfl, -⟩ := htable.text (key, value) List.mem_cons_self
      have hkey : IsToken key.toList := htable.token _ List.mem_cons_self
      have hfirst :
          substituteOne (Text.codes (String.ofList (replaceEach texts cs))) key (.str new)
            = .ok (Text.codes (String.ofList (replaceEach
                (fun token => (texts token).or (TokenTable.textFor [(key, .str new)] token)) cs))) := by
        rw [substituteOne_eq_replaceEach hkey, String.toList_ofList, replaceEach_replaceEach hcs htexts]
      have htexts' : ∀ token text,
          (texts token).or (TokenTable.textFor [(key, .str new)] token) = some text →
            '{' ∉ text := by
        intro token text htext
        rcases Option.or_eq_some_iff.mp htext with htext | ⟨-, htext⟩
        · exact htexts token text htext
        · exact htable.head.not_mem_of_textFor htext
      have hall : ∀ token, (texts token).or (TokenTable.textFor ((key, .str new) :: table) token)
          = ((texts token).or (TokenTable.textFor [(key, .str new)] token)).or
              (TokenTable.textFor table token) := by
        intro token
        rw [TokenTable.textFor_cons (List.nodup_cons.mp htable.nodup).1, Option.or_assoc]
      rw [substituteCodes, hfirst]
      simp only [hall]
      exact ih htable.tail htexts'

/-- A table of texts that open no brace replaces the tokens of a flat text as if all at once.  The order
of the table does not matter, and nothing is left to replace a second time. -/
theorem substitute_at_once {table : TokenTable} (htable : table.IsPlain) {s : String}
    (hs : IsFlat s.toList) :
  substitute table (.str s) = .ok (.str (replaceAtOnce table s))
    ∧ (∀ order : TokenTable, order.Perm table →
        substitute order (.str s) = .ok (.str (replaceAtOnce table s)))
    ∧ substitute table (.str (replaceAtOnce table s)) = .ok (.str (replaceAtOnce table s))
  := by
  have honce : ∀ order : TokenTable, order.IsPlain →
      substitute order (.str s) = .ok (.str (replaceAtOnce order s)) := by
    intro order horder
    have htext := @substituteCodes_replaceEach (fun _ => none) _ _ horder hs (by simp)
    rw [replaceEach_none, String.ofList_toList] at htext
    rw [substitute, htext, Except.map, Value.ofCodes_codes]
    rfl
  refine ⟨honce table htable, ?_, ?_⟩
  · intro order horder
    rw [honce order (htable.perm horder), replaceAtOnce, replaceAtOnce,
      TokenTable.textFor_perm htable.nodup horder]
  · have hbrace : ∀ token new, table.textFor token = some new → '{' ∉ new :=
      fun _ _ hnew => htable.not_mem_of_textFor hnew
    have htext := substituteCodes_replaceEach htable hs hbrace
    have hsame : (fun token => (table.textFor token).or (table.textFor token)) = table.textFor := by
      funext token
      apply Option.or_self
    rw [hsame] at htext
    rw [substitute, replaceAtOnce, htext, Except.map, Value.ofCodes_codes]

theorem substitute_at_once_twoTokens :
  substitute [("{A}", .str "x"), ("{B}", .str "")] (.str "{B}{A}")
    = .ok (.str "{B}x")
  := by
  have htokenA : IsToken "{A}".toList := ⟨['A'], by simp, List.all_eq_true.mp rfl, rfl⟩
  have htokenB : IsToken "{B}".toList := ⟨['B'], by simp, List.all_eq_true.mp rfl, rfl⟩
  have hplain : TokenTable.IsPlain [("{A}", .str "x"), ("{B}", .str "")] := by
    constructor
    · decide
    · simp only [List.forall_mem_cons]
      exact ⟨htokenA, htokenB, by simp⟩
    · simp
  have hflat : IsFlat "{B}{A}".toList := by
    intro before inside after h hclose
    simp [List.append_eq_cons_iff, List.cons_eq_append_iff] at h
    grind
  have hsplit :
      "{B}{A}".toList = "{B}".toList ++ ("{A}".toList ++ []) := by
    decide
  rw [(substitute_at_once hplain hflat).1, replaceAtOnce, hsplit, replaceEach_append_of_isToken htokenB,
    replaceEach_append_of_isToken htokenA, replaceEach]
  rfl

end Token
end DeploymentRecipes
