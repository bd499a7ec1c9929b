import DeploymentRecipes.Token
import Mathlib.Data.List.Infix
import Mathlib.Data.List.TakeWhile

/-!
# Tokens in a text

A token stands wherever its characters do: a text is searched from left to right without looking into
a token that was found, but no token starts inside of another one, so none is missed.
-/

namespace DeploymentRecipes.Token

/-- A token: word characters between braces, at least one. -/
def IsToken (cs : List Char) : Prop :=
  ∃ word, word ≠ [] ∧ (∀ c ∈ word, Text.isWord c = true) ∧ cs = '{' :: (word ++ ['}'])

variable {token rest cs : List Char}

theorem isWord_brace :
  Text.isWord '{' = false ∧ Text.isWord '}' = false
  := by
  decide

theorem IsToken.exists_eq_cons (h : IsToken token) :
  ∃ inner, token = '{' :: inner ∧ '{' ∉ inner
  := by
  obtain ⟨word, -, hword, rfl⟩ := h
  refine ⟨_, rfl, ?_⟩
  intro hmem
  rcases List.mem_append.mp hmem with hmem | hmem
  · have hopen := hword _ hmem
    rw [isWord_brace.1] at hopen
    cases hopen
  · simp at hmem

theorem IsToken.ne_nil (h : IsToken token) :
  token ≠ []
  := by
  obtain ⟨inner, rfl, -⟩ := h.exists_eq_cons
  apply List.cons_ne_nil

/-! ### The token that a text starts with -/

theorem lead?_cons_of_ne {c : Char} (hc : c ≠ '{') (cs : List Char) :
  lead? (c :: cs) = none
  := by
  rw [lead?]
  rintro rest ⟨⟩
  exact hc rfl

theorem lead?_eq_some_iff :
  lead? cs = some (token, rest) ↔ IsToken token ∧ cs = token ++ rest
  := by
  constructor
  · intro h
    cases cs with
    | nil => cases h
    | cons c cs =>
        by_cases hc : c = '{'
        · subst hc
          have hsplit := @List.takeWhile_append_dropWhile _ Text.isWord cs
          have hword : ∀ d ∈ cs.takeWhile Text.isWord, Text.isWord d = true :=
            fun d hd => List.mem_takeWhile_imp hd
          rw [lead?] at h
          split at h
          · cases h
          · rename_i after hdrop hne
            rw [Option.some_inj, Prod.mk.injEq] at h
            obtain ⟨rfl, rfl⟩ := h
            constructor
            · exact ⟨_, hne, hword, rfl⟩
            · conv_lhs => rw [← hsplit, hdrop]
              simp
          · cases h
        · rw [lead?_cons_of_ne hc] at h
          cases h
  · rintro ⟨⟨word, hne, hword, rfl⟩, rfl⟩
    have htake : (word ++ '}' :: rest).takeWhile Text.isWord = word := by
      rw [List.takeWhile_append_of_pos hword]
      simp [isWord_brace.2]
    have hdrop : (word ++ '}' :: rest).dropWhile Text.isWord = '}' :: rest := by
      rw [List.dropWhile_append_of_pos hword]
      simp [isWord_brace.2]
    rw [List.cons_append, List.append_assoc, List.singleton_append, lead?, htake, hdrop]
    split
    · rename_i hnil
      exact (hne rfl).elim
    · rename_i hrest
      rw [List.cons.injEq] at hrest
      rw [hrest.2]
    · rename_i hother
      exact (hother _ rfl).elim

theorem IsToken.lead?_append (h : IsToken token) (rest : List Char) :
  lead? (token ++ rest) = some (token, rest)
  := lead?_eq_some_iff.mpr ⟨h, rfl⟩

/-! ### All tokens of a text -/

theorem findFrom_append (skipped rest : List Char) :
  findFrom skipped.length (skipped ++ rest) = findFrom 0 rest
  := by
  induction skipped with
  | nil => rfl
  | cons c skipped ih => rw [List.length_cons, List.cons_append, findFrom, ih]

theorem IsToken.findFrom_append (h : IsToken token) (rest : List Char) :
  findFrom 0 (token ++ rest) = token :: findFrom 0 rest
  := by
  have hlead := h.lead?_append rest
  obtain ⟨inner, rfl, -⟩ := h.exists_eq_cons
  rw [List.cons_append] at hlead ⊢
  rw [findFrom, hlead]
  dsimp only
  rw [List.length_cons, Nat.add_sub_cancel, Token.findFrom_append]

/-- The tokens with the places at which they stand, from left to right, where the text begins at the
given place. -/
def placesFrom : Nat → List Char → List (Nat × List Char)
  | _, [] => []
  | place, c :: cs =>
    match lead? (c :: cs) with
    | some (token, _) => (place, token) :: placesFrom (place + 1) cs
    | none => placesFrom (place + 1) cs

theorem placesFrom_cons (start : Nat) (c : Char) (cs : List Char) :
  placesFrom start (c :: cs)
    = ((lead? (c :: cs)).map fun p => (start, p.1)).toList ++ placesFrom (start + 1) cs
  := by
  rw [placesFrom]
  cases lead? (c :: cs) <;> rfl

/-- All places of all tokens are listed. -/
theorem mem_placesFrom_iff {start place : Nat} :
  (place, token) ∈ placesFrom start cs
    ↔ IsToken token ∧ start ≤ place ∧ token <+: cs.drop (place - start)
  := by
  induction cs generalizing start with
  | nil =>
      rw [placesFrom, List.drop_nil, List.prefix_nil]
      simp only [List.not_mem_nil, false_iff]
      rintro ⟨htoken, -, hnil⟩
      exact htoken.ne_nil hnil
  | cons c cs ih =>
      have hhere : (place, token) ∈ ((lead? (c :: cs)).map fun p => (start, p.1)).toList
          ↔ IsToken token ∧ place = start ∧ token <+: c :: cs := by
        rw [Option.mem_toList, Option.map_eq_some_iff]
        constructor
        · rintro ⟨⟨t, rest⟩, hlead, heq⟩
          obtain ⟨rfl, rfl⟩ := Prod.mk.inj heq
          obtain ⟨htoken, hcs⟩ := lead?_eq_some_iff.mp hlead
          exact ⟨htoken, rfl, ⟨rest, hcs.symm⟩⟩
        · rintro ⟨htoken, rfl, rest, hcs⟩
          exact ⟨(token, rest), lead?_eq_some_iff.mpr ⟨htoken, hcs.symm⟩, rfl⟩
      rw [placesFrom_cons, List.mem_append, hhere, ih]
      rcases Nat.lt_trichotomy place start with hlt | rfl | hgt
      · constructor
        · rintro (⟨-, rfl, -⟩ | ⟨-, hle, -⟩) <;> omega
        · rintro ⟨-, hle, -⟩
          omega
      · rw [Nat.sub_self, List.drop_zero]
        constructor
        · rintro (⟨htoken, -, hprefix⟩ | ⟨-, hle, -⟩)
          · exact ⟨htoken, Nat.le_refl place, hprefix⟩
          · omega
        · rintro ⟨htoken, -, hprefix⟩
          exact Or.inl ⟨htoken, rfl, hprefix⟩
      · obtain ⟨k, rfl⟩ : ∃ k, place = start + 1 + k := ⟨place - (start + 1), by omega⟩
        have hsub : start + 1 + k - start = k + 1 := by omega
        have hsub' : start + 1 + k - (start + 1) = k := by omega
        rw [hsub, hsub', List.drop_succ_cons]
        constructor
        · rintro (⟨-, heq, -⟩ | ⟨htoken, -, hprefix⟩)
          · omega
          · exact ⟨htoken, by omega, hprefix⟩
        · rintro ⟨htoken, -, hprefix⟩
          exact Or.inr ⟨htoken, by omega, hprefix⟩

theorem pairwise_placesFrom (start : Nat) (cs : List Char) :
  (placesFrom start cs).Pairwise (·.1 < ·.1)
  := by
  induction cs generalizing start with
  | nil => exact List.Pairwise.nil
  | cons c cs ih =>
      rw [placesFrom_cons, List.pairwise_append]
      refine ⟨by cases lead? (c :: cs) <;> simp, ih (start + 1), ?_⟩
      rintro p hp ⟨place, t⟩ hmem
      have hle := (mem_placesFrom_iff.mp hmem).2.1
      rw [Option.mem_toList, Option.map_eq_some_iff] at hp
      obtain ⟨q, -, rfl⟩ := hp
      exact hle

/-- No token starts behind the first brace of a token. -/
theorem map_placesFrom_append {kept : List Char} (hkept : '{' ∉ kept) (start : Nat) :
  (placesFrom start (kept ++ rest)).map (·.2) = (placesFrom (start + kept.length) rest).map (·.2)
  := by
  induction kept generalizing start with
  | nil => rfl
  | cons c kept ih =>
      rw [List.mem_cons, not_or] at hkept
      rw [List.cons_append, placesFrom_cons, lead?_cons_of_ne (Ne.symm hkept.1), List.length_cons,
        Nat.add_comm kept.length, ← Nat.add_assoc, ← ih hkept.2]
      rfl

/-- No token is missed. -/
theorem map_placesFrom (start : Nat) (cs : List Char) :
  (placesFrom start cs).map (·.2) = findFrom 0 cs
  := by
  induction hlength : cs.length using Nat.strong_induction_on generalizing start cs with
  | _ n ih =>
    subst hlength
    cases cs with
    | nil => rfl
    | cons c cs =>
        cases hlead : lead? (c :: cs) with
        | none =>
            rw [placesFrom_cons, hlead, findFrom, hlead]
            apply ih cs.length (by simp) (start + 1) cs rfl
        | some p =>
            obtain ⟨htoken, hcs⟩ := lead?_eq_some_iff.mp hlead
            obtain ⟨inner, hinner, hbrace⟩ := htoken.exists_eq_cons
            have hrest : cs = inner ++ p.2 := by
              rw [hinner, List.cons_append, List.cons.injEq] at hcs
              exact hcs.2
            have hshorter : p.2.length < (c :: cs).length := by
              rw [List.length_cons, hrest, List.length_append]
              omega
            rw [placesFrom_cons, hlead, hcs, htoken.findFrom_append, hrest, List.map_append,
              map_placesFrom_append hbrace, ih _ hshorter _ p.2 rfl]
            rfl

end DeploymentRecipes.Token
