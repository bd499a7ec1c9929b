import DeploymentRecipes.Proofs.Text.CodePoints
import DeploymentRecipes.Token
import Mathlib.Data.List.Infix
import Mathlib.Data.List.Nodup

/-!
# Tables of replacement tokens

A table extends another one when it lists the tokens of the other one first and in the same order,
every token once and with a text to put in its place.  Entering a text keeps that, and entering all
of an extension into the table that it extends gives the extension.  A table of texts has a result
for every value.
-/

namespace DeploymentRecipes

namespace TokenTable

variable {base table : TokenTable}

/-- Every substitution is a text. -/
def IsText (table : TokenTable) : Prop := ∀ p ∈ table, ∃ s, p.2 = .str s

/-- The substitutions as entries of a table. -/
def ofTexts (texts : List (String × String)) : TokenTable := texts.map fun p => (p.1, .str p.2)

theorem isText_ofTexts (texts : List (String × String)) :
  IsText (ofTexts texts)
  := by
  intro p hp
  obtain ⟨q, -, rfl⟩ := List.mem_map.mp hp
  use q.2

/-! ### Entering a token -/

theorem insert_append_of_not_mem {token : String} {v : Value} (h : token ∉ base.map (·.1)) :
  insert token v (base ++ table) = base ++ insert token v table
  := by
  induction base with
  | nil => rfl
  | cons p base ih =>
      rw [List.map_cons, List.mem_cons, not_or] at h
      rw [List.cons_append, insert, if_neg (Ne.symm h.1), ih h.2, List.cons_append]

/-- The tokens after one is entered: the same ones, or the new one behind them. -/
theorem keys_insert (token : String) (v : Value) (table : TokenTable) :
  (insert token v table).map (·.1) =
    if token ∈ table.map (·.1) then table.map (·.1) else table.map (·.1) ++ [token]
  := by
  induction table with
  | nil => rfl
  | cons p table ih =>
      by_cases hp : p.1 = token
      · simp [insert, hp]
      · rw [insert, if_neg hp, List.map_cons, List.map_cons, ih]
        by_cases hmem : token ∈ table.map (·.1)
        · rw [if_pos hmem, if_pos (List.mem_cons_of_mem _ hmem)]
        · rw [if_neg hmem, if_neg, List.cons_append]
          rw [List.mem_cons, not_or]
          exact ⟨Ne.symm hp, hmem⟩

theorem mem_insert {token : String} {v : Value} {p : String × Value}
    (h : p ∈ insert token v table) :
  p = (token, v) ∨ p ∈ table
  := by
  induction table with
  | nil => exact Or.inl (List.mem_singleton.mp h)
  | cons q table ih =>
      rw [insert] at h
      split at h
      · rename_i htoken
        rcases List.mem_cons.mp h with rfl | h
        · rw [htoken]
          exact Or.inl rfl
        · exact Or.inr (List.mem_cons_of_mem q h)
      · rcases List.mem_cons.mp h with rfl | h
        · exact Or.inr List.mem_cons_self
        · exact (ih h).imp_right (List.mem_cons_of_mem q)

/-! ### Looking up a token -/

/-- Where every token is entered once, it is looked up whatever the order. -/
theorem lookup_eq_some_iff (hnodup : (table.map (·.1)).Nodup) {token : String} {v : Value} :
  table.lookup token = some v ↔ (token, v) ∈ table
  := by
  rw [List.lookup_eq_some_iff]
  constructor
  · rintro ⟨before, after, rfl, -⟩
    simp
  · intro hmem
    obtain ⟨before, after, rfl⟩ := List.append_of_mem hmem
    refine ⟨before, after, rfl, ?_⟩
    intro p hp
    rw [List.map_append, List.nodup_append] at hnodup
    have hne := hnodup.2.2 p.1 (List.mem_map_of_mem hp) token (by simp)
    simpa using Ne.symm hne

theorem lookup_perm (hnodup : (table.map (·.1)).Nodup) {order : TokenTable}
    (horder : order.Perm table) (token : String) :
  order.lookup token = table.lookup token
  := by
  ext v
  rw [lookup_eq_some_iff hnodup, lookup_eq_some_iff ((horder.map (·.1)).nodup_iff.mpr hnodup),
    horder.mem_iff]

theorem lookup_eq_none_iff {token : String} :
  table.lookup token = none ↔ token ∉ table.map (·.1)
  := by
  rw [List.lookup_eq_none_iff, List.mem_map, not_exists]
  apply forall_congr'
  intro p
  rw [not_and, bne_iff_ne]
  exact ⟨fun h hp heq => h hp heq.symm, fun h hp heq => h hp heq.symm⟩

/-! ### Extensions -/

/-- A table of texts that lists the tokens of another one first, and every token once. -/
structure Extends (base table : TokenTable) : Prop where
  keys : base.map (·.1) <+: table.map (·.1)
  nodup : (table.map (·.1)).Nodup
  text : table.IsText

theorem extends_nil :
  Extends [] []
  := by
  constructor
  · apply List.prefix_refl
  · apply List.nodup_nil
  · simp [IsText]

theorem Extends.refl (h : Extends base table) :
  Extends table table
  where
  keys := List.prefix_refl _
  nodup := h.nodup
  text := h.text

theorem Extends.insert (h : Extends base table) (token text : String) :
  Extends base (table.insert token (.str text))
  := by
  constructor
  · rw [keys_insert]
    split
    · apply h.keys
    · apply h.keys.trans (List.prefix_append _ _)
  · rw [keys_insert]
    split
    · apply h.nodup
    · rename_i hnew
      rw [List.nodup_append]
      refine ⟨h.nodup, List.nodup_singleton token, ?_⟩
      intro a ha b hb hab
      rw [List.mem_singleton] at hb
      apply hnew
      rw [← hb, ← hab]
      exact ha
  · intro p hp
    rcases mem_insert hp with rfl | hp
    · use text
    · apply h.text p hp

theorem Extends.insertAll (h : Extends base table) {entries : TokenTable}
    (htext : entries.IsText) :
  Extends base (table.insertAll entries)
  := by
  induction entries generalizing table with
  | nil => exact h
  | cons p entries ih =>
      obtain ⟨⟨text, htoken⟩, hrest⟩ := List.forall_mem_cons.mp htext
      rw [TokenTable.insertAll, List.foldl_cons, htoken]
      apply ih (h.insert p.1 text) hrest

theorem insert_of_not_mem {token : String} {v : Value} (h : token ∉ base.map (·.1)) :
  base.insert token v = base ++ [(token, v)]
  := by
  rw [← List.append_nil base, insert_append_of_not_mem h, List.append_nil]
  rfl

/-- New tokens are entered behind the others. -/
theorem insertAll_of_nodup {before fresh : TokenTable}
    (hnodup : ((before ++ fresh).map (·.1)).Nodup) :
  insertAll before fresh = before ++ fresh
  := by
  induction fresh generalizing before with
  | nil => rw [List.append_nil]; rfl
  | cons p fresh ih =>
      have hnew : p.1 ∉ before.map (·.1) := by
        rw [List.map_append, List.nodup_append] at hnodup
        intro hp
        apply hnodup.2.2 p.1 hp p.1 List.mem_cons_self rfl
      rw [List.append_cons] at hnodup ⊢
      rw [insertAll, List.foldl_cons, insert_of_not_mem hnew, ← insertAll, ih hnodup]

/-- A table into which entries with its own tokens and then others are entered becomes them. -/
theorem insertAll_append {before fresh : TokenTable} (hkeys : base.map (·.1) = table.map (·.1))
    (hnodup : ((before ++ table ++ fresh).map (·.1)).Nodup) :
  insertAll (before ++ base) (table ++ fresh) = before ++ table ++ fresh
  := by
  induction table generalizing before base with
  | nil =>
      obtain rfl : base = [] := List.map_eq_nil_iff.mp hkeys
      rw [List.append_nil] at hnodup ⊢
      apply insertAll_of_nodup hnodup
  | cons p table ih =>
      obtain ⟨q, base, rfl⟩ : ∃ q rest, base = q :: rest := by
        cases base with
        | nil => simp at hkeys
        | cons q base => exact ⟨q, base, rfl⟩
      rw [List.map_cons, List.map_cons, List.cons.injEq] at hkeys
      have hnew : p.1 ∉ before.map (·.1) := by
        rw [List.append_assoc, List.map_append, List.nodup_append] at hnodup
        intro hp
        apply hnodup.2.2 p.1 hp p.1 List.mem_cons_self rfl
      have hinsert : (before ++ q :: base).insert p.1 p.2 = before ++ [p] ++ base := by
        rw [insert_append_of_not_mem hnew, insert, if_pos hkeys.1, hkeys.1]
        simp
      have hsame : before ++ p :: table ++ fresh = before ++ [p] ++ table ++ fresh := by simp
      rw [hsame] at hnodup ⊢
      rw [List.cons_append, insertAll, List.foldl_cons, hinsert, ← insertAll, ih hkeys.2 hnodup]

/-- The tokens of an extension are entered in its own order. -/
theorem Extends.insertAll_eq (h : Extends base table) :
  base.insertAll table = table
  := by
  have hlength : (base.map (·.1)).length = base.length := List.length_map _
  have hkeys : base.map (·.1) = (table.take base.length).map (·.1) := by
    rw [List.map_take, ← hlength]
    apply List.prefix_iff_eq_take.mp h.keys
  have hnodup :
      ((([] : TokenTable) ++ table.take base.length ++ table.drop base.length).map (·.1)).Nodup := by
    rw [List.nil_append, List.take_append_drop]
    apply h.nodup
  have hsplit := insertAll_append hkeys hnodup
  rwa [List.nil_append, List.nil_append, List.take_append_drop] at hsplit

/-! ### Entries for tokens of a table -/

theorem lookup_cons_of_ne {token key : String} (h : token ≠ key) (v : Value) :
  List.lookup token ((key, v) :: table) = table.lookup token
  := by
  rw [List.lookup_cons, beq_eq_false_iff_ne.mpr h]

theorem insert_of_mem (hnodup : (base.map (·.1)).Nodup) {token : String} (v : Value)
    (h : token ∈ base.map (·.1)) :
  base.insert token v = base.map fun p => (p.1, if p.1 = token then v else p.2)
  := by
  induction base with
  | nil => simp at h
  | cons p base ih =>
      rw [List.map_cons, List.nodup_cons] at hnodup
      rw [insert, List.map_cons]
      by_cases hp : p.1 = token
      · have hothers : ∀ q ∈ base, (q.1, if q.1 = token then v else q.2) = q := by
          intro q hq
          rw [if_neg]
          rintro heq
          apply hnodup.1
          rw [hp, ← heq]
          exact List.mem_map_of_mem hq
        rw [if_pos hp, if_pos hp, List.map_congr_left hothers, List.map_id']
      · rw [List.map_cons, List.mem_cons] at h
        rw [if_neg hp, if_neg hp, ih hnodup.2 (h.resolve_left (Ne.symm hp))]

/-- Entries for tokens of a table replace their substitutions, and the other entries follow the
table. -/
theorem insertAll_eq_append (hbase : (base.map (·.1)).Nodup) {entries : TokenTable}
    (hentries : (entries.map (·.1)).Nodup) :
  base.insertAll entries
    = base.map (fun p => (p.1, (entries.lookup p.1).getD p.2))
      ++ entries.filter fun p => p.1 ∉ base.map (·.1)
  := by
  induction entries generalizing base with
  | nil => simp [insertAll]
  | cons entry entries ih =>
      obtain ⟨token, v⟩ := entry
      rw [List.map_cons, List.nodup_cons] at hentries
      have hlater : entries.lookup token = none := lookup_eq_none_iff.mpr hentries.1
      rw [insertAll, List.foldl_cons, ← insertAll]
      by_cases hmem : token ∈ base.map (·.1)
      · have hkeys :
            (base.map fun p => (p.1, if p.1 = token then v else p.2)).map (·.1) = base.map (·.1) := by
          simp
        rw [insert_of_mem hbase v hmem, ih (by rwa [hkeys]) hentries.2, hkeys, List.map_map,
          List.filter_cons_of_neg (by simpa using hmem)]
        congr 1
        apply List.map_congr_left
        intro p _
        by_cases hp : p.1 = token
        · simp [hp, hlater]
        · simp [hp, lookup_cons_of_ne hp]
      · have hold : ∀ p ∈ base, p.1 ≠ token := by
          rintro p hp rfl
          exact hmem (List.mem_map_of_mem hp)
        have hbase' : ((base ++ [(token, v)]).map (·.1)).Nodup := by
          rw [← insert_of_not_mem hmem, keys_insert, if_neg hmem, ← List.concat_eq_append]
          exact hbase.concat hmem
        rw [insert_of_not_mem hmem, ih hbase' hentries.2, List.map_append,
          List.filter_cons_of_pos (by simpa using hmem), List.append_assoc]
        congr 1
        · apply List.map_congr_left
          intro p hp
          rw [lookup_cons_of_ne (hold p hp)]
        · rw [List.map_singleton, hlater, Option.getD_none, List.singleton_append]
          congr 1
          apply List.filter_congr
          intro p hp
          have hnew : p.1 ≠ token := by
            rintro rfl
            exact hentries.1 (List.mem_map.mpr ⟨p, hp, rfl⟩)
          simp [hnew]

end TokenTable

namespace Token

/-- A table of texts has a result for all code points. -/
theorem exists_substituteCodes {table : TokenTable} (h : table.IsText) (codes : List Nat) :
  ∃ more, substituteCodes table codes = .ok more
  := by
  induction table generalizing codes with
  | nil => exact ⟨codes, rfl⟩
  | cons p table ih =>
      obtain ⟨⟨new, hnew⟩, hrest⟩ := List.forall_mem_cons.mp h
      have hone : ∃ next, substituteOne codes p.1 p.2 = .ok next := by
        rw [hnew, substituteOne]
        split
        · exact ⟨_, rfl⟩
        · exact ⟨codes, rfl⟩
      obtain ⟨next, hnext⟩ := hone
      obtain ⟨more, hmore⟩ := ih hrest next
      use more
      rw [substituteCodes, hnext]
      exact hmore

/-- A table of texts has a result for every value, null for null only. -/
theorem exists_substitute {table : TokenTable} (h : table.IsText) (v : Value) :
  ∃ w, substitute table v = .ok w ∧ w.isNull = v.isNull
  := by
  cases v with
  | str s =>
      obtain ⟨codes, hcodes⟩ := exists_substituteCodes h (Text.codes s)
      use .ofCodes codes
      constructor
      · rw [substitute, hcodes]
        rfl
      · apply Value.isNull_ofCodes
  | halfText codes hhalf =>
      obtain ⟨more, hmore⟩ := exists_substituteCodes h codes
      use .ofCodes more
      constructor
      · rw [substitute, hmore]
        rfl
      · apply Value.isNull_ofCodes
  | _ => exact ⟨_, rfl, rfl⟩

theorem extends_collect {base table : TokenTable} (h : base.Extends table) (v : Value) :
  base.Extends (collect v table)
  := by
  rw [collect]
  generalize find v = tokens
  induction tokens generalizing table with
  | nil => exact h
  | cons token tokens ih => exact ih (h.insert token "")

end Token
end DeploymentRecipes
