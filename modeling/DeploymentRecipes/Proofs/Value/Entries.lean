import DeploymentRecipes.Value.Basic
import Mathlib.Data.List.Nodup

/-!
# Entries of mappings

Keys that are texts: which value a mapping has for one, and what becomes of the entries when one is
entered.  As long as no key is repeated, the order of the entries does not matter.
-/

namespace DeploymentRecipes.Value

theorem same_str (v : Value) (key : String) :
  same v (.str key) = isText key v
  := by
  cases v <;> simp [same, isText, sameInt]

theorem isText_iff {key : String} {v : Value} :
  isText key v = true ↔ v = .str key
  := by
  cases v <;> simp [isText]

theorem field?_cons (k v : Value) (entries : List (Value × Value)) (id : String) :
  field? ((k, v) :: entries) id = if isText id k then some v else field? entries id
  := by
  rw [field?, List.find?_cons]
  cases isText id k <;> rfl

/-- If no key is repeated, the value under a key is that of any entry for it. -/
theorem field?_eq_some_iff {entries : List (Value × Value)} (h : (entries.map (·.1)).Nodup)
    {id : String} {v : Value} :
  field? entries id = some v ↔ (.str id, v) ∈ entries
  := by
  induction entries with
  | nil => simp [field?]
  | cons p entries ih =>
      obtain ⟨k, w⟩ := p
      rw [List.map_cons, List.nodup_cons] at h
      rw [field?_cons, List.mem_cons, Prod.mk.injEq]
      by_cases hk : k = .str id
      · subst hk
        have hnew : (.str id, v) ∉ entries := fun hmem =>
          h.1 (List.mem_map_of_mem (f := (·.1)) hmem)
        simp [isText, hnew, eq_comm]
      · rw [if_neg (mt isText_iff.mp hk), ih h.2]
        simp [Ne.symm hk]

theorem field?_eq_of_perm {entries entries' : List (Value × Value)} (hperm : entries'.Perm entries)
    (h : (entries.map (·.1)).Nodup) (id : String) :
  field? entries' id = field? entries id
  := by
  have h' : (entries'.map (·.1)).Nodup := (hperm.map _).nodup_iff.mpr h
  apply Option.ext
  intro v
  rw [field?_eq_some_iff h', field?_eq_some_iff h, hperm.mem_iff]

/-- A key that is entered has the new value, and any other one what it had. -/
theorem field?_insertEntry (key id : String) (v : Value) (entries : List (Value × Value)) :
  field? (insertEntry (.str key) v entries) id = if id = key then some v else field? entries id
  := by
  induction entries with
  | nil =>
      rw [insertEntry, field?_cons]
      simp only [isText_iff, Value.str.injEq, eq_comm (a := id)]
  | cons p entries ih =>
      obtain ⟨k, w⟩ := p
      rw [insertEntry, same_str, field?_cons]
      split
      · rename_i hk
        obtain rfl := isText_iff.mp hk
        rw [field?_cons]
        simp only [isText_iff, Value.str.injEq, eq_comm (a := id)]
        split <;> rfl
      · rename_i hk
        rw [field?_cons, ih]
        split
        · rename_i hid
          rw [if_neg]
          rintro rfl
          apply hk hid
        · rfl

/-- A new key comes last. -/
theorem insertEntry_of_not_mem {key : String} {fields : List (String × Value)}
    (h : key ∉ fields.map (·.1)) (v : Value) :
  insertEntry (.str key) v (fields.map fun f => (.str f.1, f.2))
    = (fields ++ [(key, v)]).map fun f => (.str f.1, f.2)
  := by
  induction fields with
  | nil => rfl
  | cons f fields ih =>
      rw [List.map_cons, List.mem_cons, not_or] at h
      have hsame : same (.str f.1) (.str key) = false := by
        rw [same_str, isText]
        simpa using Ne.symm h.1
      simp only [List.map_cons, List.cons_append, insertEntry, hsame, ih h.2, Bool.false_eq_true,
        if_false]

end DeploymentRecipes.Value
