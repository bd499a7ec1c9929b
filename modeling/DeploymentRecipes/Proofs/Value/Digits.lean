import DeploymentRecipes.Proofs.Result
import DeploymentRecipes.Proofs.Token.Table
import DeploymentRecipes.Proofs.Value.Entries
import DeploymentRecipes.Value.Conversion

/-!
# Values with a text

A value has a text if none of the integers in it has too many digits.  The values in a list or in a
mapping have one then, and so has what comes of the value when tokens are replaced.
-/

namespace DeploymentRecipes

namespace Value

mutual

/-- No integer in the value has more digits than an integer may have. -/
def IntegersFit : Value → Prop
  | .int n => n.natAbs < Nat.pow 10 Numeral.digitLimit
  | .list items | .tuple items | .unordered items => AllFit items
  | .map entries => EntriesFit entries
  | _ => True

def AllFit : List Value → Prop
  | [] => True
  | v :: vs => IntegersFit v ∧ AllFit vs

def EntriesFit : List (Value × Value) → Prop
  | [] => True
  | (k, v) :: es => IntegersFit k ∧ IntegersFit v ∧ EntriesFit es

end

theorem integersFit_ofCodes (codes : List Nat) :
  (ofCodes codes).IntegersFit
  := by
  rw [ofCodes]
  split <;> trivial

theorem exists_showInt {n : Int} (h : n.natAbs < Nat.pow 10 Numeral.digitLimit) :
  ∃ s, Numeral.showInt? n = some s
  := by
  rw [Numeral.showInt?, if_pos h]
  exact ⟨_, rfl⟩

mutual

theorem exists_shown : ∀ {v : Value}, v.IntegersFit → ∃ s, v.shown? = some s
  | .int _, h => exists_showInt h
  | .list items, h | .tuple items, h | .unordered items, h => by
      obtain ⟨ss, hss⟩ := exists_shownItems h
      rw [shown?, hss]
      exact ⟨_, rfl⟩
  | .map entries, h => by
      obtain ⟨ss, hss⟩ := exists_shownEntries h
      rw [shown?, hss]
      exact ⟨_, rfl⟩
  | .null, _ | .bool _, _ | .float _, _ | .str _, _ | .halfText _ _, _ | .bytes _, _ | .date _, _
  | .loop _, _ => ⟨_, rfl⟩

theorem exists_shownItems : ∀ {items : List Value}, AllFit items → ∃ ss, shownItems? items = some ss
  | [], _ => ⟨_, rfl⟩
  | v :: vs, h => by
      obtain ⟨s, hs⟩ := exists_shown h.1
      obtain ⟨ss, hss⟩ := exists_shownItems h.2
      rw [shownItems?, hs, hss]
      exact ⟨_, rfl⟩

theorem exists_shownEntries :
    ∀ {entries : List (Value × Value)}, EntriesFit entries → ∃ ss, shownEntries? entries = some ss
  | [], _ => ⟨_, rfl⟩
  | (k, v) :: es, h => by
      obtain ⟨s, hs⟩ := exists_shown h.1
      obtain ⟨t, ht⟩ := exists_shown h.2.1
      obtain ⟨ss, hss⟩ := exists_shownEntries h.2.2
      rw [shownEntries?, hs, ht, hss]
      exact ⟨_, rfl⟩

end

/-- A value has a text if the integers in it have one. -/
theorem exists_text {v : Value} (h : v.IntegersFit) :
  ∃ s, v.text? = some s
  := by
  cases v with
  | str s => exact ⟨s, rfl⟩
  | halfText codes hhalf => exact ⟨_, rfl⟩
  | date t => exact ⟨_, rfl⟩
  | _ => exact exists_shown h

/-- The values in a mapping have a text if the mapping has one. -/
theorem integersFit_of_field? {entries : List (Value × Value)} (h : EntriesFit entries) {key : String}
    {v : Value} (hv : field? entries key = some v) :
  v.IntegersFit
  := by
  induction entries with
  | nil => cases hv
  | cons entry entries ih =>
      rw [field?_cons] at hv
      split at hv
      · obtain rfl := Option.some.inj hv
        exact h.2.1
      · exact ih h.2.2 hv

end Value

/-- Tokens are only replaced in texts. -/
theorem integersFit_of_substitute {table : TokenTable} {v w : Value}
    (h : Token.substitute table v = .ok w) (hv : v.IntegersFit) :
  w.IntegersFit
  := by
  cases v with
  | str s =>
      obtain ⟨codes, -, rfl⟩ := exists_of_map_eq_ok h
      apply Value.integersFit_ofCodes
  | halfText codes hhalf =>
      obtain ⟨more, -, rfl⟩ := exists_of_map_eq_ok h
      apply Value.integersFit_ofCodes
  | _ =>
      obtain rfl := Except.ok.inj h
      exact hv

end DeploymentRecipes
