import DeploymentRecipes.Proofs.Number.Integer
import DeploymentRecipes.Proofs.Result
import DeploymentRecipes.Value.Conversion

/-!
# Converted values

A value that was converted to a type is of the type, and a value of a type is converted to itself.  An
integer is read back from its text if it has one, and so is a truth value.
-/

namespace DeploymentRecipes.Value

variable {target : Target} {v w : Value}

/-! ### Values of a type -/

/-- A value is of a type. Null is of every type, and a truth value is no integer. A text with halves of
surrogate pairs is a text too. -/
inductive IsOf : Target → Value → Prop
  | null (target : Target) : IsOf target .null
  | int (n : Int) : IsOf .int (.int n)
  | float (x : Binary64) : IsOf .float (.float x)
  | bool (b : Bool) : IsOf .bool (.bool b)
  | str (s : String) : IsOf .str (.str s)
  | half (codes : List Nat) (h : codes.any Text.isHalf = true) : IsOf .str (.halfText codes h)

theorem convert_of_isNull_eq_false (h : v.isNull = false) (target : Target) :
  v.convert target = match target with
    | .int => v.toInt.map .int
    | .float => v.toFloat.map .float
    | .bool => v.toBool.map .bool
    | .str => if v.isHalfText then .ok v else v.toText.map .str
  := by
  cases v with
  | null => cases h
  | _ => rfl

/-- A value of the type is kept. -/
theorem IsOf.convert_eq (h : v.IsOf target) :
  v.convert target = .ok v
  := by
  cases h <;> rfl

/-- What comes out of a conversion is of the type. -/
theorem isOf_of_convert (h : v.convert target = .ok w) :
  w.IsOf target
  := by
  cases hnull : v.isNull with
  | true =>
      cases v with
      | null =>
          obtain rfl := Except.ok.inj h
          apply IsOf.null
      | _ => cases hnull
  | false =>
      rw [convert_of_isNull_eq_false hnull] at h
      cases target with
      | int =>
          obtain ⟨n, -, rfl⟩ := exists_of_map_eq_ok h
          apply IsOf.int
      | float =>
          obtain ⟨x, -, rfl⟩ := exists_of_map_eq_ok h
          apply IsOf.float
      | bool =>
          obtain ⟨b, -, rfl⟩ := exists_of_map_eq_ok h
          apply IsOf.bool
      | str =>
          dsimp only at h
          split at h
          · rename_i hhalf
            obtain rfl := Except.ok.inj h
            cases v with
            | halfText codes hcodes => exact IsOf.half codes hcodes
            | _ => cases hhalf
          · obtain ⟨s, -, rfl⟩ := exists_of_map_eq_ok h
            apply IsOf.str

/-! ### Texts that are read back -/

/-- An integer is read back from its text. There is none if the integer has too many digits. -/
theorem convert_text_int (n : Int) :
  ((Value.int n).convert .str >>= convert .int)
    = if n.natAbs < 10 ^ Numeral.digitLimit then .ok (.int n) else .error (.tooManyDigits none)
  := by
  have htext : (Value.int n).convert .str = ((Value.int n).toText).map .str := rfl
  have hshown : (Value.int n).text? = Numeral.showInt? n := rfl
  rw [htext, toText, hshown]
  by_cases hn : n.natAbs < 10 ^ Numeral.digitLimit
  · have hread : textToInt (toString n) = .ok n := by rw [textToInt, Numeral.readInt_toString hn]
    rw [if_pos hn, Numeral.showInt_eq hn]
    calc
      _ = (textToInt (toString n)).map Value.int := rfl
      _ = .ok (.int n) := by
            rw [hread]
            rfl
  · rw [if_neg hn, Numeral.showInt?, Nat.pow_eq, if_neg hn]
    rfl

theorem convert_text_bool (b : Bool) :
  ((Value.bool b).convert .str >>= convert .bool) = .ok (.bool b)
  := by
  cases b <;> rfl

/-! ### Conversions of converted values -/

/-- A value that was converted to a type is of the type and is converted to itself from then on. An
integer that has a text is read back from it, and only for too many digits there is none; a truth
value is always read back from its text. -/
theorem convert_convert :
  (∀ (target : Target) (v w : Value), v.convert target = .ok w →
    w.IsOf target ∧ w.convert target = .ok w)
    ∧ (∀ n : Int, ((Value.int n).convert .str >>= convert .int)
      = if n.natAbs < 10 ^ Numeral.digitLimit then .ok (.int n) else .error (.tooManyDigits none))
    ∧ ∀ b : Bool, ((Value.bool b).convert .str >>= convert .bool) = .ok (.bool b)
  := by
  refine ⟨?_, convert_text_int, convert_text_bool⟩
  intro target v w h
  have hof := isOf_of_convert h
  exact ⟨hof, hof.convert_eq⟩

/-- The bytes of an integer with blanks and a low line. -/
def looseBytes : Value := .bytes [0x20, 0x2d, 0x30, 0x5f, 0x37, 0x0a]

/-- A truth value counts as an integer, and the integer is no truth value any more. Byte strings and
texts are read with their blanks, and lists have texts. -/
theorem convert_convert_samples :
  (Value.bool true).convert .int = .ok (.int 1) ∧ (Value.int 1).convert .int = .ok (.int 1)
    ∧ looseBytes.convert .int = .ok (.int (-7))
    ∧ (Value.int (-7)).convert .int = .ok (.int (-7))
    ∧ (Value.list [.null, .str "a"]).convert .str = .ok (.str "[None, 'a']")
    ∧ (Value.str "[None, 'a']").convert .str = .ok (.str "[None, 'a']")
  := by
  have hbool : (Value.bool true).convert .int = .ok (.int 1) := rfl
  have hbytes : looseBytes.convert .int = .ok (.int (-7)) := rfl
  have hlist : (Value.list [.null, .str "a"]).convert .str = .ok (.str "[None, 'a']") := rfl
  exact ⟨hbool, (convert_convert.1 _ _ _ hbool).2, hbytes, (convert_convert.1 _ _ _ hbytes).2,
    hlist, (convert_convert.1 _ _ _ hlist).2⟩

end DeploymentRecipes.Value
