import DeploymentRecipes.Text.Quoted

/-!
# Code points

A text may be given by its code points.  Some of them have no character: the halves of surrogate
pairs.  A half is no blank, digit or letter, and has no other case; it reads like the replacement
character, which is of no class either.
-/

namespace DeploymentRecipes.Text

/-- Whether a code point is half of a surrogate pair. -/
def isHalf (code : Nat) : Bool := 0xd800 ≤ code && code ≤ 0xdfff

/-- The character of a code point, or the replacement character for half of a pair. -/
def charOfCode (code : Nat) : Char := if isHalf code then '\ufffd' else Char.ofNat code

/-- The code points of a text. -/
def codes (s : String) : List Nat := s.toList.map Char.toNat

/-- The text of code points, with the replacement character for every half of a pair. -/
def ofCodes (codes : List Nat) : String := String.ofList (codes.map charOfCode)

/-- The code points between quotes, where halves of pairs are shown by their numbers. -/
def quotedCodes (codes : List Nat) : String :=
  let q := quoteFor (ofCodes codes)
  let shown (code : Nat) : String := if isHalf code then codeEscape code else quotedChar q (charOfCode code)
  String.ofList [q] ++ String.join (codes.map shown) ++ String.ofList [q]

end DeploymentRecipes.Text
