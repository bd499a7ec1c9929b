import DeploymentRecipes.Text.Quoted

/-!
# Base64

Bytes written in base64.  Characters outside the alphabet are passed over, and a complete padding
ends the text.
-/

namespace DeploymentRecipes.Text

/-- What is wrong with a text in base64. -/
inductive Base64Fault where
  | padding
  | loneCharacter (count : Nat)

def Base64Fault.message : Base64Fault → String
  | .padding => "Incorrect padding"
  | .loneCharacter count => "Invalid base64-encoded string: number of data characters " ++
      s!"({count}) cannot be 1 more than a multiple of 4"

/-- The six bits of a character. -/
def sextet? (c : Char) : Option Nat :=
  if 'A' ≤ c && c ≤ 'Z' then some (c.toNat - 'A'.toNat)
  else if 'a' ≤ c && c ≤ 'z' then some (c.toNat - 'a'.toNat + 26)
  else if c.isDigit then some (c.toNat - '0'.toNat + 52)
  else if c = '+' then some 62
  else if c = '/' then some 63
  else none

/-- The bytes of the characters, after those read before, latest first. `filled` characters of the
current group of four have been read, with the bits `left` over, and `pads` signs of padding. -/
def base64From : List Char → Nat → Nat → Nat → List UInt8 → Except Base64Fault (List UInt8)
  | [], filled, _, _, acc =>
    if filled = 0 then .ok acc.reverse
    else if filled = 1 then .error (.loneCharacter (acc.length / 3 * 4 + 1))
    else .error .padding
  | c :: cs, filled, left, pads, acc =>
    if c = '=' then
      if filled ≥ 2 then
        if filled + pads + 1 ≥ 4 then .ok acc.reverse
        else base64From cs filled left (pads + 1) acc
      else base64From cs filled left pads acc
    else match sextet? c with
      | none => base64From cs filled left pads acc
      | some n =>
        match filled with
        | 0 => base64From cs 1 n 0 acc
        | 1 => base64From cs 2 (n % 16) 0 (UInt8.ofNat (left * 4 + n / 16) :: acc)
        | 2 => base64From cs 3 (n % 4) 0 (UInt8.ofNat (left * 16 + n / 4) :: acc)
        | _ => base64From cs 0 0 0 (UInt8.ofNat (left * 64 + n) :: acc)

def decodeBase64 (cs : List Char) : Except Base64Fault (List UInt8) := base64From cs 0 0 0 []

/-- A byte between quotes. -/
def quotedByte (quote : Char) (b : UInt8) : String :=
  if b.toNat < 0x80 then quotedChar quote (Char.ofNat b.toNat) else codeEscape b.toNat

/-- Bytes in their displayed form. -/
def shownBytes (bytes : List UInt8) : String :=
  let holds (c : Char) : Bool := bytes.contains (UInt8.ofNat c.toNat)
  let q := if holds '\'' && !holds '"' then '"' else '\''
  "b" ++ String.ofList [q] ++ String.join (bytes.map (quotedByte q)) ++ String.ofList [q]

end DeploymentRecipes.Text
