import DeploymentRecipes.Value.Shown

/-!
# Printing JSON

Values as JSON text, one element or entry a line, each level indented by two blanks.  Empty lists
and mappings stay on one line.  Texts escape the quote, the backslash and control characters, and
on request everything beyond printable ASCII.
-/

namespace DeploymentRecipes.Json

/-- The escape of a sixteen-bit unit by its digits. -/
def unitEscape (n : Nat) : String := "\\u" ++ Text.hexPadded 4 n

/-- The escape of a character by its code point, as two halves beyond the sixteen-bit range. -/
def charEscape (c : Char) : String :=
  if c.toNat < 0x10000 then unitEscape c.toNat
  else
    let n := c.toNat - 0x10000
    unitEscape (0xd800 + n / 0x400) ++ unitEscape (0xdc00 + n % 0x400)

/-- A character inside a text. -/
def escaped (asciiOnly : Bool) (c : Char) : String :=
  if c = '"' then "\\\""
  else if c = '\\' then "\\\\"
  else if c = '\n' then "\\n"
  else if c = '\r' then "\\r"
  else if c = '\t' then "\\t"
  else if c = '\x08' then "\\b"
  else if c = '\x0c' then "\\f"
  else if c.toNat < 0x20 || (asciiOnly && c.toNat > 0x7e) then charEscape c
  else String.ofList [c]

/-- A code point inside a text; half of a surrogate pair has no form but its escape. -/
def escapedCode (asciiOnly : Bool) (code : Nat) : String :=
  if Text.isHalf code then unitEscape code else escaped asciiOnly (Text.charOfCode code)

/-- A text between quotes. -/
def textLiteral (asciiOnly : Bool) (s : String) : String :=
  "\"" ++ String.join (s.toList.map (escaped asciiOnly)) ++ "\""

/-- A text between quotes, given by its code points. -/
def codesLiteral (asciiOnly : Bool) (codes : List Nat) : String :=
  "\"" ++ String.join (codes.map (escapedCode asciiOnly)) ++ "\""

/-- The beginning of a line at the given depth. -/
def newLine (depth : Nat) : String := "\n" ++ String.ofList (List.replicate (2 * depth) ' ')

/-- Printed parts between marks, each on a line of its own one level deeper. -/
def block (opening closing : String) (depth : Nat) (parts : List String) : String :=
  if parts.isEmpty then opening ++ closing
  else opening ++ newLine (depth + 1) ++ String.intercalate ("," ++ newLine (depth + 1)) parts ++
    newLine depth ++ closing

/-- A number as JSON. -/
def numberText : Binary64 → String
  | .nan => "NaN"
  | .infinite negative => if negative then "-Infinity" else "Infinity"
  | x => x.text

/-- The text of a key. -/
def keyText : Value → String
  | .str s => s
  | _ => ""

mutual

/-- A value at the given depth. -/
def print (asciiOnly : Bool) (depth : Nat) : Value → String
  | .null => "null"
  | .bool b => if b then "true" else "false"
  | .int n => toString n
  | .float x => numberText x
  | .str s => textLiteral asciiOnly s
  | .halfText codes _ => codesLiteral asciiOnly codes
  | .bytes bs => textLiteral asciiOnly (Text.shownBytes bs)
  | .list items | .tuple items | .unordered items =>
    block "[" "]" depth (printItems asciiOnly (depth + 1) items)
  | .map entries => block r"{" r"}" depth (printEntries asciiOnly (depth + 1) entries)
  | .date t => textLiteral asciiOnly t.text
  | .loop isMapping => textLiteral asciiOnly (Value.shownLoop isMapping)

def printItems (asciiOnly : Bool) (depth : Nat) : List Value → List String
  | [] => []
  | v :: vs => print asciiOnly depth v :: printItems asciiOnly depth vs

def printEntries (asciiOnly : Bool) (depth : Nat) : List (Value × Value) → List String
  | [] => []
  | (k, v) :: es =>
    (textLiteral asciiOnly (keyText k) ++ ": " ++ print asciiOnly depth v) ::
      printEntries asciiOnly depth es

end

end DeploymentRecipes.Json
