import DeploymentRecipes.Number.Numeral
import DeploymentRecipes.Number.Shortest
import DeploymentRecipes.Text.Base64
import DeploymentRecipes.Text.CodePoints
import DeploymentRecipes.Value.Basic

/-!
# Texts of values

`Value.shown?` displays a value, texts between quotes; `Value.text?` is the value as text, where a
text stands for itself, with the replacement character for halves of surrogate pairs.  There is none
when an integer in the value has too many digits.
-/

namespace DeploymentRecipes.Value

def boolText (b : Bool) : String := if b then "True" else "False"

/-- A tuple of displayed values. A single one is followed by a comma. -/
def shownTuple : List String → String
  | [s] => "(" ++ s ++ ",)"
  | ss => "(" ++ String.intercalate ", " ss ++ ")"

/-- A set of displayed values. -/
def shownSet : List String → String
  | [] => "set()"
  | ss => r"{" ++ String.intercalate ", " ss ++ r"}"

/-- A list or a mapping inside of itself. -/
def shownLoop (isMapping : Bool) : String := if isMapping then r"{...}" else "[...]"

mutual

/-- The displayed form of a value. -/
def shown? : Value → Option String
  | .null => some "None"
  | .bool b => some (boolText b)
  | .int n => Numeral.showInt? n
  | .float x => some x.text
  | .str s => some (Text.quoted s)
  | .halfText codes _ => some (Text.quotedCodes codes)
  | .bytes bs => some (Text.shownBytes bs)
  | .list items => (shownItems? items).map fun ss => "[" ++ String.intercalate ", " ss ++ "]"
  | .tuple items => (shownItems? items).map shownTuple
  | .unordered items => (shownItems? items).map shownSet
  | .map entries =>
    (shownEntries? entries).map fun ss => r"{" ++ String.intercalate ", " ss ++ r"}"
  | .date t => some t.shown
  | .loop isMapping => some (shownLoop isMapping)

/-- The displayed forms of a list's values. -/
def shownItems? : List Value → Option (List String)
  | [] => some []
  | v :: vs => do
    let s ← shown? v
    let ss ← shownItems? vs
    return s :: ss

/-- The displayed entries of a mapping. -/
def shownEntries? : List (Value × Value) → Option (List String)
  | [] => some []
  | (k, v) :: es => do
    let s ← shown? k
    let t ← shown? v
    let ss ← shownEntries? es
    return (s ++ ": " ++ t) :: ss

end

/-- The value as text. -/
def text? : Value → Option String
  | .str s => some s
  | .halfText codes _ => some (Text.ofCodes codes)
  | .date t => some t.text
  | v => v.shown?

/-- The code points of a text. -/
def codes? : Value → Option (List Nat)
  | .str s => some (Text.codes s)
  | .halfText codes _ => some codes
  | _ => none

/-- The text made of code points. -/
def ofCodes (codes : List Nat) : Value :=
  if h : codes.any Text.isHalf = true then .halfText codes h
  else .str (String.ofList (codes.map Char.ofNat))

end DeploymentRecipes.Value
