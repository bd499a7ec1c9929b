import DeploymentRecipes.Schema.Checked
import DeploymentRecipes.Text.Utf8

/-!
# Fields

Readers for the value of a field, and for a field of a record.  A field has two names, one in
camel case and one with low lines between its words; the first is looked up first, and faults are
reported under it.
-/

namespace DeploymentRecipes.Schema

/-- The two names of a field. -/
structure FieldName where
  camel : String
  snake : String

/-- The entries of a record. -/
abbrev Record := List (Value × Value)

/-- The value of a field, if the record has it. -/
def FieldName.find? (name : FieldName) (r : Record) : Option Value :=
  (Value.field? r name.camel).or (Value.field? r name.snake)

/-- A field that may be left out. -/
def optional {α : Type} (r : Record) (name : FieldName) (absent : α)
    (read : Value → Checked α) : Checked α :=
  match name.find? r with
  | some v => (read v).under name.camel
  | none => .good absent

/-- A field that may not be left out. -/
def required {α : Type} (r : Record) (name : FieldName) (read : Value → Checked α) : Checked α :=
  match name.find? r with
  | some v => (read v).under name.camel
  | none => (Checked.fault .missing).under name.camel

/-- Any value. -/
def anything (v : Value) : Checked Value := .good v

/-- What a text says, where bytes in UTF-8 count as a text: `read` reads it, `undecodable` is the
fault of other bytes, and `other` that of what is no text. A text with halves of surrogate pairs has
no form in UTF-8. -/
def ofText {α : Type} (read : String → Checked α) (undecodable other : FaultKind) :
    Value → Checked α
  | .str s => read s
  | .bytes bs =>
    match Text.decodeUtf8 bs with
    | .ok s => read s
    | .error _ => .fault undecodable
  | .halfText _ _ => .fault .stringUnicode
  | _ => .fault other

/-- A text. -/
def string (v : Value) : Checked String := ofText .good .stringUnicode .stringType v

/-- A text or null. -/
def stringOrNull : Value → Checked (Option String)
  | .null => .good none
  | v => (string v).map some

/-- The words for the truth values. -/
def boolWords : List (String × Bool) := [
  ("0", false), ("off", false), ("f", false), ("false", false), ("n", false), ("no", false),
  ("1", true), ("on", true), ("t", true), ("true", true), ("y", true), ("yes", true)]

/-- The truth value that an integer stands for. -/
def boolOfInt (n : Int) : Checked Bool :=
  if n = 0 then .good false
  else if n = 1 then .good true
  else if -0x8000000000000000 ≤ n && n < 0x8000000000000000 then .fault .boolParsing
  else .fault .boolType

/-- The truth value that a word stands for, in any letter case. -/
def boolOfText (s : String) : Checked Bool :=
  match boolWords.find? (·.1 == Value.lowered s) with
  | some (_, b) => .good b
  | none => .fault .boolParsing

/-- A truth value: itself, zero or one, or one of the words. -/
def bool : Value → Checked Bool
  | .bool b => .good b
  | .int n => boolOfInt n
  | .float x =>
    match x.toInt? with
    | some n => if n.natAbs < 0x8000000000000000 then boolOfInt n else .fault .boolType
    | none => .fault .boolType
  | v => ofText boolOfText .boolParsing .boolType v

/-- The part of a numeral before a tail of a point and zeros. -/
def dropZeroPlaces (cs : List Char) : List Char :=
  match cs.reverse.dropWhile (· == '0') with
  | '.' :: rest => if rest.length + 1 < cs.length then rest.reverse else cs
  | _ => cs

/-- ASCII digits with single low lines between them. -/
def asciiDigits? (cs : List Char) : Option Nat :=
  let run := Numeral.digitRun 10 cs 0 0 true
  if cs.all (·.toNat < 0x80) && run.count > 0 && run.sound && run.rest.isEmpty &&
      run.count ≤ Numeral.digitLimit then some run.value else none

/-- The integer written in a text, with an optional sign and an optional tail of a point and
zeros. -/
def intText? (s : String) : Option Int :=
  let (negative, cs) := Numeral.takeSign (Text.trimBoth Numeral.isMargin s.toList)
  (asciiDigits? (dropZeroPlaces cs)).map fun n => if negative then -(n : Int) else n

/-- The integer that a numeral stands for. -/
def intOfText (s : String) : Checked Int :=
  if (Text.trimBoth Numeral.isMargin s.toList).length > Numeral.digitLimit then
    .fault .intParsingSize
  else match intText? s with
    | some n => .good n
    | none => .fault .intParsing

/-- An integer: itself, a truth value, a float without fraction, or a numeral. -/
def int : Value → Checked Int
  | .bool b => .good (Value.ofBool b)
  | .int n => .good n
  | .float x =>
    match x with
    | .nan | .infinite _ => .fault .finiteNumber
    | .finite _ _ _ =>
      match x.toInt? with
      | none => .fault .intFromFloat
      | some n => if n.natAbs < 0x8000000000000000 then .good n else .fault .intParsingSize
  | v => ofText intOfText .intParsing .intType v

/-- One of the named choices. Bytes are none, even if they spell one. -/
def choice {α : Type} (named : List (String × α)) : Value → Checked α
  | .str s =>
    match named.find? (·.1 == s) with
    | some (_, a) => .good a
    | none => .fault .choice
  | _ => .fault .choice

/-- The elements of a list, read in order, from the given position on. -/
def elementsFrom {α : Type} (read : Value → Checked α) : Nat → List Value → Checked (List α)
  | _, [] => .good []
  | i, v :: vs => List.cons <$> (read v).under (toString i) <*> elementsFrom read (i + 1) vs

/-- A list. A tuple or a set counts as the list of its members. -/
def list {α : Type} (read : Value → Checked α) : Value → Checked (List α)
  | .list vs | .tuple vs | .unordered vs => elementsFrom read 0 vs
  | _ => .fault .listType

/-- A record. -/
def record {α : Type} (read : Record → Checked α) : Value → Checked α
  | .map entries => read entries
  | _ => .fault .recordType

end DeploymentRecipes.Schema
