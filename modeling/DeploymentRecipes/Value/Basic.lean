import DeploymentRecipes.Number.Binary64
import DeploymentRecipes.Text.CodePoints
import DeploymentRecipes.Value.Timestamp

/-!
# Setting values

`Value` is what a setting may hold: the values of a data document, with mappings in insertion
order.  `Value.same` is equality of values, where numbers are compared by magnitude and the truth
values count as one and zero, and `Value.holds` tells the empty values from the others.

Values are finite trees.  No number without a value equals itself, wherever it stands, and the
members of a set are listed in the order of its document.
-/

namespace DeploymentRecipes

/-- A value of a data document. `halfText` is a text with halves of surrogate pairs, given by its
code points, `unordered` a set, and `loop` stands for a list that the value is part of, or for such a
mapping. -/
inductive Value where
  | null
  | bool (b : Bool)
  | int (n : Int)
  | float (x : Binary64)
  | str (s : String)
  | halfText (codes : List Nat) (h : codes.any Text.isHalf = true)
  | bytes (bs : List UInt8)
  | list (items : List Value)
  | tuple (items : List Value)
  | unordered (items : List Value)
  | map (entries : List (Value × Value))
  | date (t : Timestamp)
  | loop (isMapping : Bool)

namespace Value

instance : Inhabited Value := ⟨.null⟩

def isNull : Value → Bool
  | .null => true
  | _ => false

/-- Whether the value is the given text. -/
def isText (key : String) : Value → Bool
  | .str s => s == key
  | _ => false

/-- The value under a text key. -/
def field? (entries : List (Value × Value)) (key : String) : Option Value :=
  (entries.find? (·.1.isText key)).map (·.2)

/-- A mapping with text keys. -/
def ofFields (fields : List (String × Value)) : Value :=
  .map (fields.map fun p => (.str p.1, p.2))

/-- Whether the value is neither null nor false, zero or empty. -/
def holds : Value → Bool
  | .null => false
  | .bool b => b
  | .int n => n != 0
  | .float x => !x.isZero
  | .str s => s != ""
  | .bytes bs => !bs.isEmpty
  | .list items | .tuple items | .unordered items => !items.isEmpty
  | .map entries => !entries.isEmpty
  | .halfText _ _ | .date _ | .loop _ => true

/-- The integer that a truth value counts as. -/
def ofBool (b : Bool) : Int := if b then 1 else 0

/-- Equality of a number with an integer. -/
def sameInt (n : Int) : Value → Bool
  | .bool b => ofBool b == n
  | .int m => m == n
  | .float x => x.equalsInt n
  | _ => false

mutual

/-- Equality of values. -/
def same : Value → Value → Bool
  | .null, .null => true
  | .bool b, w => sameInt (ofBool b) w
  | .int n, w => sameInt n w
  | .float x, .float y => x.sameNumber y
  | .float x, .int n => x.equalsInt n
  | .float x, .bool b => x.equalsInt (ofBool b)
  | .str s, .str t => s == t
  | .halfText s _, .halfText t _ => s == t
  | .bytes s, .bytes t => s == t
  | .list xs, .list ys => sameItems xs ys
  | .tuple xs, .tuple ys => sameItems xs ys
  | .unordered xs, .unordered ys => xs.length == ys.length && sameMembers xs ys
  | .map xs, .map ys => xs.length == ys.length && sameEntries xs ys
  | .date t, .date u => t.same u
  | .loop b, .loop c => b == c
  | _, _ => false

/-- Equality of lists of values. -/
def sameItems : List Value → List Value → Bool
  | [], [] => true
  | x :: xs, y :: ys => same x y && sameItems xs ys
  | _, _ => false

/-- Whether every member has its like in the other set. -/
def sameMembers : List Value → List Value → Bool
  | [], _ => true
  | x :: xs, ys => ys.any (fun y => same x y) && sameMembers xs ys

/-- Whether every entry has its like in the other mapping. -/
def sameEntries : List (Value × Value) → List (Value × Value) → Bool
  | [], _ => true
  | (k, v) :: xs, ys =>
    (match ys.find? (fun p => same k p.1) with
      | some p => same v p.2
      | none => false) && sameEntries xs ys

end

/-- The entries with `key` set to `value`: a key that is present keeps its place and spelling. -/
def insertEntry (key value : Value) : List (Value × Value) → List (Value × Value)
  | [] => [(key, value)]
  | (k, v) :: rest =>
    if same k key then (k, value) :: rest else (k, v) :: insertEntry key value rest

/-- The name of the value's type in messages. -/
def typeName : Value → String
  | .null => "NoneType"
  | .bool _ => "bool"
  | .int _ => "int"
  | .float _ => "float"
  | .str _ | .halfText _ _ => "str"
  | .bytes _ => "bytes"
  | .tuple _ => "tuple"
  | .unordered _ => "set"
  | .date t => if t.time.isSome then "datetime" else "date"
  | .list _ | .loop false => "list"
  | .map _ | .loop true => "dict"

/-- The name of the value's type, with the name of its family for calendar values. -/
def fullTypeName : Value → String
  | .date t => if t.time.isSome then "datetime.datetime" else "datetime.date"
  | v => v.typeName

end Value
end DeploymentRecipes
