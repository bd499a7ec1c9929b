import DeploymentRecipes.Json.Token
import DeploymentRecipes.Value.Shown

/-!
# Reading JSON

The lexemes of a text are read one by one, with a stack of the lists and mappings that are still
open.  A repeated key keeps its first place and its last value.
-/

namespace DeploymentRecipes.Json

/-- A list or mapping that is open while a value inside it is read: the items before, latest first,
or the entries before and the key of the value. -/
inductive Frame where
  | list (items : List Value)
  | map (entries : List (Value × Value)) (key : Value)

/-- What may come next. -/
inductive Expectation where
  | value
  | firstItem
  | firstKey
  | nextKey (entries : List (Value × Value))
  | colon (entries : List (Value × Value)) (key : Value)
  | itemEnd (items : List Value)
  | entryEnd (entries : List (Value × Value))
  | finish (v : Value)

/-- What is expected after a complete value, and what stays open. -/
def deliver (v : Value) : List Frame → Expectation × List Frame
  | [] => (.finish v, [])
  | .list items :: open_ => (.itemEnd (v :: items), open_)
  | .map entries key :: open_ => (.entryEnd (Value.insertEntry key v entries), open_)

/-- The fault of a lexeme that is out of place. -/
def misplaced (d : Defect) (l : Lexeme) : Except Fault (Expectation × List Frame) :=
  .error (.defect d l.start)

/-- A value is due. -/
def takeValue (l : Lexeme) (open_ : List Frame) : Except Fault (Expectation × List Frame) :=
  match l.token with
  | .mark '{' => .ok (.firstKey, open_)
  | .mark '[' => .ok (.firstItem, open_)
  | .mark _ => misplaced .value l
  | .text codes => .ok (deliver (.ofCodes codes) open_)
  | .scalar v => .ok (deliver v open_)
  | .brokenText fault | .broken fault => .error fault

/-- A key is due. -/
def takeKey (entries : List (Value × Value)) (l : Lexeme) (open_ : List Frame) :
    Except Fault (Expectation × List Frame) :=
  match l.token with
  | .text codes => .ok (.colon entries (.ofCodes codes), open_)
  | .brokenText fault => .error fault
  | _ => misplaced .propertyName l

/-- The step that one lexeme makes. -/
def take (l : Lexeme) (open_ : List Frame) : Expectation → Except Fault (Expectation × List Frame)
  | .value => takeValue l open_
  | .firstItem =>
    match l.token with
    | .mark ']' => .ok (deliver (.list []) open_)
    | _ => takeValue l (.list [] :: open_)
  | .firstKey =>
    match l.token with
    | .mark '}' => .ok (deliver (.map []) open_)
    | _ => takeKey [] l open_
  | .nextKey entries => takeKey entries l open_
  | .colon entries key =>
    match l.token with
    | .mark ':' => .ok (.value, .map entries key :: open_)
    | _ => misplaced .colon l
  | .itemEnd items =>
    match l.token with
    | .mark ',' => .ok (.value, .list items :: open_)
    | .mark ']' => .ok (deliver (.list items.reverse) open_)
    | _ => misplaced .comma l
  | .entryEnd entries =>
    match l.token with
    | .mark ',' => .ok (.nextKey entries, open_)
    | .mark '}' => .ok (deliver (.map entries) open_)
    | _ => misplaced .comma l
  | .finish _ => misplaced .extra l

/-- The result when the text ends at a position. -/
def conclude (position : Nat) : Expectation → Except Fault Value
  | .finish v => .ok v
  | .value | .firstItem => .error (.defect .value position)
  | .firstKey | .nextKey _ => .error (.defect .propertyName position)
  | .colon _ _ => .error (.defect .colon position)
  | .itemEnd _ | .entryEnd _ => .error (.defect .comma position)

/-- The value that the lexemes of a text of the given length complete. -/
def run (length : Nat) : List Lexeme → Expectation → List Frame → Except Fault Value
  | [], expectation, _ => conclude length expectation
  | l :: ls, expectation, open_ =>
    match take l open_ expectation with
    | .error fault => .error fault
    | .ok (next, stillOpen) => run length ls next stillOpen

/-- The value of a JSON text. -/
def read (limit : DigitLimit) (s : String) : Except Fault Value :=
  let cs := s.toList
  if cs.head? == some '\ufeff' then .error (.defect .byteOrderMark 0)
  else run cs.length (lex limit cs) .value []

/-! ### Places -/

/-- The line of a position, counted from one. -/
def lineOf (cs : List Char) (position : Nat) : Nat := (cs.take position).count '\n' + 1

/-- The column of a position, counted from one. -/
def columnOf (cs : List Char) (position : Nat) : Nat :=
  ((cs.take position).reverse.takeWhile (· != '\n')).length + 1

/-- A defect with its place in a text. -/
structure PlacedDefect where
  defect : Defect
  position : Nat
  line : Nat
  column : Nat
  deriving DecidableEq

/-- The place of a defect at a position of a text. -/
def Defect.place (d : Defect) (cs : List Char) (position : Nat) : PlacedDefect :=
  ⟨d, position, lineOf cs position, columnOf cs position⟩

/-- A placed defect in words. -/
def PlacedDefect.message (p : PlacedDefect) : String :=
  s!"{p.defect.text}: line {p.line} column {p.column} (char {p.position})"

end DeploymentRecipes.Json
