import DeploymentRecipes.Value.Shown
import DeploymentRecipes.Text.Substring

/-!
# Conversion of values

Values converted to a requested type.  Null stays null and a value that has the type already is
kept; a truth value counts as a number, and a text is read as a numeral or a truth value.  A byte
string is read like the text of its bytes.
-/

namespace DeploymentRecipes

/-- A type that a value may be converted to. -/
inductive Target where
  | int
  | float
  | bool
  | str
  deriving DecidableEq

/-- Why a value has no counterpart of the requested type. -/
inductive ConversionError where
  | notBoolean (shown : String)
  | notInteger (text : String)
  | notNumber (text : String)
  | noIntegerIn (shown : String)
  | noNumberIn (shown : String)
  | tooManyDigits (read : Option Nat)
  | undefinedNumber
  | infiniteNumber
  | tooLarge
  | unsupported (target : Target) (typeName : String)

namespace ConversionError

/-- The integer that a text was read as has too many digits, or the text of an integer would. -/
def digitsMessage (read : Option Nat) : String :=
  s!"Exceeds the limit ({Numeral.digitLimit} digits) for integer string conversion" ++
    (match read with
      | some count => s!": value has {count} digits"
      | none => "") ++
    "; use sys.set_int_max_str_digits() to increase the limit"

/-- What is displayed is no integer; it is repeated up to its two hundredth character. -/
def noIntegerMessage (base : Nat) (shown : String) : String :=
  s!"invalid literal for int() with base {base}: " ++ String.ofList (shown.toList.take 200)

/-- A text that is no integer. -/
def notIntegerMessage (base : Nat) (text : String) : String :=
  noIntegerMessage base (Text.quoted text)

def message : ConversionError → String
  | .notBoolean shown => s!"cannot convert {shown} to bool"
  | .notInteger text => notIntegerMessage 10 text
  | .notNumber text => s!"could not convert string to float: {Text.quoted text}"
  | .noIntegerIn shown => noIntegerMessage 10 shown
  | .noNumberIn shown => s!"could not convert string to float: {shown}"
  | .tooManyDigits read => digitsMessage read
  | .undefinedNumber => "cannot convert float NaN to integer"
  | .infiniteNumber => "cannot convert float infinity to integer"
  | .tooLarge => "int too large to convert to float"
  | .unsupported .float name =>
    s!"float() argument must be a string or a real number, not '{name}'"
  | .unsupported _ name =>
    s!"int() argument must be a string, a bytes-like object or a real number, not '{name}'"

end ConversionError

namespace Value

/-- The integer part of a number. -/
def floatToInt (x : Binary64) : Except ConversionError Int :=
  match x with
  | .nan => .error .undefinedNumber
  | .infinite _ => .error .infiniteNumber
  | .finite s m e => .ok (Int.tdiv (Binary64.units s m e) Binary64.unitsPerOne)

/-- The number nearest to an integer. -/
def intToFloat (n : Int) : Except ConversionError Binary64 :=
  (Binary64.ofInt? n).elim (.error .tooLarge) .ok

/-- The integer written in a text. -/
def textToInt (s : String) : Except ConversionError Int :=
  match Numeral.readInt s with
  | .ok n => .ok n
  | .error .malformed => .error (.notInteger s)
  | .error (.tooManyDigits count) => .error (.tooManyDigits (some count))

/-- The number written in a text. -/
def textToFloat (s : String) : Except ConversionError Binary64 :=
  match Numeral.readFloat? s with
  | some x => .ok x
  | none => .error (.notNumber s)

/-- Whether the value is a text with halves of surrogate pairs. -/
def isHalfText : Value → Bool
  | .halfText _ _ => true
  | _ => false

/-- Bytes as a text, where those beyond ASCII are replaced. They fit in no numeral. -/
def bytesText (bs : List UInt8) : String :=
  String.ofList (bs.map fun b => if b.toNat < 0x80 then Char.ofNat b.toNat else '\ufffd')

/-- The integer written in a text that stands for what is displayed otherwise. -/
def standInToInt (s shown : String) : Except ConversionError Int :=
  (textToInt s).mapError fun
    | .notInteger _ => .noIntegerIn shown
    | e => e

/-- The number written in a text that stands for what is displayed otherwise. -/
def standInToFloat (s shown : String) : Except ConversionError Binary64 :=
  (textToFloat s).mapError fun _ => .noNumberIn shown

/-- The value as an integer. -/
def toInt : Value → Except ConversionError Int
  | .bool b => .ok (ofBool b)
  | .int n => .ok n
  | .float x => floatToInt x
  | .str s => textToInt s
  | .halfText codes _ => standInToInt (Text.ofCodes codes) (Text.quotedCodes codes)
  | .bytes bs => standInToInt (bytesText bs) (Text.shownBytes bs)
  | v => .error (.unsupported .int v.fullTypeName)

/-- The value as a floating point number. -/
def toFloat : Value → Except ConversionError Binary64
  | .bool b => intToFloat (ofBool b)
  | .int n => intToFloat n
  | .float x => .ok x
  | .str s => textToFloat s
  | .halfText codes _ => standInToFloat (Text.ofCodes codes) (Text.quotedCodes codes)
  | .bytes bs => standInToFloat (bytesText bs) (Text.shownBytes bs)
  | v => .error (.unsupported .float v.fullTypeName)

/-- The value as text. -/
def toText (v : Value) : Except ConversionError String :=
  match v.text? with
  | some s => .ok s
  | none => .error (.tooManyDigits none)

/-- The refusal of a value that is no truth value. -/
def notBoolean (v : Value) : ConversionError :=
  match v.shown? with
  | some s => .notBoolean s
  | none => .tooManyDigits none

/-- The text in lower case as far as ASCII goes. -/
def lowered (s : String) : String := String.ofList (s.toList.map Char.toLower)

/-- The value as a truth value. -/
def toBool : Value → Except ConversionError Bool
  | .bool b => .ok b
  | .int n => .ok (n != 0)
  | .float x => .ok (!x.isZero)
  | .str s =>
    let word := lowered (Text.strip s)
    if word == "true" then .ok true
    else if word == "false" then .ok false
    else .error (notBoolean (.str s))
  | v => .error (notBoolean v)

/-- The value converted to the target type; null stays null. -/
def convert (target : Target) : Value → Except ConversionError Value
  | .null => .ok .null
  | v => match target with
    | .int => (toInt v).map .int
    | .float => (toFloat v).map .float
    | .bool => (toBool v).map .bool
    | .str => if v.isHalfText then .ok v else (toText v).map .str

end Value
end DeploymentRecipes
