import DeploymentRecipes.Number.Numeral
import DeploymentRecipes.Text.Quoted
import DeploymentRecipes.Value.Basic

/-!
# JSON tokens

A JSON text is cut into marks, texts and scalars, each with the position where it starts.  The cut
ends at the first place where no token can be read; that place is kept as a defective token, to be
reported only if a reader gets there.
-/

namespace DeploymentRecipes.Json

/-- What is wrong at a place of a JSON text. -/
inductive Defect where
  | value
  | propertyName
  | colon
  | comma
  | extra
  | controlCharacter
  | openText
  | escape
  | codeEscape
  | byteOrderMark
  deriving DecidableEq

def Defect.text : Defect → String
  | .value => "Expecting value"
  | .propertyName => "Expecting property name enclosed in double quotes"
  | .colon => "Expecting ':' delimiter"
  | .comma => "Expecting ',' delimiter"
  | .extra => "Extra data"
  | .controlCharacter => "Invalid control character at"
  | .openText => "Unterminated string starting at"
  | .escape => "Invalid \\escape"
  | .codeEscape => "Invalid \\uXXXX escape"
  | .byteOrderMark => "Unexpected UTF-8 BOM (decode using utf-8-sig)"

/-- Why a text is not read: a defect and its position, or an integer with too many digits. -/
inductive Fault where
  | defect (d : Defect) (position : Nat)
  | longInteger (count : Nat)
  deriving DecidableEq

/-- A token. A text is a list of code points, which may be halves of surrogate pairs. -/
inductive Token where
  | mark (c : Char)
  | text (codes : List Nat)
  | scalar (v : Value)
  | brokenText (fault : Fault)
  | broken (fault : Fault)

structure Lexeme where
  start : Nat
  token : Token

/-! ### Texts -/

def isHighHalf (code : Nat) : Bool := 0xd800 ≤ code && code ≤ 0xdbff

def isLowHalf (code : Nat) : Bool := 0xdc00 ≤ code && code ≤ 0xdfff

/-- The code point of two halves. -/
def joinHalves (high low : Nat) : Nat := 0x10000 + (high - 0xd800) * 0x400 + (low - 0xdc00)

/-- The number written in four hexadecimal digits. -/
def fourDigits? (cs : List Char) : Option Nat :=
  let digits := (cs.take 4).filterMap fun c => if c.toNat < 0x80 then Numeral.digitIn 16 c else none
  if digits.length = 4 then some (digits.foldl (fun n d => n * 16 + d) 0) else none

/-- The character that a single-letter escape stands for. -/
def letterEscape? : Char → Option Nat
  | '"' => some 0x22
  | '\\' => some 0x5c
  | '/' => some 0x2f
  | 'b' => some 8
  | 'f' => some 12
  | 'n' => some 10
  | 'r' => some 13
  | 't' => some 9
  | _ => none

/-- The escape of a code point by its digits, given what follows the `u` and the position of the
backslash: the code point and the number of characters after the backslash. Two halves in a row
are joined. -/
def codeEscape (position : Nat) (cs : List Char) : Except Fault (Nat × Nat) :=
  match cs.drop 4, fourDigits? cs with
  | [], _ | _, none => .error (.defect .codeEscape (position + 1))
  | rest, some high =>
    match rest with
    | '\\' :: 'u' :: more =>
      if isHighHalf high && more.length > 4 then
        match fourDigits? more with
        | none => .error (.defect .codeEscape (position + 7))
        | some low => .ok (if isLowHalf low then (joinHalves high low, 11) else (high, 5))
      else .ok (high, 5)
    | _ => .ok (high, 5)

/-- The escape after a backslash: the code point and the number of characters. -/
def readEscape (quote position : Nat) : List Char → Except Fault (Nat × Nat)
  | [] => .error (.defect .openText quote)
  | 'u' :: cs => codeEscape position cs
  | c :: _ =>
    match letterEscape? c with
    | some code => .ok (code, 1)
    | none => .error (.defect .escape position)

/-- The code points up to the closing quote, after those read before, latest first, and the
position behind the quote; `skip` characters belong to the escape before. -/
def readText (quote : Nat) : List Char → Nat → Nat → List Nat → Except Fault (List Nat × Nat)
  | [], _, _, _ => .error (.defect .openText quote)
  | _ :: cs, position, skip + 1, acc => readText quote cs (position + 1) skip acc
  | c :: cs, position, 0, acc =>
    if c = '"' then .ok (acc.reverse, position + 1)
    else if c = '\\' then
      match readEscape quote position cs with
      | .error fault => .error fault
      | .ok (code, length) => readText quote cs (position + 1) length (code :: acc)
    else if c.toNat ≤ 0x1f then .error (.defect .controlCharacter position)
    else readText quote cs (position + 1) 0 (c.toNat :: acc)

/-! ### Numbers and words -/

/-- The digits of a whole number without superfluous zeros. -/
def wholeDigits : List Char → List Char
  | '0' :: _ => ['0']
  | cs => cs.takeWhile Char.isDigit

/-- A point with the digits after it, if there are any. -/
def fractionPart : List Char → List Char
  | '.' :: cs =>
    match cs.takeWhile Char.isDigit with
    | [] => []
    | digits => '.' :: digits
  | _ => []

/-- The mark of a power of ten with its sign and digits, if there are any. -/
def powerPart : List Char → List Char
  | e :: cs =>
    if e = 'e' || e = 'E' then
      let sign := match cs with
        | '+' :: _ => ['+']
        | '-' :: _ => ['-']
        | _ => []
      match (cs.drop sign.length).takeWhile Char.isDigit with
      | [] => []
      | digits => e :: (sign ++ digits)
    else []
  | [] => []

/-- The greatest number of digits of an integer, if there is one. -/
abbrev DigitLimit := Option Nat

/-- An integer, unless it has too many digits. -/
def integerToken (limit : DigitLimit) (negative : Bool) (digits : List Char) : Token :=
  let count := digits.length
  if (limit.map fun most => decide (most < count)).getD false then .broken (.longInteger count)
  else
    let n : Int := Numeral.valueOf digits
    .scalar (.int (if negative then -n else n))

/-- The number that the characters start with, and its length. -/
def numberToken? (limit : DigitLimit) (cs : List Char) : Option (Token × Nat) :=
  let negative := cs.head? == some '-'
  let unsigned := if negative then cs.tail else cs
  match wholeDigits unsigned with
  | [] => none
  | whole =>
    let fraction := fractionPart (unsigned.drop whole.length)
    let power := powerPart (unsigned.drop (whole.length + fraction.length))
    let numeral := whole ++ fraction ++ power
    let length := numeral.length + (if negative then 1 else 0)
    if fraction.isEmpty && power.isEmpty then some (integerToken limit negative whole, length)
    else some (match Numeral.readUnsigned negative numeral with
      | some x => (.scalar (.float x), length)
      | none => (.scalar .null, length))

/-- The words with a meaning of their own. -/
def words : List (String × Value) := [
  ("null", .null), ("true", .bool true), ("false", .bool false), ("NaN", .float .nan),
  ("Infinity", .float (.infinite false)), ("-Infinity", .float (.infinite true))]

/-- The word that the characters start with, and its length. -/
def wordToken? (cs : List Char) : Option (Token × Nat) :=
  (words.find? fun p => p.1.toList.isPrefixOf cs).map fun p => (.scalar p.2, p.1.length)

/-! ### Cutting a text -/

def isSpace (c : Char) : Bool := c = ' ' || c = '\t' || c = '\n' || c = '\r'

def isMark (c : Char) : Bool :=
  c = '{' || c = '}' || c = '[' || c = ']' || c = ',' || c = ':'

/-- The token that starts at a position with the given character, and its length. A token of no
length ends the cut. -/
def tokenAt (limit : DigitLimit) (position : Nat) (c : Char) (cs : List Char) : Token × Nat :=
  if isMark c then (.mark c, 1)
  else if c = '"' then
    match readText position cs (position + 1) 0 [] with
    | .ok (codes, behind) => (.text codes, behind - position)
    | .error fault => (.brokenText fault, 0)
  else
    ((wordToken? (c :: cs)).or (numberToken? limit (c :: cs))).getD
      (.broken (.defect .value position), 0)

/-- The lexemes of a text, after those read before, latest first; `skip` characters belong to the
lexeme before. -/
def lexFrom (limit : DigitLimit) : List Char → Nat → Nat → List Lexeme → List Lexeme
  | [], _, _, acc => acc.reverse
  | _ :: cs, position, skip + 1, acc => lexFrom limit cs (position + 1) skip acc
  | c :: cs, position, 0, acc =>
    if isSpace c then lexFrom limit cs (position + 1) 0 acc
    else match tokenAt limit position c cs with
      | (token, 0) => (⟨position, token⟩ :: acc).reverse
      | (token, length + 1) => lexFrom limit cs (position + 1) length (⟨position, token⟩ :: acc)

/-- The lexemes of a text. -/
def lex (limit : DigitLimit) (cs : List Char) : List Lexeme := lexFrom limit cs 0 0 []

end DeploymentRecipes.Json
