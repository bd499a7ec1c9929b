import DeploymentRecipes.Number.Binary64
import DeploymentRecipes.Text.Classes

/-!
# Numerals

Integers and floating point numbers read from text.  Blanks may surround a numeral, a single sign
may lead it, single low lines may stand between digits, and the digits may be those of any script.
An integer has at most `digitLimit` digits, both when it is read and when it is written.
-/

namespace DeploymentRecipes.Numeral

/-- Why a text is not an integer, or an integer has no text. -/
inductive Fault where
  | malformed
  | tooManyDigits (count : Nat)

/-- The greatest number of decimal digits of an integer. -/
def digitLimit : Nat := 4300

/-- White space around a numeral; the information separators do not count. -/
def isMargin (c : Char) : Bool := Text.isBlank c && !(0x1c ≤ c.toNat && c.toNat ≤ 0x1f)

/-- The value of a character as a digit in the given base; from eleven on letters of either case
are digits. -/
def digitIn (base : Nat) (c : Char) : Option Nat :=
  let value :=
    if 'a' ≤ c && c ≤ 'z' then some (c.toNat - 'a'.toNat + 10)
    else if 'A' ≤ c && c ≤ 'Z' then some (c.toNat - 'A'.toNat + 10)
    else Text.digitValue? c
  value.filter (· < base)

/-- A run of digits and low lines: the digits' values, their number, whether the low lines stand
singly between digits, and the rest. -/
structure Run where
  value : Nat
  count : Nat
  sound : Bool
  rest : List Char

/-- The run of digits that the characters start with, after digits already read; `open_` tells
that a low line came last. -/
def digitRun (base : Nat) : List Char → Nat → Nat → Bool → Run
  | [], value, count, open_ => ⟨value, count, !open_, []⟩
  | c :: cs, value, count, open_ =>
    match digitIn base c with
    | some d => digitRun base cs (value * base + d) (count + 1) false
    | none =>
      if c = '_' then
        if open_ then ⟨value, count, false, c :: cs⟩ else digitRun base cs value count true
      else ⟨value, count, !open_, c :: cs⟩

/-- The sign in front of a numeral: whether it is a minus, and the rest. -/
def takeSign : List Char → Bool × List Char
  | '-' :: cs => (true, cs)
  | '+' :: cs => (false, cs)
  | cs => (false, cs)

/-- Drops a base mark such as `0x` together with one low line after it. -/
def dropMark (letter : Char) : List Char → List Char
  | '0' :: c :: rest =>
    if c = letter || c = letter.toUpper then
      match rest with
      | '_' :: more => more
      | _ => rest
    else '0' :: c :: rest
  | cs => cs

/-- The letter that marks a base. -/
def markOf : Nat → Option Char
  | 2 => some 'b'
  | 8 => some 'o'
  | 16 => some 'x'
  | _ => none

/-- The integer written in a text in the given base. -/
def readIntIn (base : Nat) (s : String) : Except Fault Int :=
  let cs := Text.trimBoth isMargin s.toList
  let (negative, cs) := takeSign cs
  let cs := match markOf base with
    | some letter => dropMark letter cs
    | none => cs
  let run := digitRun base cs 0 0 true
  if run.count = 0 || !run.sound then .error .malformed
  else if base = 10 && run.count > digitLimit then .error (.tooManyDigits run.count)
  else if run.rest ≠ [] then .error .malformed
  else .ok (if negative then -(run.value : Int) else run.value)

/-- The integer written in a text. -/
def readInt (s : String) : Except Fault Int := readIntIn 10 s

/-- The decimal text of an integer, when it is short enough. -/
def showInt? (n : Int) : Option String :=
  if n.natAbs < Nat.pow 10 digitLimit then some (toString n) else none

/-- A decimal fraction: the value of all its digits, the number of digits from the first one that
is not zero, and how many digits stand after the point. -/
structure Fraction where
  value : Nat
  count : Nat
  places : Nat

/-- Whether low lines stand only between ASCII digits. -/
def lowLinesSound : Char → List Char → Bool
  | prev, [] => prev != '_'
  | prev, c :: cs =>
    (if c = '_' then prev.isDigit else prev != '_' || c.isDigit) && lowLinesSound c cs

/-- The value of a fraction times a power of ten. Powers beyond the range of the numbers are cut
short, so that the cost does not depend on them. -/
def Fraction.toBinary (f : Fraction) (negative : Bool) (power : Int) : Binary64 :=
  let power := power - f.places
  if f.value = 0 then .finite negative 0 0
  else if power + f.count > 400 then .infinite negative
  else if power + f.count < -400 then .finite negative 0 0
  else if power < 0 then .ofRatio negative f.value (Nat.pow 10 power.natAbs)
  else .ofRatio negative (f.value * Nat.pow 10 power.natAbs) 1

/-- Decimal digits without low lines, and the rest. -/
def plainDigits (cs : List Char) : List Char × List Char :=
  (cs.takeWhile Char.isDigit, cs.dropWhile Char.isDigit)

/-- The value of ASCII digits. -/
def valueOf (digits : List Char) : Nat := digits.foldl (fun n c => n * 10 + (c.toNat - 48)) 0

/-- The power of ten at the end of a numeral; nothing may follow it. -/
def readPower : List Char → Option Int
  | [] => some 0
  | e :: cs =>
    if e = 'e' || e = 'E' then
      let (negative, cs) := takeSign cs
      let (digits, rest) := plainDigits cs
      if digits = [] || rest ≠ [] then none
      else some (if negative then -(valueOf digits : Int) else valueOf digits)
    else none

/-- The number written in ASCII digits with an optional point and power of ten, or by name. -/
def readUnsigned (negative : Bool) (cs : List Char) : Option Binary64 :=
  let name := String.ofList (cs.map Char.toLower)
  if name == "inf" || name == "infinity" then some (.infinite negative)
  else if name == "nan" then some .nan
  else
    let (whole, rest) := plainDigits cs
    let (places, rest) := match rest with
      | '.' :: more => plainDigits more
      | _ => ([], rest)
    let digits := whole ++ places
    if digits = [] then none
    else (readPower rest).map
      ((⟨valueOf digits, (digits.dropWhile (· == '0')).length, places.length⟩ :
        Fraction).toBinary negative)

/-- Digits of all scripts as ASCII digits; other characters beyond ASCII are kept and fit in no
numeral. -/
def asciiDigit (c : Char) : Char :=
  if c.toNat < 0x80 then c
  else match Text.digitValue? c with
    | some d => Nat.digitChar d
    | none => c

/-- The floating point number written in a text. -/
def readFloat? (s : String) : Option Binary64 :=
  let cs := (Text.trimBoth isMargin s.toList).map asciiDigit
  if lowLinesSound 'x' cs then
    let (negative, cs) := takeSign (cs.filter (· != '_'))
    readUnsigned negative cs
  else none

end DeploymentRecipes.Numeral
