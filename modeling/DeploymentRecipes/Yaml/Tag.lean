import DeploymentRecipes.Number.Numeral

/-!
# Tags of scalars

A plain scalar without a tag of its own gets one from its text: a truth value, a number, a date, a
merge or value mark, null, or else a text.
-/

namespace DeploymentRecipes.Yaml.Tag

/-- A tag of the common schema. -/
def common (name : String) : String := "tag:yaml.org,2002:" ++ name

def null : String := common "null"
def bool : String := common "bool"
def int : String := common "int"
def float : String := common "float"
def str : String := common "str"
def seq : String := common "seq"
def map : String := common "map"
def binary : String := common "binary"
def timestamp : String := common "timestamp"
def omap : String := common "omap"
def pairs : String := common "pairs"
def set : String := common "set"
def merge : String := common "merge"
def value : String := common "value"

/-- The tag that asks for the usual one. -/
def unspecific : String := "!"

/-! ### Forms of plain scalars -/

/-- The words for the truth values. -/
def boolWords : List String := [
  "yes", "Yes", "YES", "no", "No", "NO", "true", "True", "TRUE", "false", "False", "FALSE", "on",
  "On", "ON", "off", "Off", "OFF"]

def nullWords : List String := ["~", "null", "Null", "NULL"]

def dropSign : List Char → List Char
  | '-' :: cs => cs
  | '+' :: cs => cs
  | cs => cs

/-- A digit or low line. -/
def isDigitOrLine (c : Char) : Bool := c.isDigit || c = '_'

/-- A power of ten with a sign, or nothing. -/
def isPower : List Char → Bool
  | [] => true
  | e :: sign :: digits => (e = 'e' || e = 'E') && (sign = '-' || sign = '+') && digits != [] &&
      digits.all Char.isDigit
  | _ => false

/-- What follows parts below sixty, each after a colon; there is at least one. -/
def afterSixties : List Char → Option (List Char)
  | ':' :: d :: e :: cs =>
    if d.isDigit && e.isDigit then
      if d ≤ '5' then some ((afterSixties cs).getD cs) else none
    else if d.isDigit then some ((afterSixties (e :: cs)).getD (e :: cs))
    else none
  | [':', d] => if d.isDigit then some [] else none
  | _ => none

/-- Whether the characters end after a point and digits. -/
def isPointTail : List Char → Bool
  | '.' :: cs => cs.all isDigitOrLine
  | _ => false

/-- A number with a point, infinity, or no number. -/
def isFloat (cs : List Char) : Bool :=
  let unsigned := dropSign cs
  let rest := unsigned.dropWhile isDigitOrLine
  let startsWithDigit (cs : List Char) : Bool := (cs.head?.map Char.isDigit).getD false
  (startsWithDigit unsigned &&
    ((rest.head? == some '.' && isPower (rest.tail.dropWhile isDigitOrLine)) ||
      ((afterSixties rest).map isPointTail).getD false)) ||
  (cs.head? == some '.' && startsWithDigit cs.tail &&
    isPower (cs.tail.dropWhile isDigitOrLine)) ||
  [".inf", ".Inf", ".INF"].contains (String.ofList unsigned) ||
  [".nan", ".NaN", ".NAN"].contains (String.ofList cs)

/-- Whether there are characters, all of a class. -/
def areAll (p : Char → Bool) (cs : List Char) : Bool := cs != [] && cs.all p

/-- An integer: binary, octal, decimal, hexadecimal, or with parts below sixty. -/
def isInt (cs : List Char) : Bool :=
  match dropSign cs with
  | ['0'] => true
  | '0' :: 'b' :: digits => areAll (fun c => c = '0' || c = '1' || c = '_') digits
  | '0' :: 'x' :: digits => areAll (fun c => (Numeral.digitIn 16 c).isSome && c.toNat < 0x80 ||
      c = '_') digits
  | '0' :: digits => areAll (fun c => ('0' ≤ c && c ≤ '7') || c = '_') digits
  | d :: cs =>
    let rest := cs.dropWhile isDigitOrLine
    d.isDigit && (rest == [] || afterSixties rest == some [])
  | [] => false

/-! ### Dates -/

/-- The parts of a written date. -/
structure DateText where
  year : List Char
  month : List Char
  day : List Char
  time : Option (List Char × List Char × List Char × List Char)
  zone : List Char
  deriving Inhabited

/-- One or two digits, and the rest. -/
def oneOrTwo : List Char → Option (List Char × List Char)
  | a :: b :: cs =>
    if a.isDigit then some (if b.isDigit then ([a, b], cs) else ([a], b :: cs)) else none
  | [a] => if a.isDigit then some ([a], []) else none
  | [] => none

/-- Exactly `n` digits, and the rest. -/
def exactly (n : Nat) (cs : List Char) : Option (List Char × List Char) :=
  let digits := cs.take n
  if digits.length = n && digits.all Char.isDigit then some (digits, cs.drop n) else none

/-- What follows a character. -/
def after (c : Char) : List Char → Option (List Char)
  | d :: cs => if d = c then some cs else none
  | [] => none

def isGap (c : Char) : Bool := c = ' ' || c = '\t'

/-- Whether the characters are an offset from universal time, perhaps after blanks. -/
def isZone (cs : List Char) : Bool :=
  match cs.dropWhile isGap with
  | ['Z'] => true
  | sign :: digits => (sign = '-' || sign = '+') && (match oneOrTwo digits with
      | some (_, []) => true
      | some (_, rest) => ((after ':' rest).bind (exactly 2)).any (·.2 == [])
      | none => false)
  | [] => false

/-- What stands between a date and a time of day, dropped. -/
def dropJoint : List Char → Option (List Char)
  | 'T' :: cs => some cs
  | 't' :: cs => some cs
  | c :: cs => if isGap c then some (cs.dropWhile isGap) else none
  | [] => none

/-- The time of day and the offset after a date. -/
def readClock (date : DateText) (cs : List Char) : Option DateText := do
  let cs ← dropJoint cs
  let (hour, cs) ← oneOrTwo cs
  let (minute, cs) ← (after ':' cs).bind (exactly 2)
  let (second, cs) ← (after ':' cs).bind (exactly 2)
  let (fraction, cs) := match cs with
    | '.' :: more => (more.takeWhile Char.isDigit, more.dropWhile Char.isDigit)
    | _ => ([], cs)
  let done := { date with time := some (hour, minute, second, fraction) }
  if cs = [] then some done
  else if isZone cs then some { done with zone := cs.dropWhile isGap }
  else none

/-- The date that the characters are, with or without a time of day. -/
def readDate? (cs : List Char) : Option DateText := do
  let (year, cs) ← exactly 4 cs
  let (month, cs) ← (after '-' cs).bind oneOrTwo
  let (day, cs) ← (after '-' cs).bind oneOrTwo
  let date : DateText := ⟨year, month, day, none, []⟩
  if cs = [] then some date else readClock date cs

/-- A date; one without a time of day has two digits for month and day. -/
def isTimestamp (cs : List Char) : Bool :=
  (readDate? cs).any fun d => d.time.isSome || (d.month.length == 2 && d.day.length == 2)

/-! ### Resolution -/

/-- The characters without a line feed at the end. -/
def dropLastBreak (cs : List Char) : List Char :=
  if cs.getLast? == some '\n' then cs.dropLast else cs

/-- The tag that a text gets by its form. -/
def ofText (cs : List Char) : String :=
  let body := dropLastBreak cs
  let word := String.ofList body
  if cs = [] then null
  else if body = [] then str
  else if boolWords.contains word then bool
  else if isFloat body then float
  else if isInt body then int
  else if word == "<<" then merge
  else if nullWords.contains word then null
  else if isTimestamp body then timestamp
  else if word == "=" then value
  else str

end DeploymentRecipes.Yaml.Tag
