/-!
# Binary floating point

Numbers of double precision, kept as exact integers: a finite number is its significand times a
power of two, counted in units of the smallest positive number `2 ^ (-1074)`.  `roundUnits` rounds
a quotient to the nearest number, a tie to the even significand; every finite number is made by
it, and so has a significand below `2 ^ 53` that is at least `2 ^ 52` unless the shift is zero.
-/

namespace DeploymentRecipes

/-- A number of double precision. `finite` has the magnitude
`significand * 2 ^ shift * 2 ^ (-1074)`. -/
inductive Binary64 where
  | nan
  | infinite (negative : Bool)
  | finite (negative : Bool) (significand shift : Nat)
  deriving DecidableEq

namespace Binary64

/-- The least significand of a number whose shift is not zero, `2 ^ 52`. -/
def leastSignificand : Nat := 0x10000000000000

/-- The number of units in one. -/
def unitsPerOne : Nat := Nat.pow 2 1074

/-- The magnitude of a significand and a shift in units. -/
def magnitude (significand shift : Nat) : Nat := significand * Nat.pow 2 shift

/-- The units of a finite number, with its sign. -/
def units (negative : Bool) (significand shift : Nat) : Int :=
  if negative then -(magnitude significand shift : Int) else magnitude significand shift

/-- The shift that leaves a significand of at most 53 binary digits. -/
def shiftFor (wholeUnits : Nat) : Nat := wholeUnits.log2 + 1 - 53

/-- The quotient rounded to the nearest natural number, a tie to the even one. -/
def roundDiv (num den : Nat) : Nat :=
  let q := num / den
  let r := num % den
  if 2 * r > den || (2 * r == den && q % 2 == 1) then q + 1 else q

/-- The finite or infinite number with the given significand, which may be `2 ^ 53`. -/
def make (negative : Bool) (significand shift : Nat) : Binary64 :=
  let (m, s) :=
    if significand = 2 * leastSignificand then (leastSignificand, shift + 1)
    else (significand, shift)
  if s > 2045 then .infinite negative else .finite negative m s

/-- The number nearest to `num / den` units. -/
def roundUnits (negative : Bool) (num den : Nat) : Binary64 :=
  let s := shiftFor (num / den)
  make negative (roundDiv num (den * Nat.pow 2 s)) s

/-- The number nearest to `num / den`. -/
def ofRatio (negative : Bool) (num den : Nat) : Binary64 :=
  roundUnits negative (num * unitsPerOne) den

/-- The number nearest to a whole number of units over a denominator. -/
def ofUnits (u : Int) (den : Nat) : Binary64 := roundUnits (decide (u < 0)) u.natAbs den

def zero : Binary64 := .finite false 0 0

/-- The number itself, if it is finite. -/
def finite? : Binary64 → Option Binary64
  | .finite sign m s => some (.finite sign m s)
  | _ => none

/-- The number nearest to an integer, if that is finite. -/
def ofInt? (n : Int) : Option Binary64 := (ofRatio (decide (n < 0)) n.natAbs 1).finite?

def neg : Binary64 → Binary64
  | .nan => .nan
  | .infinite s => .infinite (!s)
  | .finite s m e => .finite (!s) m e

/-- The sum of two finite numbers, rounded. -/
def add : Binary64 → Binary64 → Binary64
  | .finite s m e, .finite s' m' e' => ofUnits (units s m e + units s' m' e') 1
  | .finite _ _ _, y => y
  | .infinite s, .infinite s' => if s = s' then .infinite s else .nan
  | .infinite s, .finite _ _ _ => .infinite s
  | _, _ => .nan

/-- Whether the number is zero, of either sign. -/
def isZero : Binary64 → Bool
  | .finite _ m _ => m == 0
  | _ => false

/-- The product of two numbers, rounded. -/
def mul : Binary64 → Binary64 → Binary64
  | .nan, _ | _, .nan => .nan
  | .finite s m e, .finite s' m' e' =>
    roundUnits (xor s s') (magnitude m e * magnitude m' e') unitsPerOne
  | .infinite s, .infinite s' => .infinite (xor s s')
  | .infinite s, .finite s' m _ | .finite s m _, .infinite s' =>
    if m = 0 then .nan else .infinite (xor s s')

/-- The order of numbers; `nan` is not comparable. -/
def le : Binary64 → Binary64 → Bool
  | .nan, _ | _, .nan => false
  | .infinite true, _ | _, .infinite false => true
  | .infinite false, _ | _, .infinite true => false
  | .finite s m e, .finite s' m' e' => units s m e ≤ units s' m' e'

/-- Equality of numbers: the zeros are equal, and `nan` equals nothing. -/
def sameNumber (x y : Binary64) : Bool := x.le y && y.le x

/-- Whether the number equals an integer. -/
def equalsInt (n : Int) : Binary64 → Bool
  | .finite s m e => units s m e == n * unitsPerOne
  | _ => false

/-- The integer equal to the number, if there is one. -/
def toInt? : Binary64 → Option Int
  | .finite s m e =>
    if magnitude m e % unitsPerOne = 0 then some (units s m e / unitsPerOne) else none
  | _ => none

/-- The integer part, toward zero, of a finite number. -/
def truncate? : Binary64 → Option Int
  | .finite s m e => some (Int.tdiv (units s m e) unitsPerOne)
  | _ => none

end Binary64
end DeploymentRecipes
