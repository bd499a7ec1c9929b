import DeploymentRecipes.Number.Binary64

/-!
# Shortest decimal digits

The fewest decimal digits that read back as a given number, and of those the ones nearest to it.
All arithmetic is exact: the numbers that round to the given one form an interval, and for each
count of digits the two neighbours of the number on the decimal grid are tried against it.
-/

namespace DeploymentRecipes.Binary64

/-- A positive quotient of natural numbers with the interval of quotients that round to the same
number. All share the denominator; the ends belong to the interval when `closed`. -/
structure Neighbourhood where
  low : Nat
  value : Nat
  high : Nat
  den : Nat
  closed : Bool

/-- The neighbourhood of a positive finite number, counted in quarters of a unit. -/
def neighbourhood (significand shift : Nat) : Neighbourhood where
  low := 4 * magnitude significand shift -
    (if significand = leastSignificand && shift > 0 then Nat.pow 2 shift else 2 * Nat.pow 2 shift)
  value := 4 * magnitude significand shift
  high := 4 * magnitude significand shift + 2 * Nat.pow 2 shift
  den := 4 * unitsPerOne
  closed := significand % 2 == 0

/-- Whether `num / den` lies in the neighbourhood. -/
def Neighbourhood.contains (b : Neighbourhood) (num den : Nat) : Bool :=
  let x := num * b.den
  if b.closed then b.low * den ≤ x && x ≤ b.high * den else b.low * den < x && x < b.high * den

/-- The power of ten that the value lies below, counted from `10 ^ (-400)`. -/
def Neighbourhood.decimalPlace (b : Neighbourhood) : Nat :=
  (Nat.toDigits 10 (b.value * Nat.pow 10 400 / b.den)).length

/-- The grid point next to the value with `n` digits that reads back, the nearer one of two. -/
def Neighbourhood.gridPoint? (b : Neighbourhood) (place n : Nat) : Option Nat :=
  -- the grid step is `up / down`
  let up := Nat.pow 10 (place - n - 400)
  let down := Nat.pow 10 (400 + n - place)
  let lower := b.value * down / (b.den * up)
  let upper := lower + 1
  let hitLower := b.contains (lower * up) down
  let hitUpper := b.contains (upper * up) down
  match hitLower, hitUpper with
  | false, false => none
  | true, false => some lower
  | false, true => some upper
  | true, true =>
    let twice := 2 * b.value * down
    let middle := (lower + upper) * up * b.den
    if twice < middle || (twice == middle && lower % 2 == 0) then some lower else some upper

/-- The digits of a grid point, and the power of ten that it lies below. -/
def digitsAt (point n place : Nat) : List Char × Int :=
  let ds := Nat.toDigits 10 point
  let place : Int := (place : Int) - 400 + ((ds.length : Int) - n)
  ((ds.reverse.dropWhile (· == '0')).reverse, place)

/-- The shortest digits that read back, trying `n` digits first and then more. -/
def Neighbourhood.shortestFrom (b : Neighbourhood) (place : Nat) : Nat → Nat → List Char × Int
  | n, 0 =>
    let down := Nat.pow 10 (400 + n - place)
    digitsAt (b.value * down / (b.den * Nat.pow 10 (place - n - 400))) n place
  | n, more + 1 =>
    match b.gridPoint? place n with
    | some point => digitsAt point n place
    | none => b.shortestFrom place (n + 1) more

/-- The shortest digits of a positive finite number, and the power of ten that it lies below. -/
def shortestDigits (significand shift : Nat) : List Char × Int :=
  let b := neighbourhood significand shift
  b.shortestFrom b.decimalPlace 1 17

/-- Where the written form changes from places before and after a point to powers of ten: the
number is written out when the power of ten it lies below is above `least` and at most `most`. -/
structure WrittenForm where
  least : Int
  most : Int
  exponentDigits : Nat

/-- Numbers from a ten-thousandth up to `10 ^ 16` are written out; powers of ten have at least two
digits. -/
def written : WrittenForm := ⟨-4, 16, 2⟩

/-- Digits with a point before the given place, and a zero on a side without digits. -/
def writtenOut (ds : List Char) (place : Int) : List Char :=
  if place ≤ 0 then '0' :: '.' :: (List.replicate (-place).toNat '0' ++ ds)
  else if ds.length ≤ place.toNat then
    ds ++ List.replicate (place.toNat - ds.length) '0' ++ ['.', '0']
  else ds.take place.toNat ++ '.' :: ds.drop place.toNat

/-- Digits with a point after the first one, and the power of ten. -/
def withPower (ds : List Char) (power : Int) : List Char :=
  let mantissa := match ds with
    | [] => []
    | [d] => [d]
    | d :: rest => d :: '.' :: rest
  let digits := Nat.toDigits 10 power.natAbs
  mantissa ++ 'e' :: (if power < 0 then '-' else '+') ::
    (List.replicate (written.exponentDigits - digits.length) '0' ++ digits)

/-- The text of a number. -/
def text : Binary64 → String
  | .nan => "nan"
  | .infinite negative => if negative then "-inf" else "inf"
  | .finite negative m e =>
    let body :=
      if m = 0 then ['0', '.', '0']
      else
        let (ds, place) := shortestDigits m e
        if place ≤ written.least || place > written.most then withPower ds (place - 1)
        else writtenOut ds place
    String.ofList (if negative then '-' :: body else body)

end DeploymentRecipes.Binary64
