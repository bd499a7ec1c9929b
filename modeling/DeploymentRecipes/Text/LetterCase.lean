import DeploymentRecipes.Text.CaseTable

/-!
# Letter case

Upper-casing of whole texts, where one character may become several, and the comparison of single
code points that ignores case.
-/

namespace DeploymentRecipes.Text

/-- Whether a code point belongs to a stretch. -/
def CaseRun.contains (r : CaseRun) (n : Nat) : Bool :=
  r.first ≤ n && n ≤ r.last && (n - r.first) % r.step == 0

/-- The code point that the stretches give for `n`, or `n` itself. -/
def shiftCase (runs : List CaseRun) (n : Nat) : Nat :=
  match runs.find? (·.contains n) with
  | some r => ((n : Int) + r.shift).toNat
  | none => n

/-- The upper-case form of a character. -/
def upperChar (c : Char) : List Char :=
  if c.toNat < 0x80 then [c.toUpper]
  else match upperSpellings.find? (·.1 == c.toNat) with
    | some (_, spelling) => spelling.map Char.ofNat
    | none => [Char.ofNat (shiftCase upperRuns c.toNat)]

/-- The text in upper case. -/
def upper (s : String) : String := String.ofList (s.toList.flatMap upperChar)

/-- The one-character lower-case form of a code point. -/
def lowerCode (n : Nat) : Nat :=
  if n < 0x80 then (Char.ofNat n).toLower.toNat else shiftCase lowerRuns n

/-- The one-character lower-case form of a character. -/
def lowerChar (c : Char) : Char := Char.ofNat (lowerCode c.toNat)

/-- The lower-case letters that count as the given one when case is ignored. -/
def lowerVariants (n : Nat) : List Nat :=
  (caseClasses.find? (·.contains n)).getD [n]

/-- Whether two code points differ at most in case. -/
def sameLetter (m n : Nat) : Bool := m == n || (lowerVariants (lowerCode n)).contains (lowerCode m)

/-- The members of a stretch whose other case is `n`. -/
def CaseRun.preimage? (r : CaseRun) (n : Nat) : Option Nat :=
  let m := ((n : Int) - r.shift).toNat
  if r.contains m && ((m : Int) + r.shift).toNat == n then some m else none

/-- All code points that differ from `n` at most in case. -/
def letterVariants (n : Nat) : List Nat :=
  (lowerVariants (lowerCode n)).flatMap fun m => m :: lowerRuns.filterMap (·.preimage? m)

end DeploymentRecipes.Text
