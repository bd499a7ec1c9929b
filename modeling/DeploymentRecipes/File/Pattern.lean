import DeploymentRecipes.Text.Substring

/-!
# Name patterns

A name pattern is a text with wildcards: a star for any run of characters, a question mark for any
one character, and brackets around the characters that one may be.  Inside brackets a hyphen
between two characters stands for the range from one to the other, and an exclamation mark in
front turns the set around.
-/

namespace DeploymentRecipes

/-- A part of a name pattern. -/
inductive NamePiece where
  | char (c : Char)
  | anyOne
  | anyRun
  | oneOf (negated : Bool) (ranges : List (Char × Char))

abbrev NamePattern := List NamePiece

namespace NamePattern

/-- Whether a text holds a character that starts a wildcard. -/
def isWild (s : String) : Bool := s.toList.any fun c => c = '*' || c = '?' || c = '['

/-! ### Sets in brackets -/

/-- The characters of a set up to its closing bracket, and those behind it. An exclamation mark and
then a closing bracket at the beginning belong to the set. -/
def splitSet (cs : List Char) : Option (List Char × List Char) :=
  let lead := match cs with
    | '!' :: ']' :: _ => ['!', ']']
    | '!' :: _ => ['!']
    | ']' :: _ => [']']
    | _ => []
  let rest := cs.drop lead.length
  match rest.dropWhile (· != ']') with
  | _ :: behind => some (lead ++ rest.takeWhile (· != ']'), behind)
  | [] => none

/-- The characters cut at the hyphens that may stand for a range. The first `skip` characters are
passed over, and after each such hyphen two more. The piece before is kept latest first. -/
def cutAtHyphens : List Char → Nat → List Char → List (List Char)
  | [], _, piece => [piece.reverse]
  | c :: cs, skip + 1, piece => cutAtHyphens cs skip (c :: piece)
  | c :: cs, 0, piece =>
    if c = '-' then piece.reverse :: cutAtHyphens cs 2 [] else cutAtHyphens cs 0 (c :: piece)

/-- A hyphen at the end stands for itself. -/
def closeLast : List (List Char) → List (List Char)
  | [piece, []] => [piece ++ ['-']]
  | piece :: pieces => piece :: closeLast pieces
  | [] => []

/-- Whether the end of one piece comes after the beginning of the next. -/
def isEmptyRange (piece next : List Char) : Bool :=
  match piece.getLast?, next.head? with
  | some a, some b => b < a
  | _, _ => false

/-- The pieces without the ranges that hold nothing, the last one removed first. -/
def dropEmptyRanges : List (List Char) → List (List Char)
  | [] => []
  | piece :: pieces =>
    match dropEmptyRanges pieces with
    | next :: rest =>
      if isEmptyRange piece next then (piece.dropLast ++ next.tail) :: rest
      else piece :: next :: rest
    | [] => [piece]

/-- The ranges that the pieces of a set stand for: each character, and whatever lies between the end
of a piece and the beginning of the next. -/
def rangesOf : List (List Char) → List (Char × Char)
  | [] => []
  | [piece] => piece.map fun c => (c, c)
  | piece :: next :: rest =>
    (match piece.getLast?, next.head? with
      | some a, some b => [(a, b)]
      | _, _ => [('-', '-')]) ++ piece.map (fun c => (c, c)) ++ rangesOf (next :: rest)

/-- The part of a pattern that a set is. Nothing is in the empty set. -/
def ofSet (set : List Char) : NamePiece :=
  let skip := if set.head? == some '!' then 2 else 1
  match dropEmptyRanges (closeLast (cutAtHyphens set skip [])) with
  | ('!' :: first) :: rest => .oneOf true (rangesOf (first :: rest))
  | pieces => .oneOf false (rangesOf pieces)

/-! ### Reading and matching -/

/-- The parts of a pattern; `skip` characters belong to the part before. A bracket that is not
closed stands for itself. -/
def readFrom : List Char → Nat → NamePattern
  | [], _ => []
  | _ :: cs, skip + 1 => readFrom cs skip
  | c :: cs, 0 =>
    if c = '*' then .anyRun :: readFrom cs 0
    else if c = '?' then .anyOne :: readFrom cs 0
    else if c = '[' then
      match splitSet cs with
      | some (set, _) => ofSet set :: readFrom cs (set.length + 1)
      | none => .char c :: readFrom cs 0
    else .char c :: readFrom cs 0

/-- The pattern that a text describes. -/
def ofText (s : String) : NamePattern := readFrom s.toList 0

/-- Whether a test holds of some end of the characters. -/
def anyEnd (test : List Char → Bool) : List Char → Bool
  | [] => test []
  | c :: cs => test (c :: cs) || anyEnd test cs

/-- Whether a character is in a set. -/
def isOneOf (negated : Bool) (ranges : List (Char × Char)) (c : Char) : Bool :=
  ranges.any (fun r => r.1 ≤ c && c ≤ r.2) != negated

/-- Whether the characters are as the pattern says. -/
def accepts : NamePattern → List Char → Bool
  | [], cs => cs.isEmpty
  | .anyRun :: ps, cs => anyEnd (accepts ps) cs
  | .char d :: ps, c :: cs => c = d && accepts ps cs
  | .anyOne :: ps, _ :: cs => accepts ps cs
  | .oneOf negated ranges :: ps, c :: cs => isOneOf negated ranges c && accepts ps cs
  | _ :: _, [] => false

end NamePattern
end DeploymentRecipes
