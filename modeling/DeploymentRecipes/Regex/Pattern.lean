import DeploymentRecipes.Text.CodePoints
import DeploymentRecipes.Text.LetterCase

/-!
# Patterns

Patterns over texts: characters and classes of characters, positions, alternatives, repetitions,
groups with references to them, and conditions on what stands before or after.  Every part carries
the options in force where it was written.  Characters are given by their code points, which may be
halves of surrogate pairs.
-/

namespace DeploymentRecipes.Regex

/-- Classes of characters with a name. -/
inductive Category where
  | digit
  | space
  | word
  deriving DecidableEq

/-- How letters and named classes are compared. -/
structure Options where
  ignoreCase : Bool
  asciiOnly : Bool
  deriving DecidableEq

/-- A member of a class in brackets. -/
inductive ClassItem where
  | one (c : Nat)
  | range (lo hi : Nat)
  | category (negated : Bool) (category : Category)
  deriving DecidableEq

/-- Positions in a text. -/
inductive Anchor where
  | textStart
  | textEnd
  | lastLineEnd
  | lineStart
  | lineEnd
  | wordEdge (negated : Bool)
  deriving DecidableEq

/-- How a repetition chooses among the counts that fit. -/
inductive Greed where
  | most
  | fewest
  | atomic
  deriving DecidableEq

/-- A pattern. `scoped` is a part that was written with options of its own. -/
inductive Pattern where
  | empty
  | char (c : Nat) (opts : Options)
  | notChar (c : Nat) (opts : Options)
  | any (lineEnds : Bool)
  | set (negated : Bool) (items : List ClassItem) (opts : Options)
  | category (negated : Bool) (category : Category) (opts : Options)
  | anchor (a : Anchor) (opts : Options)
  | seq (p q : Pattern)
  | alt (p q : Pattern)
  | repeated (greed : Greed) (least : Nat) (most : Option Nat) (p : Pattern)
  | group (index : Nat) (p : Pattern)
  | reference (index : Nat) (width : Nat × Nat) (opts : Options)
  | ahead (negated : Bool) (p : Pattern)
  | behind (negated : Bool) (width : Nat) (p : Pattern)
  | atomic (p : Pattern)
  | scoped (p : Pattern)
  | conditional (index : Nat) (yes no : Pattern)
  deriving DecidableEq

/-- A bound beyond all lengths of texts. -/
def widthCap : Nat := 0x10000000000000000

/-- The least and the greatest number of characters that a pattern matches, up to `widthCap`. -/
def Pattern.width : Pattern → Nat × Nat
  | .empty => (0, 0)
  | .char _ _ | .notChar _ _ | .any _ | .set _ _ _ | .category _ _ _ => (1, 1)
  | .anchor _ _ | .ahead _ _ | .behind _ _ _ => (0, 0)
  | .seq p q => capped (p.width.1 + q.width.1) (p.width.2 + q.width.2)
  | .alt p q => (min p.width.1 q.width.1, max p.width.2 q.width.2)
  | .repeated _ least most p =>
    capped (p.width.1 * least) (match most with
      | some m => p.width.2 * m
      | none => if p.width.2 = 0 then 0 else widthCap)
  | .group _ p | .atomic p | .scoped p => p.width
  | .reference _ width _ => width
  | .conditional _ yes no => (min yes.width.1 no.width.1, max yes.width.2 no.width.2)
where
  capped (lo hi : Nat) : Nat × Nat := (min lo widthCap, min hi widthCap)

/-! ### Single characters -/

/-- Whether a character belongs to a named class. -/
def Category.contains (asciiOnly : Bool) (code : Nat) (cat : Category) : Bool :=
  let c := Text.charOfCode code
  match cat with
  | .digit => if asciiOnly then c.isDigit else Text.isDigit c
  | .space => if asciiOnly then [' ', '\t', '\n', '\r', '\x0b', '\x0c'].contains c
      else Text.isBlank c
  | .word => if asciiOnly then c.isAlphanum || c == '_' else Text.isWord c

/-- The lower-case form of an ASCII letter; other characters stay. -/
def asciiLower (c : Nat) : Nat := if 0x41 ≤ c && c ≤ 0x5a then c + 32 else c

/-- The upper-case form of an ASCII letter; other characters stay. -/
def asciiUpper (c : Nat) : Nat := if 0x61 ≤ c && c ≤ 0x7a then c - 32 else c

/-- The characters that count as `c`. -/
def Options.variants (opts : Options) (c : Nat) : List Nat :=
  if !opts.ignoreCase then [c]
  else if opts.asciiOnly then [c, asciiLower c, asciiUpper c]
  else c :: Text.letterVariants c

/-- Whether the character `c` of a text fits the character `d` of a pattern. -/
def Options.fits (opts : Options) (c d : Nat) : Bool :=
  if !opts.ignoreCase then c == d
  else if opts.asciiOnly then asciiLower c == asciiLower d
  else Text.sameLetter c d

/-- Whether the character `c` of a text repeats the character `d` of a group. Here only the
lower-case forms count. -/
def Options.repeats (opts : Options) (c d : Nat) : Bool :=
  if !opts.ignoreCase then c == d
  else if opts.asciiOnly then asciiLower c == asciiLower d
  else Text.lowerCode c == Text.lowerCode d

/-- Whether the character `c` of a text fits the character `d` of a class. When the case of letters
does not count, a character beyond the basic plane is only found if it has no lower-case form. -/
def Options.fitsInClass (opts : Options) (c d : Nat) : Bool :=
  if opts.ignoreCase && !opts.asciiOnly && d ≥ 0x10000 then Text.lowerCode c == d else opts.fits c d

def ClassItem.contains (opts : Options) (c : Nat) : ClassItem → Bool
  | .one d => opts.fitsInClass c d
  | .range lo hi => (opts.variants c).any fun n => lo ≤ n && n ≤ hi
  | .category negated cat => cat.contains opts.asciiOnly c != negated

/-! ### Alternatives -/

/-- The parts of a pattern that is a sequence. -/
def Pattern.parts : Pattern → List Pattern
  | .empty => []
  | .seq p q => p.parts ++ q.parts
  | p => [p]

/-- Whether a pattern has no parts of its own. -/
def Pattern.isPlain : Pattern → Bool
  | .char _ _ | .notChar _ _ | .any _ | .set _ _ _ | .category _ _ _ | .anchor _ _ |
    .reference _ _ _ => true
  | _ => false

/-- The plain parts that all alternatives start with, given the first alternative and the others,
and what remains of each. -/
def splitLead : List Pattern → List (List Pattern) → List Pattern × List (List Pattern)
  | [], others => ([], [] :: others)
  | p :: ps, others =>
    if p.isPlain && others.all (·.head? == some p) then
      let (lead, rests) := splitLead ps (others.map List.tail)
      (p :: lead, rests)
    else ([], (p :: ps) :: others)

/-- The class that an alternative of one character amounts to, with its options. -/
def classOf? : List Pattern → Option (List ClassItem × Options)
  | [.char c opts] => some ([.one c], opts)
  | [.set false items opts] => some (items, opts)
  | [.category negated cat opts] => some ([.category negated cat], opts)
  | _ => none

/-- The parts of a sequence as one pattern. -/
def ofParts (parts : List Pattern) : Pattern := parts.foldr .seq .empty

/-- Alternatives as one pattern. What all start with is taken out, and alternatives of one character
each are put together in a class. -/
def ofAlternatives : List Pattern → Pattern
  | [] => .empty
  | [p] => p
  | p :: ps =>
    let (lead, rests) := splitLead p.parts (ps.map Pattern.parts)
    let choice := match rests.mapM classOf? with
      | some ((items, opts) :: more) => .set false (items ++ more.flatMap (·.1)) opts
      | _ => (rests.dropLast.map ofParts).foldr .alt (ofParts (rests.getLastD []))
    ofParts (lead ++ [choice])

/-! ### Patterns that can be used -/

/-- Whether a pattern repeats a part. -/
def Pattern.repeats : Pattern → Bool
  | .empty | .char _ _ | .notChar _ _ | .any _ | .set _ _ _ | .category _ _ _ | .anchor _ _ |
    .reference _ _ _ => false
  | .repeated _ _ _ _ => true
  | .seq p q | .alt p q | .conditional _ p q => p.repeats || q.repeats
  | .group _ p | .ahead _ p | .behind _ _ p | .atomic p | .scoped p => p.repeats

/-- Whether everything that a pattern looks for behind a place has one width, which is not too
great. -/
def Pattern.looksBehindSoundly : Pattern → Bool
  | .empty | .char _ _ | .notChar _ _ | .any _ | .set _ _ _ | .category _ _ _ | .anchor _ _ |
    .reference _ _ _ => true
  | .behind _ _ p => p.width.1 == p.width.2 && p.width.1 < 0x100000000 && p.looksBehindSoundly
  | .seq p q | .alt p q | .conditional _ p q => p.looksBehindSoundly && q.looksBehindSoundly
  | .repeated _ _ _ p | .group _ p | .ahead _ p | .atomic p | .scoped p => p.looksBehindSoundly

end DeploymentRecipes.Regex
