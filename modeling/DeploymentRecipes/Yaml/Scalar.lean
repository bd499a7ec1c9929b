import DeploymentRecipes.Yaml.Cursor

/-!
# Scalars of a YAML text

Readers for plain, quoted and block scalars.  Each starts at a cursor and gives the text of the
scalar and the cursor after it.  A reader takes at least one character a round, so the number of
characters of the text bounds its rounds.
-/

namespace DeploymentRecipes.Yaml

/-! ### Escapes of quoted scalars -/

/-- What a single-letter escape stands for. -/
def escapes : List (Char × Nat) := [
  ('0', 0), ('a', 7), ('b', 8), ('t', 9), ('\t', 9), ('n', 10), ('v', 11), ('f', 12), ('r', 13),
  ('e', 0x1b), (' ', 0x20), ('"', 0x22), ('\\', 0x5c), ('/', 0x2f), ('N', 0x85), ('_', 0xa0),
  ('L', 0x2028), ('P', 0x2029)]

/-- The number of hexadecimal digits after an escape letter. -/
def codeLength? : Char → Option Nat
  | 'x' => some 2
  | 'u' => some 4
  | 'U' => some 8
  | _ => none

def isHexDigit (c : Char) : Bool :=
  c.isDigit || ('a' ≤ c && c ≤ 'f') || ('A' ≤ c && c ≤ 'F')

/-- The value of hexadecimal digits. -/
def hexValue (cs : List Char) : Nat :=
  cs.foldl (fun n c => n * 16 + (Numeral.digitIn 16 c).getD 0) 0

/-- The quotation that a fault of an escape belongs to. -/
def doubleQuoted : Option Activity := some (.scanning "a double-quoted scalar")

def quotedScalar : Option Activity := some (.scanning "a quoted scalar")

/-- A code point written in digits. -/
def readCode (start : Mark) (length : Nat) (c : Cursor) : Except LoadError (Nat × Cursor) :=
  let digits := c.rest.take length
  match (digits ++ [endChar]).find? (!isHexDigit ·) with
  | some d =>
    if (digits.all isHexDigit && digits.length = length) then
      let code := hexValue digits
      if code ≥ 0x80000000 then .error (.impossible .codeSize)
      else if code > 0x10ffff then .error (.impossible .codeRange)
      else .ok (code, c.skip length)
    else faultAt doubleQuoted start
      (.unlike s!"escape sequence of {length} hexadecimal numbers" d) c.mark
  | none => .ok (0, c)

/-! ### Quoted scalars -/

/-- The line ends and the blanks at the beginning of lines inside a quoted scalar. -/
def quotedBreaks (start : Mark) : Nat → Cursor → List Char → Except LoadError (List Char × Cursor)
  | 0, c, acc => .ok (acc, c)
  | rounds + 1, c, acc =>
    if c.atSeparator then faultAt quotedScalar start .separator c.mark
    else
      let c := c.skipWhile fun d => d = ' ' || d = '\t'
      if isBreak c.peek then
        let (line, c) := c.lineBreak
        quotedBreaks start rounds c (acc ++ line)
      else .ok (acc, c)

/-- What a line end inside a scalar counts as, with the further line ends after it: a single line
feed is folded into a blank. -/
def folded (line breaks : List Char) : List Char :=
  if line ≠ ['\n'] then line ++ breaks else if breaks = [] then [' '] else breaks

/-- Blanks inside a quoted scalar, folded if a line ends there. -/
def quotedGap (rounds : Nat) (start : Mark) (c : Cursor) :
    Except LoadError (List Char × Cursor) := do
  let isGap (d : Char) : Bool := d = ' ' || d = '\t'
  let after := c.skipWhile isGap
  if after.rest.isEmpty then faultAt quotedScalar start .endOfText after.mark
  else if isBreak after.peek then
    let (line, inside) := after.lineBreak
    let (breaks, c) ← quotedBreaks start rounds inside []
    return (folded line breaks, c)
  else return (c.run isGap, after)

/-- An escape, after its backslash. -/
def readEscape (rounds : Nat) (start : Mark) (c : Cursor) : Except LoadError (List Nat × Cursor) :=
  match escapes.find? (·.1 == c.peek) with
  | some (_, code) => .ok ([code], c.next)
  | none =>
    match codeLength? c.peek with
    | some length => do
      let (code, c) ← readCode start length c.next
      return ([code], c)
    | none =>
      if isBreak c.peek then do
        let (breaks, c) ← quotedBreaks start rounds c.lineBreak.2 []
        return (breaks.map Char.toNat, c)
      else faultAt doubleQuoted start (.unknownEscape c.peek) c.mark

/-- The code points of a quoted scalar up to its closing quote, after those read before, latest
first. -/
def quotedFrom (size : Nat) (double : Bool) (start : Mark) :
    Nat → Cursor → List Nat → Except LoadError (List Nat × Cursor)
  | 0, c, acc => .ok (acc.reverse, c)
  | rounds + 1, c, acc =>
    let d := c.peek
    let quote := if double then '"' else '\''
    if d = quote then
      if !double && c.peekAt 1 = '\'' then
        quotedFrom size double start rounds (c.skip 2) (d.toNat :: acc)
      else .ok (acc.reverse, c.next)
    else if double && d = '\\' then do
      let (codes, c) ← readEscape size start c.next
      quotedFrom size double start rounds c (codes.reverse ++ acc)
    else if isGapOrEnd d then do
      let (gap, c) ← quotedGap size start c
      quotedFrom size double start rounds c ((gap.map Char.toNat).reverse ++ acc)
    else quotedFrom size double start rounds c.next (d.toNat :: acc)

/-! ### Plain scalars -/

/-- Characters that end a plain scalar inside flow collections. -/
def isFlowMark (c : Char) : Bool :=
  c = ',' || c = '?' || c = '[' || c = ']' || c = '{' || c = '}'

/-- Whether a plain scalar goes on with a character, given the one after it. -/
def staysPlain (inFlow : Bool) (c after : Char) : Bool :=
  !(isGapOrEnd c || (inFlow && isFlowMark c) ||
    (c = ':' && (isGapOrEnd after || (inFlow && after != '?' && isFlowMark after))))

/-- The stretch of a plain scalar without blanks. -/
def plainStretch (inFlow : Bool) : List Char → List Char
  | [] => []
  | c :: cs =>
    if staysPlain inFlow c (cs.head?.getD endChar) then c :: plainStretch inFlow cs else []

/-- The blanks and line ends after the first line end inside a plain scalar. There are none before
a document separator. -/
def plainBreaks : Nat → Cursor → List Char → Option (List Char) × Cursor
  | 0, c, acc => (some acc, c)
  | rounds + 1, c, acc =>
    if c.peek = ' ' then plainBreaks rounds c.next acc
    else if isBreak c.peek then
      let (line, c) := c.lineBreak
      if c.atSeparator then (none, c) else plainBreaks rounds c (acc ++ line)
    else (some acc, c)

/-- Blanks and line ends inside a plain scalar, folded; whether a line ended; and the cursor after
them. -/
def plainGap (size : Nat) (c : Cursor) : List Char × Bool × Cursor :=
  let after := c.skipWhile (· = ' ')
  if isBreak after.peek then
    let (line, c) := after.lineBreak
    if c.atSeparator then ([], true, c)
    else match plainBreaks size c [] with
      | (some breaks, c) => (folded line breaks, true, c)
      | (none, c) => ([], true, c)
  else (c.run (· = ' '), false, after)

/-- A plain scalar that has been read. `ended` is the place after its last character and `broken`
tells that a line ended after it. -/
structure PlainText where
  text : List Char
  ended : Mark
  broken : Bool
  cursor : Cursor

/-- A plain scalar, after the text so far; `gap` has come between that and the cursor. -/
def plainFrom (size : Nat) (inFlow : Bool) (indent : Int) :
    Nat → PlainText → List Char → PlainText
  | 0, done, _ => done
  | rounds + 1, done, gap =>
    let c := done.cursor
    if c.peek = '#' then done
    else match plainStretch inFlow c.rest with
      | [] => done
      | stretch =>
        let after := c.skip stretch.length
        let (nextGap, broken, next) := plainGap size after
        let done : PlainText := ⟨done.text ++ gap ++ stretch, after.mark, broken, next⟩
        if nextGap.isEmpty || next.peek = '#' || (!inFlow && (next.mark.column : Int) < indent) then
          done
        else plainFrom size inFlow indent rounds done nextGap

/-- The plain scalar at a cursor. -/
def readPlain (size : Nat) (inFlow : Bool) (indent : Int) (c : Cursor) : PlainText :=
  plainFrom size inFlow indent size ⟨[], c.mark, false, c⟩ []

/-! ### Block scalars -/

/-- What happens to the line ends at the end of a block scalar. -/
inductive Chomping where
  | clip
  | strip
  | keep
  deriving DecidableEq

def blockScalar : Option Activity := some (.scanning "a block scalar")

/-- The chomping that an indicator asks for. -/
def chompingOf? : Char → Option Chomping
  | '+' => some .keep
  | '-' => some .strip
  | _ => none

/-- An indentation indicator, if one comes next. -/
def readIncrement (start : Mark) (c : Cursor) : Except LoadError (Option Nat × Cursor) :=
  if c.peek = '0' then faultAt blockScalar start .zeroIndentation c.mark
  else if c.peek.isDigit then .ok (some (c.peek.toNat - '0'.toNat), c.next)
  else .ok (none, c)

/-- The chomping and the indentation that the first line of a block scalar asks for. -/
def blockHeader (start : Mark) (c : Cursor) :
    Except LoadError (Chomping × Option Nat × Cursor) := do
  let (chomping, increment, c) ← match chompingOf? c.peek with
    | some chomping => do
      let (increment, c) ← readIncrement start c.next
      pure (chomping, increment, c)
    | none => do
      let (increment, c) ← readIncrement start c
      match increment, chompingOf? c.peek with
      | some _, some chomping => pure (chomping, increment, c.next)
      | _, _ => pure (.clip, increment, c)
  if isSpaceOrEnd c.peek then return (chomping, increment, c)
  else faultAt blockScalar start (.unlike "chomping or indentation indicators" c.peek) c.mark

/-- The rest of a line that may only hold a comment. -/
def restOfLine (activity : Option Activity) (start : Mark) (c : Cursor) :
    Except LoadError Cursor :=
  let c := (c.skipWhile (· = ' ')).skipComment
  if isBreakOrEnd c.peek then .ok c.lineBreak.2
  else faultAt activity start (.unlike "a comment or a line break" c.peek) c.mark

/-- Empty lines before the first line of a block scalar: the line ends, the greatest indentation,
and the cursor after them. -/
def leadingLines : Nat → Cursor → List Char → Nat → List Char × Nat × Cursor
  | 0, c, breaks, widest => (breaks, widest, c)
  | rounds + 1, c, breaks, widest =>
    if c.peek = ' ' then leadingLines rounds c.next breaks (max widest c.next.mark.column)
    else if isBreak c.peek then
      let (line, c) := c.lineBreak
      leadingLines rounds c (breaks ++ line) widest
    else (breaks, widest, c)

/-- The cursor after blanks up to a column. -/
def indentTo (column : Nat) : Nat → Cursor → Cursor
  | 0, c => c
  | rounds + 1, c =>
    if c.mark.column < column && c.peek = ' ' then indentTo column rounds c.next else c

/-- Empty lines inside a block scalar, and the indentation of the line after them. -/
def blockBreaks (column : Nat) : Nat → Cursor → List Char → List Char × Cursor
  | 0, c, acc => (acc, c)
  | rounds + 1, c, acc =>
    let c := indentTo column column c
    if isBreak c.peek then
      let (line, c) := c.lineBreak
      blockBreaks column rounds c (acc ++ line)
    else (acc, c)

/-- The lines of a block scalar from the cursor on, after the text so far. `breaks` are the empty
lines before the cursor. Gives the text, the last line end and the empty lines after it. -/
def blockLines (size : Nat) (fold : Bool) (column : Nat) :
    Nat → Cursor → List Char → List Char → List Char →
      List Char × List Char × List Char × Cursor
  | 0, c, text, line, breaks => (text, line, breaks, c)
  | rounds + 1, c, text, line, breaks =>
    if c.mark.column = column && !c.rest.isEmpty then
      let isSolid (d : Char) : Bool := d != ' ' && d != '\t'
      let words := c.run fun d => !isBreakOrEnd d
      let (line', after) := (c.skip words.length).lineBreak
      let (breaks', next) := blockBreaks column size after []
      let text := text ++ breaks ++ words
      if next.mark.column = column && !next.rest.isEmpty then
        let joint :=
          if fold && line' = ['\n'] && isSolid c.peek && isSolid next.peek then
            (if breaks'.isEmpty then [' '] else [])
          else line'
        blockLines size fold column rounds next (text ++ joint) line' breaks'
      else (text, line', breaks', next)
    else (text, line, breaks, c)

/-- A block scalar, after its indicator, inside a block of the given indentation. -/
def readBlock (size : Nat) (fold : Bool) (indent : Int) (start : Mark) (c : Cursor) :
    Except LoadError (List Char × Cursor) := do
  let (chomping, increment, c) ← blockHeader start c
  let c ← restOfLine blockScalar start c
  let least := max 1 (indent + 1).toNat
  let (column, breaks, c) := match increment with
    | none =>
      let (breaks, widest, c) := leadingLines size c [] 0
      (max least widest, breaks, c)
    | some increment =>
      let column := least + increment - 1
      let (breaks, c) := blockBreaks column size c []
      (column, breaks, c)
  let (text, line, rest, c) := blockLines size fold column size c [] [] breaks
  let tail := match chomping with
    | .strip => []
    | .clip => line
    | .keep => line ++ rest
  return (text ++ tail, c)

end DeploymentRecipes.Yaml
