import DeploymentRecipes.Yaml.Fault

/-!
# Positions in a YAML text

A cursor is the rest of a text together with the place where it starts.  The end of the text reads
as the null character, which no text holds.
-/

namespace DeploymentRecipes.Yaml

structure Cursor where
  rest : List Char
  mark : Mark

/-- A character that ends a line. -/
def isBreak (c : Char) : Bool := c = '\n' || c = '\r' || c = '\x85' || c = '\u2028' || c = '\u2029'

def endChar : Char := '\x00'

/-- A line end or the end of the text. -/
def isBreakOrEnd (c : Char) : Bool := c = endChar || isBreak c

/-- A blank, a line end or the end of the text. -/
def isSpaceOrEnd (c : Char) : Bool := c = ' ' || isBreakOrEnd c

/-- A blank, a tab, a line end or the end of the text. -/
def isGapOrEnd (c : Char) : Bool := c = '\t' || isSpaceOrEnd c

/-- The place after a character. -/
def Mark.after (m : Mark) (c : Char) (next : Option Char) : Mark :=
  if c = '\n' || c = '\x85' || c = '\u2028' || c = '\u2029' || (c = '\r' && next != some '\n') then
    ⟨m.index + 1, m.line + 1, 0⟩
  else ⟨m.index + 1, m.line, if c = '\ufeff' then m.column else m.column + 1⟩

namespace Cursor

def ofText (cs : List Char) : Cursor := ⟨cs, ⟨0, 0, 0⟩⟩

/-- The next character. -/
def peek (c : Cursor) : Char := c.rest.head?.getD endChar

/-- The character after `n` others. -/
def peekAt (c : Cursor) (n : Nat) : Char := (c.rest[n]?).getD endChar

/-- The cursor after one character. -/
def next (c : Cursor) : Cursor :=
  match c.rest with
  | [] => c
  | d :: ds => ⟨ds, c.mark.after d ds.head?⟩

/-- The cursor after `n` characters. -/
def skip : Nat → Cursor → Cursor
  | 0, c => c
  | n + 1, c => skip n c.next

/-- The cursor after all characters of a class, from the given text and place on. -/
def skipRun (p : Char → Bool) : List Char → Mark → Cursor
  | [], m => ⟨[], m⟩
  | d :: ds, m => if p d then skipRun p ds (m.after d ds.head?) else ⟨d :: ds, m⟩

/-- The cursor after all characters of a class. -/
def skipWhile (p : Char → Bool) (c : Cursor) : Cursor := skipRun p c.rest c.mark

/-- The characters of a class that come next. -/
def run (p : Char → Bool) (c : Cursor) : List Char := c.rest.takeWhile p

/-- A line end that comes next, as it is kept in a value, and the cursor after it. -/
def lineBreak (c : Cursor) : List Char × Cursor :=
  match c.rest with
  | '\r' :: '\n' :: _ => (['\n'], c.skip 2)
  | d :: _ =>
    if d = '\u2028' || d = '\u2029' then ([d], c.next)
    else if isBreak d then (['\n'], c.next)
    else ([], c)
  | [] => ([], c)

/-- Whether a document separator made of the given character comes next. -/
def isSeparator (mark : Char) (c : Cursor) : Bool :=
  c.rest.take 3 == [mark, mark, mark] && isGapOrEnd (c.peekAt 3)

/-- Whether a document separator of either kind comes next. -/
def atSeparator (c : Cursor) : Bool := c.isSeparator '-' || c.isSeparator '.'

/-- The cursor after a comment, if one comes next. -/
def skipComment (c : Cursor) : Cursor :=
  if c.peek = '#' then c.skipWhile fun d => !isBreakOrEnd d else c

end Cursor
end DeploymentRecipes.Yaml
