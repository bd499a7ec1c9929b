import DeploymentRecipes.Yaml.Property
import DeploymentRecipes.Yaml.Source

/-!
# YAML tokens

A YAML text is cut into tokens from left to right.  Indentation opens and closes blocks, and a
token that turns out to be the key of a mapping only when its colon comes has the mark of a key put
in front of it afterwards.  `Token.ofSource` gives all tokens up to the end of the text or to the
first place that is wrong; in the second case it gives only those that can be relied on there: a
token that may still turn out to be a key is held back with all that follow it.  Where a text cannot
be read on, a step that gets to the end of what can be read runs into the obstacle there.
-/

namespace DeploymentRecipes.Yaml

/-- A token. The text of a scalar is a list of code points, which may be halves of surrogate
pairs. -/
inductive Token where
  | streamEnd
  | directive (d : Directive)
  | documentStart
  | documentEnd
  | blockSequenceStart
  | blockMappingStart
  | blockEnd
  | flowSequenceStart
  | flowMappingStart
  | flowSequenceEnd
  | flowMappingEnd
  | flowEntry
  | blockEntry
  | key
  | value
  | alias (name : String)
  | anchor (name : String)
  | tag (t : TagText)
  | scalar (codes : List Nat) (plain : Bool)

/-- The name of a kind of token in messages. -/
def Token.id : Token → String
  | .streamEnd => "<stream end>"
  | .directive _ => "<directive>"
  | .documentStart => "<document start>"
  | .documentEnd => "<document end>"
  | .blockSequenceStart => "<block sequence start>"
  | .blockMappingStart => "<block mapping start>"
  | .blockEnd => "<block end>"
  | .flowSequenceStart => "["
  | .flowMappingStart => r"{"
  | .flowSequenceEnd => "]"
  | .flowMappingEnd => r"}"
  | .flowEntry => ","
  | .blockEntry => "-"
  | .key => "?"
  | .value => ":"
  | .alias _ => "<alias>"
  | .anchor _ => "<anchor>"
  | .tag _ => "<tag>"
  | .scalar _ _ => "<scalar>"

/-- A token with the places where it starts and ends. -/
structure Lexeme where
  token : Token
  start : Mark
  stop : Mark

/-- A place where a key may have begun: the number of its token, whether it has to be a key, and
where it stands. -/
structure PendingKey where
  number : Nat
  required : Bool
  mark : Mark

/-- The state of the cut. Tokens are listed latest first; `pending` has at most one key for each
level of flow collections, in the order in which they came up. -/
structure Cut where
  cursor : Cursor
  flow : Int
  indent : Int
  indents : List Int
  allowKey : Bool
  pending : List (Int × PendingKey)
  tokens : List Lexeme
  count : Nat
  done : Bool

namespace Cut

def start (cs : List Char) : Cut := ⟨.ofText cs, 0, -1, [], true, [], [], 0, false⟩

def column (s : Cut) : Int := s.cursor.mark.column

/-- Whether the cut is in block context. -/
def inBlock (s : Cut) : Bool := s.flow == 0

/-- The cut with one more token between two places. -/
def push (s : Cut) (t : Token) (start stop : Mark) : Cut :=
  { s with tokens := ⟨t, start, stop⟩ :: s.tokens, count := s.count + 1 }

/-- The cut with one more token of no width at the cursor. -/
def pushHere (s : Cut) (t : Token) : Cut := s.push t s.cursor.mark s.cursor.mark

/-- The cut with one more token from the cursor over `n` characters. -/
def pushOver (s : Cut) (t : Token) (n : Nat) : Cut :=
  let next := s.cursor.skip n
  { s.push t s.cursor.mark next.mark with cursor := next }

/-- The cut with a token put in front of the one with the given number. -/
def putBefore (s : Cut) (number : Nat) (t : Token) (mark : Mark) : Cut :=
  let later := s.count - number
  { s with
    tokens := s.tokens.take later ++ ⟨t, mark, mark⟩ :: s.tokens.drop later
    count := s.count + 1 }

/-! ### Keys that may have begun -/

/-- A key that had to be one and is none. -/
def missingColon {α : Type} (key : PendingKey) (s : Cut) : Except LoadError α :=
  faultAt (some (.scanning "a simple key")) key.mark .missingColon s.cursor.mark

/-- Whether a pending key is out of reach: on another line, or too far back. -/
def isStale (s : Cut) (key : PendingKey) : Bool :=
  key.mark.line != s.cursor.mark.line || s.cursor.mark.index - key.mark.index > 1024

/-- Drops pending keys that are out of reach. -/
def dropStale (s : Cut) : Except LoadError Cut :=
  match s.pending.find? fun p => s.isStale p.2 && p.2.required with
  | some (_, key) => s.missingColon key
  | none => .ok { s with pending := s.pending.filter fun p => !s.isStale p.2 }

/-- Drops the pending key of the current level. -/
def dropKey (s : Cut) : Except LoadError Cut :=
  match s.pending.find? (·.1 == s.flow) with
  | some (_, key) =>
    if key.required then s.missingColon key
    else .ok { s with pending := s.pending.filter (·.1 != s.flow) }
  | none => .ok s

/-- Notes that a key may begin at the cursor. -/
def saveKey (s : Cut) : Except LoadError Cut :=
  if s.allowKey then do
    let required := s.inBlock && s.indent == s.column
    let key : PendingKey := ⟨s.count, required, s.cursor.mark⟩
    let s ← s.dropKey
    return { s with pending := s.pending ++ [(s.flow, key)] }
  else .ok s

/-- The number of tokens that can be relied on: those before the first pending key. -/
def released (s : Cut) : Nat := s.pending.foldl (fun n p => min n p.2.number) s.count

/-! ### Indentation -/

/-- Closes the blocks that are indented deeper than a column. -/
def unwindFrom (s : Cut) (column : Int) : List Int → Cut
  | [] => s
  | outer :: rest =>
    if s.indent > column then
      unwindFrom { s.pushHere .blockEnd with indent := outer, indents := rest } column rest
    else s

/-- Closes the blocks that are indented deeper than a column; there are none inside flow
collections. -/
def unwind (s : Cut) (column : Int) : Cut :=
  if s.inBlock then s.unwindFrom column s.indents else s

/-- Opens a block at a column if it is deeper than the current one. -/
def addIndent (s : Cut) (column : Int) : Option Cut :=
  if s.indent < column then some { s with indents := s.indent :: s.indents, indent := column }
  else none

/-! ### One token -/

def endStream (s : Cut) : Except LoadError Cut := do
  let s ← (s.unwind (-1)).dropKey
  return { s.pushHere .streamEnd with allowKey := false, pending := [], done := true }

/-- A directive or document mark ends all blocks. -/
def outermost (s : Cut) : Except LoadError Cut := do
  let s ← (s.unwind (-1)).dropKey
  return { s with allowKey := false }

def takeDirective (size : Nat) (s : Cut) : Except LoadError Cut := do
  let s ← s.outermost
  let (d, stop, next) ← readDirective size s.cursor
  return { s.push (.directive d) s.cursor.mark stop with cursor := next }

def takeDocumentMark (t : Token) (s : Cut) : Except LoadError Cut := do
  return (← s.outermost).pushOver t 3

def takeFlowStart (t : Token) (s : Cut) : Except LoadError Cut := do
  let s ← s.saveKey
  return { s.pushOver t 1 with flow := s.flow + 1, allowKey := true }

def takeFlowEnd (t : Token) (s : Cut) : Except LoadError Cut := do
  let s ← s.dropKey
  return { s.pushOver t 1 with flow := s.flow - 1, allowKey := false }

def takeFlowEntry (s : Cut) : Except LoadError Cut := do
  let s ← ({ s with allowKey := true }).dropKey
  return s.pushOver .flowEntry 1

/-- Opens a block for an entry, key or value at the cursor, where one may stand. -/
def openBlock (what : String) (t : Token) (s : Cut) : Except LoadError Cut :=
  if !s.inBlock then .ok s
  else if !s.allowKey then faultAt none none (.notAllowed what) s.cursor.mark
  else .ok ((s.addIndent s.column).elim s fun opened => opened.pushHere t)

def takeBlockEntry (s : Cut) : Except LoadError Cut := do
  let s ← s.openBlock "sequence entries" .blockSequenceStart
  let s ← ({ s with allowKey := true }).dropKey
  return s.pushOver .blockEntry 1

def takeKey (s : Cut) : Except LoadError Cut := do
  let s ← s.openBlock "mapping keys" .blockMappingStart
  let s ← ({ s with allowKey := s.inBlock }).dropKey
  return s.pushOver .key 1

/-- The colon after a key that has begun without a mark. -/
def completeKey (s : Cut) (key : PendingKey) : Cut :=
  let s := { s with pending := s.pending.filter (·.1 != s.flow), allowKey := false }
  let s := s.putBefore key.number .key key.mark
  let opened := if s.inBlock then s.addIndent key.mark.column else none
  opened.elim s fun s => s.putBefore key.number .blockMappingStart key.mark

def takeValue (s : Cut) : Except LoadError Cut :=
  match s.pending.find? (·.1 == s.flow) with
  | some (_, key) => .ok ((s.completeKey key).pushOver .value 1)
  | none => do
    let s ← s.openBlock "mapping values" .blockMappingStart
    let s ← ({ s with allowKey := s.inBlock }).dropKey
    return s.pushOver .value 1

/-- A token that may begin a key, read by the given reader. -/
def takeWord (read : Cursor → Except LoadError (Token × Cursor)) (s : Cut) :
    Except LoadError Cut := do
  let s ← s.saveKey
  let (t, next) ← read s.cursor
  return { s.push t s.cursor.mark next.mark with cursor := next, allowKey := false }

def takeBlockScalar (size : Nat) (fold : Bool) (s : Cut) : Except LoadError Cut := do
  let s ← ({ s with allowKey := true }).dropKey
  let (text, next) ← readBlock size fold s.indent s.cursor.mark s.cursor.next
  return { s.push (.scalar (text.map Char.toNat) false) s.cursor.mark next.mark with
    cursor := next }

def takePlain (size : Nat) (s : Cut) : Except LoadError Cut := do
  let s ← s.saveKey
  let p := readPlain size (!s.inBlock) (s.indent + 1) s.cursor
  return { s.push (.scalar (p.text.map Char.toNat) true) s.cursor.mark p.ended with
    cursor := p.cursor, allowKey := p.broken }

/-- A quoted scalar. -/
def readQuoted (size : Nat) (double : Bool) (c : Cursor) : Except LoadError (Token × Cursor) := do
  let (codes, next) ← quotedFrom size double c.mark size c.next []
  return (.scalar codes false, next)

/-- An anchor or alias. -/
def readName (what : String) (make : String → Token) (c : Cursor) :
    Except LoadError (Token × Cursor) := do
  let (name, next) ← readAnchor what c
  return (make name, next)

/-- Whether a plain scalar may begin at the cursor. -/
def beginsPlain (s : Cut) : Bool :=
  let c := s.cursor.peek
  !(isGapOrEnd c || "-?:,[]{}#&*!|>'\"%@`".toList.contains c) ||
    (!isGapOrEnd (s.cursor.peekAt 1) && (c = '-' || (s.inBlock && (c = '?' || c = ':'))))

/-- Whether the character at the cursor stands alone, as marks of a block have to. -/
def standsAlone (s : Cut) : Bool := isGapOrEnd (s.cursor.peekAt 1)

/-- The token at the cursor. -/
def takeToken (size : Nat) (s : Cut) : Except LoadError Cut :=
  let c := s.cursor
  let atMargin := c.mark.column = 0
  match c.rest with
  | [] => s.endStream
  | d :: _ =>
    if d = '%' && atMargin then s.takeDirective size
    else if atMargin && c.isSeparator '-' then s.takeDocumentMark .documentStart
    else if atMargin && c.isSeparator '.' then s.takeDocumentMark .documentEnd
    else if d = '[' then s.takeFlowStart .flowSequenceStart
    else if d = '{' then s.takeFlowStart .flowMappingStart
    else if d = ']' then s.takeFlowEnd .flowSequenceEnd
    else if d = '}' then s.takeFlowEnd .flowMappingEnd
    else if d = ',' then s.takeFlowEntry
    else if d = '-' && s.standsAlone then s.takeBlockEntry
    else if d = '?' && (!s.inBlock || s.standsAlone) then s.takeKey
    else if d = ':' && (!s.inBlock || s.standsAlone) then s.takeValue
    else if d = '*' then s.takeWord (readName "an alias" .alias)
    else if d = '&' then s.takeWord (readName "an anchor" .anchor)
    else if d = '!' then s.takeWord fun c => do
      let (t, next) ← readTag size c
      return (.tag t, next)
    else if d = '|' && s.inBlock then s.takeBlockScalar size false
    else if d = '>' && s.inBlock then s.takeBlockScalar size true
    else if d = '\'' then s.takeWord (readQuoted size false)
    else if d = '"' then s.takeWord (readQuoted size true)
    else if s.beginsPlain then s.takePlain size
    else .error (.fault ⟨some (.scanning "for the next token"), none, .noToken d, c.mark⟩)

/-! ### All tokens -/

/-- Skips blanks, comments and line ends before a token. A line end in block context allows a
key. -/
def skipGaps : Nat → Cut → Cut
  | 0, s => s
  | rounds + 1, s =>
    let c := (s.cursor.skipWhile (· = ' ')).skipComment
    if isBreak c.peek then
      skipGaps rounds { s with cursor := c.lineBreak.2, allowKey := s.allowKey || s.inBlock }
    else { s with cursor := c }

/-- Skips a byte order mark at the very beginning. -/
def skipMark (s : Cut) : Cut :=
  if s.cursor.mark.index = 0 && s.cursor.peek = '\ufeff' then { s with cursor := s.cursor.next }
  else s

/-- One more token, and perhaps marks before it. -/
def advance (size : Nat) (s : Cut) : Except LoadError Cut := do
  let s ← (s.skipMark.skipGaps size).dropStale
  let s ← (s.unwind s.column).takeToken size
  if s.done then return s else s.dropStale

/-- The outcome of a step. One that gets to the end of the text runs into an obstacle there. -/
def meet (obstacle : Option LoadError) (size : Nat) (outcome : Except LoadError Cut) :
    Except LoadError Cut :=
  match obstacle, outcome with
  | none, _ => outcome
  | some e, .ok s => if s.cursor.rest.isEmpty then .error e else .ok s
  | some e, .error found => .error (if found.showsEnd size then e else found)

/-- The tokens that can be relied on, and the error that ends them. -/
def run (obstacle : Option LoadError) (size : Nat) : Nat → Cut → List Lexeme × Option LoadError
  | 0, s => (s.tokens.reverse, none)
  | rounds + 1, s =>
    match meet obstacle size (s.advance (size + 1)) with
    | .error e => ((s.tokens.drop (s.count - s.released)).reverse, some e)
    | .ok s => if s.done then (s.tokens.reverse, none) else run obstacle size rounds s

end Cut

/-- The tokens of a text, and the error that ends them if they do not reach its end. -/
def Token.ofSource (source : Source) : List Lexeme × Option LoadError :=
  let size := source.chars.length
  Cut.run source.obstacle size (size + 2) (.start source.chars)

end DeploymentRecipes.Yaml
