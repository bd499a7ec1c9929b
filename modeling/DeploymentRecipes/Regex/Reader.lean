import DeploymentRecipes.Regex.CharacterName
import DeploymentRecipes.Regex.Pattern
import DeploymentRecipes.Text.Name
import DeploymentRecipes.Value.Conversion

/-!
# Written patterns

`Pattern.read` reads the usual notation of patterns: `[a-z]`, `(?:…)`, `a{2,3}?`, `\d` and so on.
A backslash and the character after it are one piece of the notation.  Reading keeps the groups
opened so far with their names and widths, since a reference may name closed groups only, and the
options in force.  What a pattern looks for behind a place is checked once the whole pattern is read.
-/

namespace DeploymentRecipes.Regex

/-- What is wrong with a written pattern: it is malformed, a count is too large or has too many
digits, a character has too great a number, or letters are to be those of ASCII and of all scripts. -/
inductive Fault where
  | malformed
  | countTooLarge
  | longCount (digits : Nat)
  | codeTooLarge
  | twoAlphabets
  deriving DecidableEq

/-- The wording of a fault. A malformed pattern has none. -/
def Fault.message : Fault → String
  | .malformed => ""
  | .countTooLarge => "the repetition number is too large"
  | .longCount digits => ConversionError.digitsMessage (some digits)
  | .codeTooLarge => "Python int too large to convert to C int"
  | .twoAlphabets => "ASCII and UNICODE flags are incompatible"

/-- A piece of the notation. A backslash that comes last is dangling. -/
inductive Piece where
  | plain (c : Char)
  | escaped (c : Char)
  | dangling
  deriving DecidableEq

/-- The pieces of a written pattern. -/
def pieces : List Char → List Piece
  | [] => []
  | '\\' :: c :: cs => .escaped c :: pieces cs
  | ['\\'] => [.dangling]
  | c :: cs => .plain c :: pieces cs

/-- The characters of a piece. -/
def Piece.chars : Piece → List Char
  | .plain c => [c]
  | .escaped c => ['\\', c]
  | .dangling => ['\\']

/-- The options that a pattern may switch on and off. -/
structure Switches where
  ignoreCase : Bool
  multiline : Bool
  lineEnds : Bool
  spaced : Bool
  asciiOnly : Bool
  allScripts : Bool
  unrepeated : Bool

def Switches.none : Switches := ⟨false, false, false, false, false, false, false⟩

def Switches.options (s : Switches) : Options := ⟨s.ignoreCase, s.asciiOnly⟩

/-- The state of reading. `widths` lists the groups from the first one on, without a width while
they are open, and `groups` those with names; inside a look behind, `behindFrom` is the number of
groups before it. -/
structure Progress where
  rest : List Piece
  widths : List (Option (Nat × Nat))
  groups : List (String × Nat)
  behindFrom : Option Nat
  conditions : List Nat
  switches : Switches
  names : CharacterNames

/-- The start of reading. -/
def Progress.start (names : CharacterNames) (rest : List Piece) : Progress :=
  ⟨rest, [], [], none, [], .none, names⟩

abbrev Read := StateT Progress (Except Fault)

namespace Read

def refuse {α : Type} : Read α := throw .malformed

/-- The next piece, left in place. -/
def peek : Read (Option Piece) := do return (← get).rest.head?

/-- The next piece, taken. A dangling backslash is found as soon as it comes next. -/
def next : Read (Option Piece) := do
  let s ← get
  if s.rest.tail.head? = some .dangling then refuse
  set { s with rest := s.rest.tail }
  return s.rest.head?

/-- Takes the next piece if it is the given character. -/
def accept (c : Char) : Read Bool := do
  if (← peek) = some (.plain c) then
    let _ ← next
    return true
  else return false

/-- Takes pieces while they are characters that pass the test, at most `limit` of them. -/
def takeWhile (test : Char → Bool) : Nat → Read (List Char)
  | 0 => return []
  | limit + 1 => do
    match ← peek with
    | some (.plain c) =>
      if test c then
        let _ ← next
        return c :: (← takeWhile test limit)
      else return []
    | _ => return []

/-- The number of pieces left. -/
def left : Read Nat := do return (← get).rest.length

/-- The characters up to a closing one, which is taken; there must be some. -/
def takeUntil (close : Char) : Read (List Char) := do
  let rec go : Nat → Read (List Char)
    | 0 => refuse
    | fuel + 1 => do
      match ← next with
      | none => refuse
      | some piece =>
        if piece = .plain close then return []
        else return piece.chars ++ (← go fuel)
  let name ← go ((← left) + 1)
  if name = [] then refuse else return name

end Read

open Read

/-! ### Numbers and escapes -/

def isOctal (c : Char) : Bool := '0' ≤ c && c ≤ '7'

def hexValue (c : Char) : Nat :=
  if c.isDigit then c.toNat - 48 else c.toLower.toNat - 'a'.toNat + 10

def isHex (c : Char) : Bool := c.isDigit || ('a' ≤ c.toLower && c.toLower ≤ 'f')

def numberIn (base : Nat) (ds : List Char) : Nat :=
  ds.foldl (fun n c => n * base + hexValue c) 0

/-- A code point. Those beyond the last one are refused. -/
def codeAt (n : Nat) : Read Nat :=
  if n ≤ 0x10ffff then return n
  else if n < 0x80000000 then refuse
  else throw .codeTooLarge

/-- A character given by exactly `count` hexadecimal digits. -/
def hexChar (count : Nat) : Read Nat := do
  let ds ← takeWhile isHex count
  if ds.length = count then codeAt (numberIn 16 ds) else refuse

/-- A character given by its name in braces. -/
def namedChar : Read Nat := do
  if !(← accept '{') then refuse
  let name ← takeUntil '}'
  match (← get).names (String.ofList name) with
  | some code => return code
  | none => refuse

/-- The characters that an escape stands for wherever it occurs. -/
def plainEscape? : Char → Option Char
  | 'a' => some '\x07'
  | 'f' => some '\x0c'
  | 'n' => some '\n'
  | 'r' => some '\r'
  | 't' => some '\t'
  | 'v' => some '\x0b'
  | '\\' => some '\\'
  | _ => none

/-- The named classes. -/
def categoryEscape? : Char → Option (Bool × Category)
  | 'd' => some (false, .digit)
  | 'D' => some (true, .digit)
  | 's' => some (false, .space)
  | 'S' => some (true, .space)
  | 'w' => some (false, .word)
  | 'W' => some (true, .word)
  | _ => none

/-- The positions that an escape may stand for outside brackets. -/
def anchorEscape? : Char → Option Anchor
  | 'A' => some .textStart
  | 'b' => some (.wordEdge false)
  | 'B' => some (.wordEdge true)
  | 'Z' => some .textEnd
  | _ => none

/-- An escape that stands for a single character given by its code or name, or for itself. -/
def codedEscape (c : Char) : Read Nat := do
  match c with
  | 'x' => hexChar 2
  | 'u' => hexChar 4
  | 'U' => hexChar 8
  | 'N' => namedChar
  | _ => if c.isAlpha || c.isDigit then refuse else return c.toNat

/-- An escape inside brackets. -/
def classEscape (c : Char) : Read ClassItem := do
  match plainEscape? c, categoryEscape? c with
  | some d, _ => return .one d.toNat
  | none, some (negated, cat) => return .category negated cat
  | none, none =>
    if c = 'b' then return .one 8
    else if isOctal c then
      let n := numberIn 8 (c :: (← takeWhile isOctal 2))
      if n > 0o377 then refuse else return .one n
    else return .one (← codedEscape c)

/-- Whether a group is closed. -/
def isClosed (s : Progress) (index : Nat) : Bool :=
  0 < index && (s.widths[index - 1]?.bind id).isSome

/-- Inside a look behind, only groups closed before it may be named. -/
def checkBehind (index : Nat) : Read Unit := do
  let s ← get
  match s.behindFrom with
  | none => return ()
  | some count => if isClosed s index && index ≤ count then return () else refuse

/-- A reference to a closed group. -/
def referenceTo (index : Nat) : Read Pattern := do
  let s ← get
  match (if index = 0 then none else s.widths[index - 1]?.bind id) with
  | none => refuse
  | some width =>
    checkBehind index
    return .reference index width s.switches.options

/-- An escape of a digit other than zero: three octal digits, or a reference. -/
def digitEscape (c : Char) : Read Pattern := do
  let opts := (← get).switches.options
  let more ← takeWhile Char.isDigit 1
  match more with
  | [d] =>
    let third := match ← peek with
      | some (.plain e) => isOctal e
      | _ => false
    if isOctal c && isOctal d && third then
      let n := numberIn 8 (c :: d :: (← takeWhile isOctal 1))
      if n > 0o377 then refuse else return .char n opts
    else referenceTo (numberIn 10 [c, d])
  | _ => referenceTo (numberIn 10 [c])

/-! ### Items -/

/-- An item of a sequence; positions and repetitions may not be repeated. -/
inductive Item where
  | single (p : Pattern)
  | position (p : Pattern)
  | repetition (p : Pattern)

def Item.pattern : Item → Pattern
  | .single p | .position p | .repetition p => p

/-- An escape outside brackets. -/
def escapeItem (c : Char) : Read Item := do
  let opts := (← get).switches.options
  match anchorEscape? c, categoryEscape? c, plainEscape? c with
  | some a, _, _ => return .position (.anchor a opts)
  | none, some (negated, cat), _ => return .single (.category negated cat opts)
  | none, none, some d => return .single (.char d.toNat opts)
  | none, none, none =>
    if c = '0' then
      return .single (.char (numberIn 8 (← takeWhile isOctal 2)) opts)
    else if c.isDigit then return .single (← digitEscape c)
    else return .single (.char (← codedEscape c) opts)

/-- One member of a class in brackets, not yet part of a range. -/
def classMember (piece : Piece) : Read ClassItem :=
  match piece with
  | .plain c => return .one c.toNat
  | .escaped c => classEscape c
  | .dangling => refuse

/-- The members of a class up to its closing bracket. -/
def classItems : Nat → Bool → Read (List ClassItem)
  | 0, _ => refuse
  | fuel + 1, first => do
    match ← next with
    | none => refuse
    | some piece =>
      if piece = .plain ']' && !first then return []
      else
        let item ← classMember piece
        if ← accept '-' then
          match ← next with
          | none => refuse
          | some (.plain ']') => return [item, .one '-'.toNat]
          | some other =>
            match item, ← classMember other with
            | .one lo, .one hi =>
              if hi < lo then refuse
              else return .range lo hi :: (← classItems fuel false)
            | _, _ => refuse
        else return item :: (← classItems fuel false)

/-- A class in brackets, after the opening one. -/
def classItem : Read Item := do
  let opts := (← get).switches.options
  let negated ← accept '^'
  let items ← classItems ((← left) + 1) true
  match items.eraseDups with
  | [.one c] => return .single (if negated then .notChar c opts else .char c opts)
  | _ => return .single (.set negated items opts)

/-- The least count that a repetition may not have. -/
def countCap : Nat := 4294967295

/-- The count written in digits. -/
def countOf (ds : List Char) (default : Option Nat) : Read (Option Nat) :=
  if ds = [] then return default
  else if ds.length > Numeral.digitLimit then throw (.longCount ds.length)
  else if numberIn 10 ds ≥ countCap then throw .countTooLarge
  else return some (numberIn 10 ds)

/-- The counts in braces after the opening one, if the braces hold counts. -/
def countsInBraces : Read (Option (Nat × Option Nat)) := do
  let start ← get
  if (← peek) = some (.plain '}') then return none
  let lo ← takeWhile Char.isDigit ((← left) + 1)
  let hi ← if ← accept ',' then takeWhile Char.isDigit ((← left) + 1) else pure lo
  if ← accept '}' then
    let least := (← countOf lo none).getD 0
    let most ← countOf hi none
    if (most.map (decide <| · < least)).getD false then refuse
    else return some (least, most)
  else
    set start
    return none

/-- The mark behind a repetition. -/
def greed : Read Greed := do
  if ← accept '?' then return .fewest
  else if ← accept '+' then return .atomic
  else return .most

/-- The latest item of a sequence, repeated. -/
def repeatLast (least : Nat) (most : Option Nat) : List Item → Read (List Item)
  | .single p :: before => do
    return .repetition (.repeated (← greed) least most p) :: before
  | _ => refuse

/-! ### Groups -/

/-- Opens the next group, perhaps with a name that is not taken yet. -/
def openGroup (name : Option String) : Read Nat := do
  let s ← get
  let index := s.widths.length + 1
  match name with
  | none => set { s with widths := s.widths ++ [none] }
  | some n =>
    if (s.groups.find? (·.1 == n)).isSome then refuse
    else set { s with widths := s.widths ++ [none], groups := (n, index) :: s.groups }
  return index

def closeGroup (index : Nat) (p : Pattern) : Read Unit :=
  modify fun s => { s with widths := s.widths.set (index - 1) (some p.width) }

def expectClose : Read Unit := do
  if ← accept ')' then return () else refuse

/-- The least number that no group may have. -/
def groupCap : Nat := 1073741823

/-- The group that a condition names, by number or by name. -/
def conditionGroup (name : String) : Read Nat := do
  let s ← get
  if Text.isName name then
    match s.groups.find? (·.1 == name) with
    | some (_, index) => return index
    | none => refuse
  else
    match Numeral.readInt name with
    | .ok n =>
      if 0 < n && n < groupCap then
        set { s with conditions := n.toNat :: s.conditions }
        return n.toNat
      else refuse
    | .error _ => refuse

/-- One letter of a list of options. -/
def switchOn (on : Bool) (c : Char) (s : Switches) : Option Switches :=
  match c with
  | 'i' => some { s with ignoreCase := on }
  | 'm' => some { s with multiline := on }
  | 's' => some { s with lineEnds := on }
  | 'x' => some { s with spaced := on }
  | 'a' => if on then some { s with asciiOnly := true } else none
  | 'u' => if on then some { s with allScripts := true } else none
  | 't' => if on then some { s with unrepeated := true } else none
  | _ => none

/-- A list of options up to one of the closing characters, with all letters read. -/
def switchLetters : Nat → List Char → Read (List Char × Char)
  | 0, _ => refuse
  | fuel + 1, closing => do
    match ← next with
    | some (.plain c) =>
      if closing.contains c then return ([], c)
      else
        let (letters, close) ← switchLetters fuel closing
        return (c :: letters, close)
    | _ => refuse

def applySwitches (on : Bool) (letters : List Char) (s : Switches) : Read Switches :=
  match letters.foldlM (fun acc c => switchOn on c acc) s with
  | some s => return s
  | none => refuse

/-- What a list of options governs: the whole pattern, or one group. -/
inductive SwitchScope where
  | whole (s : Switches)
  | group (s : Switches)

/-- A list of options after its first character. For a group the letters `a` and `u` replace each
other, and `t` is none. -/
def switchList (first : Char) : Read SwitchScope := do
  let s := (← get).switches
  let fuel := (← left) + 1
  let (on, close) ←
    if first = '-' then pure ([], '-')
    else
      let (letters, close) ← switchLetters fuel [')', '-', ':']
      pure (first :: letters, close)
  if on.contains 'a' && on.contains 'u' then refuse
  if close = ')' then return .whole (← applySwitches true on s)
  if on.contains 't' then refuse
  let choosesAlphabet := on.contains 'a' || on.contains 'u'
  let s ← applySwitches true on
    (if choosesAlphabet then { s with asciiOnly := false, allScripts := false } else s)
  if close = ':' then return .group s
  let (off, _) ← switchLetters fuel [':']
  if off = [] || off.any on.contains then refuse
  return .group (← applySwitches false off s)

/-- What a parenthesis opens. -/
inductive Opening where
  | capture (name : Option String)
  | plain
  | atomic
  | switched (s : Switches)
  | whole (s : Switches)
  | look (behind negated : Bool)
  | condition (index : Nat)
  | item (p : Pattern)
  | comment

/-- Reads what stands right after an opening parenthesis. -/
def opening : Read Opening := do
  if !(← accept '?') then return .capture none
  match ← next with
  | some (.plain 'P') =>
    if ← accept '<' then
      let name := String.ofList (← takeUntil '>')
      if Text.isName name then return .capture (some name) else refuse
    else if ← accept '=' then
      let name := String.ofList (← takeUntil ')')
      match (← get).groups.find? (·.1 == name) with
      | some (_, index) => return .item (← referenceTo index)
      | none => refuse
    else refuse
  | some (.plain ':') => return .plain
  | some (.plain '>') => return .atomic
  | some (.plain '#') => skipComment ((← left) + 1)
  | some (.plain '=') => return .look false false
  | some (.plain '!') => return .look false true
  | some (.plain '<') =>
    if ← accept '=' then return .look true false
    else if ← accept '!' then return .look true true
    else refuse
  | some (.plain '(') =>
    let index ← conditionGroup (String.ofList (← takeUntil ')'))
    checkBehind index
    return .condition index
  | some (.plain c) =>
    match ← switchList c with
    | .whole s => return .whole s
    | .group s => return .switched s
  | _ => refuse
where
  skipComment : Nat → Read Opening
    | 0 => refuse
    | fuel + 1 => do
      match ← next with
      | none => refuse
      | some (.plain ')') => return .comment
      | some _ => skipComment fuel

/-! ### Sequences and alternatives -/

/-- The items of a sequence, latest first, as one pattern. -/
def joinItems (items : List Item) : Pattern :=
  items.foldl (fun acc item => .seq item.pattern acc) .empty

/-- A plain character that is neither a group, a class nor a count. -/
def plainItem (c : Char) : Read Item := do
  let s := (← get).switches
  match c with
  | '.' => return .single (.any s.lineEnds)
  | '^' => return .position (.anchor (if s.multiline then .lineStart else .textStart) s.options)
  | '$' => return .position (.anchor (if s.multiline then .lineEnd else .lastLineEnd) s.options)
  | _ => return .single (.char c.toNat s.options)

/-- Skips a remark up to the end of its line. -/
def skipRemark : Nat → Read Unit
  | 0 => return ()
  | fuel + 1 => do
    match ← next with
    | none | some (.plain '\n') => return ()
    | some _ => skipRemark fuel

/-- Runs a reader with the given switches and restores those in force before. -/
def withSwitches {α : Type} (s : Switches) (read : Read α) : Read α := do
  let before := (← get).switches
  modify fun p => { p with switches := s }
  let a ← read
  modify fun p => { p with switches := before }
  return a

/-- Runs a reader inside a look behind. -/
def insideBehind {α : Type} (read : Read α) : Read α := do
  let before := (← get).behindFrom
  if before.isNone then modify fun p => { p with behindFrom := some p.widths.length }
  let a ← read
  if before.isNone then modify fun p => { p with behindFrom := none }
  return a

mutual

/-- Alternatives, up to a closing parenthesis or the end. `atStart` is set outside all groups. -/
def alternatives : Nat → Bool → Read Pattern
  | 0, _ => refuse
  | fuel + 1, atStart => do return ofAlternatives (← moreAlternatives fuel atStart)

/-- The alternatives that are left, one by one. -/
def moreAlternatives : Nat → Bool → Read (List Pattern)
  | 0, _ => refuse
  | fuel + 1, atStart => do
    let p ← sequence fuel atStart []
    if ← accept '|' then return p :: (← moreAlternatives fuel false)
    else return [p]

/-- The items of a sequence, added to those before. `atStart` is set in the first sequence
outside all groups, where options for the whole pattern may stand. -/
def sequence : Nat → Bool → List Item → Read Pattern
  | 0, _, _ => refuse
  | fuel + 1, atStart, items => do
    match ← peek with
    | none => return joinItems items
    | some (.plain '|') => return joinItems items
    | some (.plain ')') => return joinItems items
    | some .dangling => refuse
    | some (.escaped c) =>
      let _ ← next
      sequence fuel atStart ((← escapeItem c) :: items)
    | some (.plain c) =>
      let _ ← next
      if (← get).switches.spaced && [' ', '\t', '\n', '\r', '\x0b', '\x0c'].contains c then
        sequence fuel atStart items
      else if (← get).switches.spaced && c = '#' then
        skipRemark ((← left) + 1)
        sequence fuel atStart items
      else
        match c with
        | '[' => sequence fuel atStart ((← classItem) :: items)
        | '?' => sequence fuel atStart (← repeatLast 0 (some 1) items)
        | '*' => sequence fuel atStart (← repeatLast 0 none items)
        | '+' => sequence fuel atStart (← repeatLast 1 none items)
        | '{' =>
          match ← countsInBraces with
          | some (least, most) => sequence fuel atStart (← repeatLast least most items)
          | none => sequence fuel atStart ((← plainItem c) :: items)
        | '(' =>
          match ← groupItem fuel (atStart && items.isEmpty) with
          | some item => sequence fuel atStart (item :: items)
          | none => sequence fuel atStart items
        | _ => sequence fuel atStart ((← plainItem c) :: items)

/-- What follows an opening parenthesis; remarks and options for the whole pattern give no item. -/
def groupItem : Nat → Bool → Read (Option Item)
  | 0, _ => refuse
  | fuel + 1, atStart => do
    match ← opening with
    | .comment => return none
    | .item p => return some (.single p)
    | .whole s =>
      if atStart then
        modify fun p => { p with switches := s }
        return none
      else refuse
    | .capture name =>
      let index ← openGroup name
      let p ← withSwitches (← get).switches (alternatives fuel false)
      expectClose
      closeGroup index p
      return some (.single (.group index p))
    | .plain =>
      let p ← withSwitches (← get).switches (alternatives fuel false)
      expectClose
      return some (.single p)
    | .switched s =>
      let p ← withSwitches s (alternatives fuel false)
      expectClose
      return some (.single (.scoped p))
    | .atomic =>
      let p ← withSwitches (← get).switches (alternatives fuel false)
      expectClose
      return some (.single (.atomic p))
    | .look false negated =>
      let p ← alternatives fuel false
      expectClose
      return some (.single (.ahead negated p))
    | .look true negated =>
      let p ← insideBehind (alternatives fuel false)
      expectClose
      return some (.single (.behind negated p.width.1 p))
    | .condition index =>
      let yes ← sequence fuel false []
      let no ← if ← accept '|' then sequence fuel false [] else pure .empty
      expectClose
      return some (.single (.conditional index yes no))

end

/-- The pattern written in a text, where characters have the given names. -/
def Pattern.read (names : CharacterNames) (s : String) : Except Fault Pattern := do
  let ps := pieces s.toList
  if ps.head? = some .dangling then throw .malformed
  let (p, progress) ← (alternatives (4 * ps.length + 4) true).run (.start names ps)
  let switches := progress.switches
  if switches.asciiOnly && switches.allScripts then throw .twoAlphabets
  if progress.rest ≠ [] || progress.conditions.any (· > progress.widths.length) then
    throw .malformed
  if !p.looksBehindSoundly || (switches.unrepeated && p.repeats) then throw .malformed
  return p

end DeploymentRecipes.Regex
