import DeploymentRecipes.Yaml.Scalar

/-!
# Directives, anchors and tags

Readers for the parts of a YAML text that say something about a node or a document.
-/

namespace DeploymentRecipes.Yaml

/-- Characters of directive names, anchors and tag handles. -/
def isNameChar (c : Char) : Bool := c.isAlphanum || c = '-' || c = '_'

/-- Characters of tags, the percent sign included. -/
def isTagChar (c : Char) : Bool :=
  c.isAlphanum || "-;/?:@&=+$,_.!~*'()[]%".toList.contains c

/-! ### Tags -/

/-- A tag before its handle is replaced; without a handle it is written out in full. -/
structure TagText where
  handle : Option String
  suffix : String

/-- The bytes written as escapes in a tag. -/
def tagBytes (what : String) (start : Mark) :
    Nat → Cursor → List UInt8 → Except LoadError (List UInt8 × Cursor)
  | 0, c, acc => .ok (acc.reverse, c)
  | rounds + 1, c, acc =>
    if c.peek = '%' then
      let c := c.next
      match [c.peek, c.peekAt 1].find? (!isHexDigit ·) with
      | some d => faultAt (some (.scanning what)) start
          (.unlike "URI escape sequence of 2 hexadecimal numbers" d) c.mark
      | none =>
        tagBytes what start rounds (c.skip 2) (UInt8.ofNat (hexValue (c.rest.take 2)) :: acc)
    else .ok (acc.reverse, c)

/-- The characters written as escapes in a tag. -/
def tagEscapes (size : Nat) (what : String) (start : Mark) (c : Cursor) :
    Except LoadError (List Char × Cursor) := do
  let (bytes, after) ← tagBytes what start size c []
  match Text.decodeUtf8 bytes with
  | .ok s => return (s.toList, after)
  | .error fault => faultAt (some (.scanning what)) start (.undecodable fault) c.mark

/-- The characters of a tag, after those read before. -/
def tagChars (size : Nat) (what : String) (start : Mark) :
    Nat → Cursor → List Char → Except LoadError (List Char × Cursor)
  | 0, c, acc => .ok (acc, c)
  | rounds + 1, c, acc =>
    if c.peek = '%' then do
      let (cs, c) ← tagEscapes size what start c
      tagChars size what start rounds c (acc ++ cs)
    else if isTagChar c.peek then tagChars size what start rounds c.next (acc ++ [c.peek])
    else .ok (acc, c)

/-- The characters of a tag; there is at least one. -/
def readTagChars (size : Nat) (what : String) (start : Mark) (c : Cursor) :
    Except LoadError (String × Cursor) :=
  if isTagChar c.peek then do
    let (cs, c) ← tagChars size what start size c []
    return (String.ofList cs, c)
  else faultAt (some (.parsing what)) start (.unlike "URI" c.peek) c.mark

/-- A tag handle: exclamation marks around a name that may be empty, or a single one. -/
def readHandle (what : String) (start : Mark) (c : Cursor) : Except LoadError (String × Cursor) :=
  let expected := "'!'"
  if c.peek ≠ '!' then faultAt (some (.scanning what)) start (.unlike expected c.peek) c.mark
  else
    let name := c.next.run isNameChar
    let after := c.skip (name.length + 1)
    if name.isEmpty && after.peek = ' ' then .ok ("!", after)
    else if after.peek = '!' then .ok (String.ofList ('!' :: (name ++ ['!'])), after.next)
    else faultAt (some (.scanning what)) start (.unlike expected after.peek) after.mark

def tagName : String := "a tag"

/-- Whether a tag has a handle with a second exclamation mark. -/
def hasHandle (c : Cursor) : Bool :=
  let word := c.next.run fun d => !isSpaceOrEnd d
  word.contains '!'

/-- The tag at a cursor. -/
def readTag (size : Nat) (c : Cursor) : Except LoadError (TagText × Cursor) := do
  let start := c.mark
  let (tag, after) ←
    if c.peekAt 1 = '<' then do
      let (suffix, c) ← readTagChars size tagName start (c.skip 2)
      if c.peek = '>' then pure ((⟨none, suffix⟩ : TagText), c.next)
      else faultAt (some (.parsing tagName)) start (.unlike "'>'" c.peek) c.mark
    else if isGapOrEnd (c.peekAt 1) then pure (⟨none, "!"⟩, c.next)
    else if hasHandle c then do
      let (handle, c) ← readHandle tagName start c
      let (suffix, c) ← readTagChars size tagName start c
      pure (⟨some handle, suffix⟩, c)
    else do
      let (suffix, c) ← readTagChars size tagName start c.next
      pure (⟨some "!", suffix⟩, c)
  if isSpaceOrEnd after.peek then return (tag, after)
  else faultAt (some (.scanning tagName)) start (.unlike "' '" after.peek) after.mark

/-! ### Anchors -/

/-- Characters that may follow an anchor. -/
def endsAnchor (c : Char) : Bool := isGapOrEnd c || r"?:,]}%@`".toList.contains c

/-- The name of an anchor or alias, after its indicator. -/
def readAnchor (what : String) (c : Cursor) : Except LoadError (String × Cursor) :=
  let start := c.mark
  let name := c.next.run isNameChar
  let after := c.skip (name.length + 1)
  if name.isEmpty || !endsAnchor after.peek then
    faultAt (some (.scanning what)) start (.unlike "alphabetic or numeric character" after.peek)
      after.mark
  else .ok (String.ofList name, after)

/-! ### Directives -/

/-- A directive: the version of the notation, a tag handle, or one that is passed over. -/
inductive Directive where
  | version (major : Nat)
  | handle (handle lead : String)
  | other

def directiveName : String := "a directive"

def inDirective : Option Activity := some (.scanning directiveName)

/-- A number in the version of the notation. -/
def readVersionNumber (start : Mark) (c : Cursor) : Except LoadError (Nat × Cursor) :=
  match c.run Char.isDigit with
  | [] => faultAt inDirective start (.unlike "a digit" c.peek) c.mark
  | digits =>
    if digits.length > Numeral.digitLimit then .error (.impossible (.longInteger digits.length))
    else .ok (Numeral.valueOf digits, c.skip digits.length)

/-- The version of the notation. -/
def readVersion (start : Mark) (c : Cursor) : Except LoadError (Directive × Cursor) := do
  let (major, c) ← readVersionNumber start (c.skipWhile (· = ' '))
  if c.peek ≠ '.' then faultAt inDirective start (.unlike "a digit or '.'" c.peek) c.mark
  else
    let (_, c) ← readVersionNumber start c.next
    if isSpaceOrEnd c.peek then return (.version major, c)
    else faultAt inDirective start (.unlike "a digit or ' '" c.peek) c.mark

/-- A tag handle and what it stands for. -/
def readHandleMeaning (size : Nat) (start : Mark) (c : Cursor) :
    Except LoadError (Directive × Cursor) := do
  let (handle, c) ← readHandle directiveName start (c.skipWhile (· = ' '))
  if c.peek ≠ ' ' then faultAt inDirective start (.unlike "' '" c.peek) c.mark
  else
    let (lead, c) ← readTagChars size directiveName start (c.skipWhile (· = ' '))
    if isSpaceOrEnd c.peek then return (.handle handle lead, c)
    else faultAt inDirective start (.unlike "' '" c.peek) c.mark

/-- The directive at a cursor, to the end of its line. Gives the place after its contents. -/
def readDirective (size : Nat) (c : Cursor) : Except LoadError (Directive × Mark × Cursor) := do
  let start := c.mark
  let name := c.next.run isNameChar
  let after := c.skip (name.length + 1)
  if name.isEmpty || !isSpaceOrEnd after.peek then
    faultAt inDirective start (.unlike "alphabetic or numeric character" after.peek) after.mark
  else
    let (directive, c) ←
      if String.ofList name == "YAML" then readVersion start after
      else if String.ofList name == "TAG" then readHandleMeaning size start after
      else pure (.other, after.skipWhile fun d => !isBreakOrEnd d)
    let next ← restOfLine inDirective start c
    return (directive, c.mark, next)

end DeploymentRecipes.Yaml
