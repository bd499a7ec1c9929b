import DeploymentRecipes.Yaml.Cursor

/-!
# Sources

A YAML file is decoded, and its characters are looked at, block by block while the tokens are cut.
A byte that is out of place in UTF-8 and a character that no text may hold are therefore found when
their block is read, and not before: they are an obstacle at the start of that block, in front of
which the text is read as usual.
-/

namespace DeploymentRecipes.Yaml

/-- The characters of a text that can be read, and what stands behind them if that is not the end. -/
structure Source where
  chars : List Char
  obstacle : Option LoadError

/-! ### Characters -/

/-- Whether a text may hold a character. -/
def isAllowed (c : Char) : Bool :=
  c = '\t' || c = '\n' || c = '\r' || c = '\x85' || (0x20 ≤ c.toNat && c.toNat ≤ 0x7e) ||
    (0xa0 ≤ c.toNat && c.toNat ≤ 0xd7ff) || (0xe000 ≤ c.toNat && c.toNat ≤ 0xfffd) ||
    0x10000 ≤ c.toNat

/-- The first character that a text may not hold, and its position. -/
def firstForbidden (cs : List Char) : Option (Char × Nat) :=
  let lead := cs.takeWhile isAllowed
  (cs[lead.length]?).map fun c => (c, lead.length)

/-! ### Blocks -/

/-- The number of characters in a block. -/
def blockSize : Nat := 4096

/-- Where the block with a position starts. The first two blocks are read as one. -/
def blockStart (position : Nat) : Nat :=
  if position < 2 * blockSize then 0 else position / blockSize * blockSize

/-- The source of characters with something behind them that cannot be decoded. That is found no later
than a forbidden character in the block at the end. -/
def Source.ofChars (cs : List Char) (undecodable : Option Text.Utf8Fault) : Source :=
  let behind := undecodable.map fun fault => (blockStart cs.length, LoadError.undecodable fault)
  let inside := (firstForbidden cs).map fun (c, position) =>
    (blockStart position, LoadError.unprintable c.toNat position)
  match behind, inside with
  | none, none => ⟨cs, none⟩
  | none, some (start, e) | some (start, e), none => ⟨cs.take start, some e⟩
  | some (start, e), some (start', e') =>
    if start ≤ start' then ⟨cs.take start, some e⟩ else ⟨cs.take start', some e'⟩

/-! ### Bytes -/

/-- The number of bytes that are decoded at a time. -/
def byteBlockSize : Nat := 8192

/-- The first byte of the character with a fault, and the byte that shows the fault, among `count`
bytes. -/
def faultPlace (count : Nat) : Text.Utf8Fault → Nat × Nat
  | .startByte _ position => (position, position)
  | .continuation _ first last => (first, last + 1)
  | .unexpectedEnd _ first _ => (first, count)

/-- The characters of bytes without faults. A line end that may go on behind them is left out. -/
def decodedLead (bytes : List UInt8) : List Char :=
  let text := match Text.decodeUtf8 bytes with
    | .ok s => s.toList
    | .error _ => []
  Text.unifyLineEnds (if text.getLast? = some '\r' then text.dropLast else text)

/-- The mark that may stand in front of a text in UTF-8. -/
def byteOrderMark : List UInt8 := [0xef, 0xbb, 0xbf]

/-- The source in a file. The characters in front of a block of bytes with a fault can be read. -/
def Source.ofBytes (bytes : List UInt8) : Source :=
  let mark := if byteOrderMark.isPrefixOf bytes then byteOrderMark.length else 0
  let body := bytes.drop mark
  match Text.decodeUtf8 body with
  | .ok text => .ofChars (Text.unifyLineEnds text.toList) none
  | .error fault =>
    let (first, shown) := faultPlace body.length fault
    let before := min first ((shown + mark) / byteBlockSize * byteBlockSize - mark)
    let sound := match Text.decodeUtf8 (body.take before) with
      | .ok _ => before
      | .error cut => (faultPlace before cut).1
    .ofChars (decodedLead (body.take sound)) (some fault)

/-! ### Ends -/

/-- Whether a problem is that a text ends. -/
def Problem.isEnd : Problem → Bool
  | .noToken c | .unlike _ c | .unknownEscape c => c = endChar
  | .endOfText => true
  | _ => false

/-- Whether an error is found by looking at the end of a text of the given size. -/
def LoadError.showsEnd (size : Nat) : LoadError → Bool
  | .fault f => f.mark.index ≥ size || f.problem.isEnd
  | _ => false

end DeploymentRecipes.Yaml
