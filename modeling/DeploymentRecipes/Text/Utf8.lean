/-!
# UTF-8

Bytes decoded as UTF-8, one character at a time, with the cause and place of the first fault; the
number of bytes a text takes; and line ends, of which only the line feed is kept.
-/

namespace DeploymentRecipes.Text

/-- What is wrong with a byte sequence. -/
inductive Utf8Fault where
  | startByte (byte : UInt8) (position : Nat)
  | continuation (byte : UInt8) (first last : Nat)
  | unexpectedEnd (byte : UInt8) (first last : Nat)

/-- The least and greatest second byte after a given first one, and the number of bytes that
follow it. -/
def utf8Lead (b : Nat) : Option (Nat × Nat × Nat) :=
  if 0xc2 ≤ b && b ≤ 0xdf then some (0x80, 0xbf, 1)
  else if b == 0xe0 then some (0xa0, 0xbf, 2)
  else if b == 0xed then some (0x80, 0x9f, 2)
  else if 0xe1 ≤ b && b ≤ 0xef then some (0x80, 0xbf, 2)
  else if b == 0xf0 then some (0x90, 0xbf, 3)
  else if 0xf1 ≤ b && b ≤ 0xf3 then some (0x80, 0xbf, 3)
  else if b == 0xf4 then some (0x80, 0x8f, 3)
  else none

/-- The bytes that may follow in a character, `n` of them: the first between `lo` and `hi`, the
others any continuation byte. Gives the payload and the number of bytes taken, or the number of
sound bytes before the fault and whether the text ended there. -/
def utf8Tail (lo hi : Nat) : Nat → Nat → List UInt8 → Nat → Except (Nat × Bool) Nat
  | 0, value, _, _ => .ok value
  | _ + 1, _, [], seen => .error (seen, true)
  | n + 1, value, b :: bs, seen =>
    if lo ≤ b.toNat && b.toNat ≤ hi then
      utf8Tail 0x80 0xbf n (value * 64 + b.toNat % 64) bs (seen + 1)
    else .error (seen, false)

/-- The payload bits of a first byte followed by `n` others. -/
def utf8LeadBits (b n : Nat) : Nat := b % (64 / Nat.pow 2 n)

/-- The characters of a byte sequence, after those read before, latest first; `skip` bytes belong
to the character before. -/
def utf8Chars : List UInt8 → Nat → Nat → List Char → Except Utf8Fault (List Char)
  | [], _, _, acc => .ok acc.reverse
  | _ :: bs, at_, skip + 1, acc => utf8Chars bs (at_ + 1) skip acc
  | b :: bs, at_, 0, acc =>
    if b.toNat < 0x80 then utf8Chars bs (at_ + 1) 0 (Char.ofNat b.toNat :: acc)
    else match utf8Lead b.toNat with
      | none => .error (.startByte b at_)
      | some (lo, hi, n) =>
        match utf8Tail lo hi n (utf8LeadBits b.toNat n) bs 0 with
        | .ok value => utf8Chars bs (at_ + 1) n (Char.ofNat value :: acc)
        | .error (seen, true) => .error (.unexpectedEnd b at_ (at_ + seen))
        | .error (seen, false) => .error (.continuation b at_ (at_ + seen))

/-- The text of a byte sequence. -/
def decodeUtf8 (bytes : List UInt8) : Except Utf8Fault String :=
  (utf8Chars bytes 0 0 []).map String.ofList

/-- The text of a byte sequence that may open with a byte order mark. -/
def decodeMarked : List UInt8 → Except Utf8Fault String
  | 0xef :: 0xbb :: 0xbf :: bytes => decodeUtf8 bytes
  | bytes => decodeUtf8 bytes

/-- The characters with every line end written as a line feed, after those read before, latest
first. -/
def unifyFrom : List Char → List Char → List Char
  | '\r' :: '\n' :: cs, acc => unifyFrom cs ('\n' :: acc)
  | '\r' :: cs, acc => unifyFrom cs ('\n' :: acc)
  | c :: cs, acc => unifyFrom cs (c :: acc)
  | [], acc => acc.reverse

/-- Line ends of all three kinds become line feeds. -/
def unifyLineEnds (cs : List Char) : List Char := unifyFrom cs []

/-- The wording of a fault. -/
def Utf8Fault.message : Utf8Fault → String
  | .startByte b p =>
    s!"'utf-8' codec can't decode byte 0x{twoDigits b} in position {p}: invalid start byte"
  | .continuation b p q =>
    s!"'utf-8' codec can't decode {place b p q}: invalid continuation byte"
  | .unexpectedEnd b p q =>
    s!"'utf-8' codec can't decode {place b p q}: unexpected end of data"
where
  twoDigits (b : UInt8) : String :=
    String.ofList [Nat.digitChar (b.toNat / 16), Nat.digitChar (b.toNat % 16)]
  place (b : UInt8) (p q : Nat) : String :=
    if p == q then s!"byte 0x{twoDigits b} in position {p}" else s!"bytes in position {p}-{q}"

end DeploymentRecipes.Text
