import DeploymentRecipes.Text.Base64
import DeploymentRecipes.Text.LetterCase
import DeploymentRecipes.Value.Shown
import DeploymentRecipes.Yaml.Node

/-!
# Values of YAML nodes

The value of a node depends on its tag.  Mappings take over the entries of the mappings that they
merge, and a repeated key keeps its first place and its last value.  Of several faults the one
found first is reported, where collections are gone through level by level from the root.
-/

namespace DeploymentRecipes.Yaml

/-! ### Scalars -/

/-- A problem with a node at a place. -/
def nodeFault {α : Type} (problem : Problem) (mark : Mark) : Except LoadError α :=
  faultAt none none problem mark

def impossible {α : Type} (e : Impossible) : Except LoadError α := .error (.impossible e)

mutual

/-- The text of a node. A mapping with a value mark stands for the value under that mark. -/
def scalarCodes : Node → Except LoadError (List Nat)
  | .scalar _ codes _ => .ok codes
  | .mapping _ entries mark =>
    (valueUnderMark entries).getD
      (nodeFault (.otherKind "a scalar node" NodeKind.mapping.name) mark)
  | .sequence _ _ mark => nodeFault (.otherKind "a scalar node" NodeKind.sequence.name) mark
  | .loop kind mark => nodeFault (.otherKind "a scalar node" kind.name) mark

/-- The text under the value mark of a mapping, if it has one. -/
def valueUnderMark : List (Node × Node) → Option (Except LoadError (List Nat))
  | [] => none
  | (k, v) :: es => if k.tag == Tag.value then some (scalarCodes v) else valueUnderMark es

end

/-- A sign in front and the rest; there has to be something. -/
def signed (cs : List Char) : Except LoadError (Bool × List Char) :=
  match cs with
  | [] => impossible .noDigits
  | _ => .ok (Numeral.takeSign cs)

/-- An integer in a base. -/
def integerIn (base : Nat) (cs : List Char) : Except LoadError Int :=
  let s := String.ofList cs
  match Numeral.readIntIn base s with
  | .ok n => .ok n
  | .error .malformed => impossible (.integer base s)
  | .error (.tooManyDigits count) => impossible (.longInteger count)

/-- The value of parts, each counting sixty times as much as the next. -/
def sixties (parts : List Int) : Int := parts.foldl (fun n p => n * 60 + p) 0

/-- An integer without low lines and sign. -/
def unsignedInt (cs : List Char) : Except LoadError Int :=
  match cs with
  | [] => impossible .noDigits
  | ['0'] => .ok 0
  | '0' :: 'b' :: digits => integerIn 2 digits
  | '0' :: 'x' :: digits => integerIn 16 digits
  | '0' :: _ => integerIn 8 cs
  | _ =>
    if cs.contains ':' then ((Text.splitChars ':' cs).mapM (integerIn 10)).map sixties
    else integerIn 10 cs

def intValue (cs : List Char) : Except LoadError Value := do
  let (negative, digits) ← signed (cs.filter (· != '_'))
  let n ← unsignedInt digits
  return .int (if negative then -n else n)

/-- A number in decimal notation. -/
def decimalNumber (cs : List Char) : Except LoadError Binary64 :=
  let s := String.ofList cs
  match Numeral.readFloat? s with
  | some x => .ok x
  | none => impossible (.number s)

/-- The sum of parts, from the last on, each counting sixty times as much as the next. The weight of a
part has to be a number in the range of numbers, whatever the part. -/
def sixtiesSum : List Binary64 → Int → Binary64 → Except LoadError Binary64
  | [], _, sum => .ok sum
  | part :: parts, weight, sum =>
    match Binary64.ofInt? weight with
    | some w => sixtiesSum parts (weight * 60) (sum.add (part.mul w))
    | none => impossible .largeWeight

/-- A number in small letters, without low lines and sign. -/
def unsignedFloat (cs : List Char) : Except LoadError Binary64 :=
  let word := String.ofList cs
  if word == ".inf" then .ok (.infinite false)
  else if word == ".nan" then .ok .nan
  else if cs.contains ':' then do
    let parts ← (Text.splitChars ':' cs).mapM decimalNumber
    sixtiesSum parts.reverse 1 .zero
  else decimalNumber cs

def floatValue (cs : List Char) : Except LoadError Value := do
  let (negative, digits) ← signed ((cs.filter (· != '_')).map Text.lowerChar)
  let x ← unsignedFloat digits
  return .float (if negative then x.neg else x)

def boolValue (cs : List Char) : Except LoadError Value :=
  let word := String.ofList (cs.map Text.lowerChar)
  if ["yes", "true", "on"].contains word then .ok (.bool true)
  else if ["no", "false", "off"].contains word then .ok (.bool false)
  else impossible (.noWord word)

/-- The offset in minutes that a zone stands for; none means no offset at all. -/
def zoneOffset : List Char → Option Int
  | [] => none
  | ['Z'] => some 0
  | sign :: cs =>
    let hours := Numeral.valueOf (cs.takeWhile (· != ':'))
    let minutes := Numeral.valueOf ((cs.dropWhile (· != ':')).drop 1)
    let total : Int := hours * 60 + minutes
    some (if sign = '-' then -total else total)

/-- The microseconds of a written fraction. -/
def microseconds (digits : List Char) : Nat :=
  Numeral.valueOf ((digits ++ List.replicate 6 '0').take 6)

/-- The calendar value of a written date. -/
def Tag.DateText.timestamp (d : Tag.DateText) : Timestamp where
  year := Numeral.valueOf d.year
  month := Numeral.valueOf d.month
  day := Numeral.valueOf d.day
  time := d.time.map fun (hour, minute, second, fraction) =>
    ⟨Numeral.valueOf hour, Numeral.valueOf minute, Numeral.valueOf second, microseconds fraction,
      zoneOffset d.zone⟩

def dateValue (cs : List Char) : Except LoadError Value :=
  match Tag.readDate? (Tag.dropLastBreak cs) with
  | none => impossible .noDate
  | some d =>
    match d.timestamp.fault? with
    | some fault => impossible (.calendar fault)
    | none => .ok (.date d.timestamp)

/-- The complaint about characters that are not ASCII. -/
def asciiReason (cs : List Char) : Option String :=
  let first := (cs.takeWhile (·.toNat < 0x80)).length
  match cs.drop first with
  | [] => none
  | c :: rest =>
    let more := (rest.takeWhile (·.toNat ≥ 0x80)).length
    let last := first + more
    some <| "'ascii' codec can't encode " ++
      (if more = 0 then s!"character '{Text.codeEscape c.toNat}' in position {first}"
        else s!"characters in position {first}-{last}") ++ ": ordinal not in range(128)"

def binaryValue (cs : List Char) (mark : Mark) : Except LoadError Value :=
  match asciiReason cs with
  | some reason => nodeFault (.notAscii reason) mark
  | none =>
    match Text.decodeBase64 cs with
    | .ok bytes => .ok (.bytes bytes)
    | .error fault => nodeFault (.notBase64 fault.message) mark

/-- The value of a text with the given tag, if the tag is one for scalars. -/
def taggedScalar (tag : String) (mark : Mark) : Option (List Nat → Except LoadError Value) :=
  let chars (codes : List Nat) : List Char := codes.map Text.charOfCode
  if tag == Tag.null then some fun _ => .ok .null
  else if tag == Tag.bool then some (boolValue ∘ chars)
  else if tag == Tag.int then some (intValue ∘ chars)
  else if tag == Tag.float then some (floatValue ∘ chars)
  else if tag == Tag.binary then some fun codes => binaryValue (chars codes) mark
  else if tag == Tag.timestamp then some (dateValue ∘ chars)
  else if tag == Tag.str then some (.ok ∘ Value.ofCodes)
  else none

/-- The value of a node with a tag for scalars. A date is looked for in the node itself, where a
mapping has no text. -/
def scalarOf? (n : Node) : Option (Except LoadError Value) :=
  (taggedScalar n.tag n.mark).map fun make => do
    let codes ← scalarCodes n
    if n.tag == Tag.timestamp && n.kind != .scalar then impossible .noText
    else make codes

/-! ### Merging -/

def inMapping : Option Activity := some (.constructing "a mapping")

mutual

/-- The entries of a mapping with those that it merges in front. Merged lists of mappings count
from the last to the first. -/
def mergedEntries : Node → Except LoadError (List (Node × Node))
  | .mapping _ entries mark => (mergeFrom mark entries).map fun p => p.1 ++ p.2
  | _ => .ok []

/-- The merged entries and the entries of its own that a list of entries amounts to. -/
def mergeFrom (mark : Mark) :
    List (Node × Node) → Except LoadError (List (Node × Node) × List (Node × Node))
  | [] => .ok ([], [])
  | (k, v) :: es =>
    if k.tag == Tag.merge then do
      let merged ← match v with
        | .mapping tag entries m => mergedEntries (.mapping tag entries m)
        | .sequence _ items _ => mergedItems mark items
        | .loop _ _ => .ok []
        | .scalar _ _ m =>
          let found := NodeKind.scalar.name
          faultAt inMapping mark (.otherKind "a mapping or list of mappings for merging" found) m
      let (before, own) ← mergeFrom mark es
      return (merged ++ before, own)
    else do
      let (before, own) ← mergeFrom mark es
      return (before, (markedAsText k, v) :: own)

/-- The entries of merged mappings, those of the last one first. -/
def mergedItems (mark : Mark) : List Node → Except LoadError (List (Node × Node))
  | [] => .ok []
  | n :: ns => do
    let entries ← match n with
      | .mapping tag entries m => mergedEntries (.mapping tag entries m)
      | .loop .mapping _ => .ok []
      | other =>
        let found := other.kind.name
        faultAt inMapping mark (.otherKind "a mapping for merging" found) other.mark
    return (← mergedItems mark ns) ++ entries

/-- A value mark that is a key counts as a text. -/
def markedAsText : Node → Node
  | .scalar tag codes m => .scalar (if tag == Tag.value then Tag.str else tag) codes m
  | n => n

end

/-! ### Faults -/

/-- The tags of collections. -/
def collectionTags : List String := [Tag.seq, Tag.map, Tag.omap, Tag.pairs, Tag.set]

/-- Whether the value of a node can be a key. -/
def isHashable (n : Node) : Bool := !collectionTags.contains n.tag

/-- The fault that meeting a node shows at once. The contents of a collection come later. -/
def meet (n : Node) : Except LoadError Unit :=
  match scalarOf? n with
  | some value => value.map fun _ => ()
  | none =>
    if collectionTags.contains n.tag then .ok ()
    else nodeFault (.unknownTag n.tag) n.mark

/-- The items of a node that is a sequence. -/
def itemsOf (n : Node) : Except LoadError (List Node) :=
  match n with
  | .sequence _ items _ => .ok items
  | .loop .sequence _ => .ok []
  | n => nodeFault (.otherKind "a sequence node" n.kind.name) n.mark

/-- The entries of a node that is a mapping, with those that it merges. -/
def entriesOf (n : Node) : Except LoadError (List (Node × Node)) :=
  match n with
  | .mapping _ _ _ => mergedEntries n
  | .loop .mapping _ => .ok []
  | n => nodeFault (.otherKind "a mapping node" n.kind.name) n.mark

/-- The entry of an item of a list of pairs. -/
def pairOf (activity : Option Activity) (start : Mark) (n : Node) :
    Except LoadError (Node × Node) :=
  match n with
  | .mapping _ [entry] _ => .ok entry
  | .mapping _ entries m =>
    let count := entries.length
    faultAt activity start (.otherKind "a single mapping item" s!"{count} items") m
  | n => faultAt activity start (.otherKind "a mapping of length 1" n.kind.name) n.mark

/-- The items of a node that lists pairs. -/
def pairItems (activity : Option Activity) (n : Node) : Except LoadError (List Node) :=
  match n with
  | .sequence _ items _ => .ok items
  | n => faultAt activity n.mark (.otherKind "a sequence" n.kind.name) n.mark

/-- What a list of pairs is called in messages. -/
def pairActivity (tag : String) : Option Activity :=
  some (.constructing (if tag == Tag.omap then "an ordered map" else "pairs"))

/-- Goes through a collection as far as meeting its keys, items and values shows. Gives the items
and values. -/
def contents (n : Node) : Except LoadError (List Node) :=
  if n.tag == Tag.seq then do
    let items ← itemsOf n
    items.forM meet
    return items
  else if n.tag == Tag.omap || n.tag == Tag.pairs then do
    let activity := pairActivity n.tag
    let items ← pairItems activity n
    let values ← items.mapM fun item => do
      let (k, v) ← pairOf activity n.mark item
      meet k
      meet v
      return [k, v]
    return values.flatten
  else do
    let entries ← entriesOf n
    entries.mapM fun (k, v) => do
      meet k
      if isHashable k then
        meet v
        return v
      else faultAt inMapping n.mark .unhashableKey k.mark

/-- Goes through collections level by level. -/
def meetLevels : Nat → List Node → Except LoadError Unit
  | 0, _ => .ok ()
  | levels + 1, nodes => do
    let inside ← (nodes.filter fun n => collectionTags.contains n.tag).mapM contents
    if inside.flatten.isEmpty then .ok () else meetLevels levels inside.flatten

/-! ### Values -/

/-- The value of a scalar node; null if it has none. -/
def scalarValue (n : Node) : Value :=
  match scalarOf? n with
  | some (.ok v) => v
  | _ => .null

/-- The value of a node that stands for one that encloses it. -/
def loopValue : NodeKind → Value
  | .sequence => .loop false
  | _ => .loop true

/-- The value of a node without faults, down to the given depth. -/
def valueOf : Nat → Node → Value
  | 0, _ => .null
  | depth + 1, n =>
    match n with
    | .loop kind _ => loopValue kind
    | n =>
      if n.tag == Tag.seq then .list (((itemsOf n).toOption.getD []).map (valueOf depth))
      else if n.tag == Tag.map then .map (entryValues depth n)
      else if n.tag == Tag.set then .unordered ((entryValues depth n).map (·.1))
      else if n.tag == Tag.omap || n.tag == Tag.pairs then
        .list (((pairItems none n).toOption.getD []).map fun item =>
          match pairOf none n.mark item with
          | .ok (k, v) => .tuple [valueOf depth k, valueOf depth v]
          | .error _ => .null)
      else scalarValue n
where
  /-- The entries of a mapping with their values. -/
  entryValues (depth : Nat) (n : Node) : List (Value × Value) :=
    ((entriesOf n).toOption.getD []).foldl
      (fun acc p => Value.insertEntry (valueOf depth p.1) (valueOf depth p.2) acc) []

/-- The value of a node, or the first fault. -/
def Node.value (depth : Nat) (root : Node) : Except LoadError Value := do
  meet root
  meetLevels depth [root]
  return valueOf depth root

/-! ### Files -/

/-- The value of the only document of a file; null if there is none. -/
def load (bytes : List UInt8) : Except LoadError Value := do
  let tokens := Token.ofSource (.ofBytes bytes)
  match ← Node.ofTokens tokens with
  | none => return .null
  | some root => root.value (tokens.1.length + 1)

end DeploymentRecipes.Yaml
