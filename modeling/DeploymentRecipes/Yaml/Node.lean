import DeploymentRecipes.Yaml.Tag
import DeploymentRecipes.Yaml.Token

/-!
# YAML nodes

The tokens of a text make up a tree of nodes, each with its tag and the place where it starts.  An
alias stands for the node of its anchor; one inside that very node is a loop.  `Node.ofTokens`
reads the single document of a text.  Reading a node or one more entry of a collection takes at
least one token, so twice the number of tokens bounds the depth of the calls.
-/

namespace DeploymentRecipes.Yaml

/-- The kinds of nodes. -/
inductive NodeKind where
  | scalar
  | sequence
  | mapping
  deriving DecidableEq

def NodeKind.name : NodeKind → String
  | .scalar => "scalar"
  | .sequence => "sequence"
  | .mapping => "mapping"

/-- A node. `loop` stands for a node that encloses it. -/
inductive Node where
  | scalar (tag : String) (codes : List Nat) (mark : Mark)
  | sequence (tag : String) (items : List Node) (mark : Mark)
  | mapping (tag : String) (entries : List (Node × Node)) (mark : Mark)
  | loop (kind : NodeKind) (mark : Mark)

namespace Node

instance : Inhabited Node := ⟨.scalar "" [] default⟩

def kind : Node → NodeKind
  | .scalar _ _ _ => .scalar
  | .sequence _ _ _ => .sequence
  | .mapping _ _ _ => .mapping
  | .loop kind _ => kind

def mark : Node → Mark
  | .scalar _ _ m | .sequence _ _ m | .mapping _ _ m | .loop _ m => m

def tag : Node → String
  | .scalar tag _ _ | .sequence tag _ _ | .mapping tag _ _ => tag
  | .loop .sequence _ => Tag.seq
  | .loop _ _ => Tag.map

/-- The null that an empty place counts as. -/
def empty (m : Mark) : Node := .scalar Tag.null [] m

end Node

/-! ### Reading tokens -/

/-- What is left to read, with the error that ends it, the meanings of tag handles, and the nodes
of the anchors so far. -/
structure Reading where
  lexemes : List Lexeme
  failure : Option LoadError
  handles : List (String × String)
  anchors : List (String × Node)

abbrev Read := StateT Reading (Except LoadError)

/-- The next lexeme, which stays. -/
def peekLexeme : Read Lexeme := do
  match (← get).lexemes, (← get).failure with
  | l :: _, _ => return l
  | [], some e => throw e
  | [], none => return ⟨.streamEnd, default, default⟩

/-- Passes over the next lexeme. -/
def dropLexeme : Read Unit := modify fun s => { s with lexemes := s.lexemes.tail }

/-- Reports a problem. -/
def fail {α : Type} (activity : Option Activity) (start : Option Mark) (problem : Problem)
    (mark : Mark) : Read α := fun _ => faultAt activity start problem mark

/-! ### Properties of nodes -/

/-- The properties in front of a node, where the first of them starts and the last ends. -/
structure Properties where
  anchor : Option String
  tag : Option String
  start : Option Mark

/-- The meaning of a tag. -/
def tagMeaning (t : TagText) (start mark : Mark) : Read String := do
  match t.handle with
  | none => return t.suffix
  | some handle =>
    match (← get).handles.find? (·.1 == handle) with
    | some (_, meaning) => return meaning ++ t.suffix
    | none => fail (some (.parsing "a node")) start (.unknownHandle handle) mark

/-- The properties in front of a node: at most one anchor and one tag, in any order. -/
def readProperties : Read Properties := do
  let first ← peekLexeme
  match first.token with
  | .anchor name => do
    dropLexeme
    let second ← peekLexeme
    match second.token with
    | .tag t => do
      dropLexeme
      return ⟨some name, some (← tagMeaning t first.start second.start), some first.start⟩
    | _ => return ⟨some name, none, some first.start⟩
  | .tag t => do
    dropLexeme
    let second ← peekLexeme
    let anchor ← match second.token with
      | .anchor name => do
        dropLexeme
        pure (some name)
      | _ => pure none
    return ⟨anchor, some (← tagMeaning t first.start first.start), some first.start⟩
  | _ => return ⟨none, none, none⟩

/-- Enters the node of an anchor; an anchor may be entered once. -/
def enterAnchor (anchor : Option String) (node : Node) : Read Unit := do
  match anchor with
  | none => return ()
  | some name =>
    match (← get).anchors.find? (·.1 == name) with
    | some (_, first) => fail (some (.firstOccurrence name)) first.mark .secondOccurrence node.mark
    | none => modify fun s => { s with anchors := s.anchors ++ [(name, node)] }

/-- Replaces the node of an anchor by the finished one. -/
def settleAnchor (anchor : Option String) (node : Node) : Read Unit :=
  match anchor with
  | none => return ()
  | some name => modify fun s =>
      { s with anchors := s.anchors.map fun p => if p.1 == name then (name, node) else p }

/-- The tag of a scalar: its own, or the one that its form gives. -/
def scalarTag (tag : Option String) (plain : Bool) (codes : List Nat) : String :=
  let byForm := Tag.ofText (codes.map Text.charOfCode)
  match tag with
  | none => if plain then byForm else Tag.str
  | some t => if t == Tag.unspecific then byForm else t

/-- The tag of a collection: its own, or the usual one. -/
def collectionTag (tag : Option String) (usual : String) : String :=
  match tag with
  | none => usual
  | some t => if t == Tag.unspecific then usual else t

/-- A scalar with its properties. -/
def finishScalar (p : Properties) (plain : Bool) (codes : List Nat) (start : Mark) : Read Node := do
  let node : Node := .scalar (scalarTag p.tag plain codes) codes start
  enterAnchor p.anchor node
  return node

/-- A sequence with its properties, its items read by the given reader. -/
def finishSequence (p : Properties) (start : Mark) (items : Read (List Node)) : Read Node := do
  enterAnchor p.anchor (.loop .sequence start)
  let node : Node := .sequence (collectionTag p.tag Tag.seq) (← items) start
  settleAnchor p.anchor node
  return node

/-- A mapping with its properties, its entries read by the given reader. -/
def finishMapping (p : Properties) (start : Mark) (entries : Read (List (Node × Node))) :
    Read Node := do
  enterAnchor p.anchor (.loop .mapping start)
  let node : Node := .mapping (collectionTag p.tag Tag.map) (← entries) start
  settleAnchor p.anchor node
  return node

/-! ### Nodes -/

/-- Where a node stands: in a flow collection, in a block, or in a block where the entries of a
sequence need not be indented. -/
inductive Position where
  | flow
  | block
  | blockValue
  deriving DecidableEq

def Position.inBlock (p : Position) : Bool := p != .flow

/-- The name of a position in messages. -/
def Position.name (p : Position) : String :=
  if p.inBlock then "a block node" else "a flow node"

/-- Whether a token leaves the place before it empty. -/
def Token.endsBlockEntry : Token → Bool
  | .blockEntry | .blockEnd => true
  | _ => false

def Token.endsIndentless : Token → Bool
  | .blockEntry | .key | .value | .blockEnd => true
  | _ => false

def Token.endsBlockPart : Token → Bool
  | .key | .value | .blockEnd => true
  | _ => false

def Token.endsPairKey : Token → Bool
  | .value | .flowEntry | .flowSequenceEnd => true
  | _ => false

def Token.endsPairValue : Token → Bool
  | .flowEntry | .flowSequenceEnd => true
  | _ => false

def Token.endsFlowKey : Token → Bool
  | .value | .flowEntry | .flowMappingEnd => true
  | _ => false

def Token.endsFlowValue : Token → Bool
  | .flowEntry | .flowMappingEnd => true
  | _ => false

/-- A node after a mark that has been passed over, or null if the next token leaves its place
empty. -/
def orEmpty (isEnd : Token → Bool) (mark : Lexeme) (node : Read Node) : Read Node := do
  let next ← peekLexeme
  if isEnd next.token then return .empty mark.stop else node

/-- The value of an entry: after a colon, or null without one. -/
def afterColon (isEnd : Token → Bool) (node : Read Node) : Read Node := do
  let next ← peekLexeme
  match next.token with
  | .value => do
    dropLexeme
    orEmpty isEnd next node
  | _ => return .empty next.start

/-- Passes over the comma between entries of a flow collection. -/
def comma (first : Bool) (activity expected : String) (start : Mark) : Read Unit := do
  if first then return ()
  let next ← peekLexeme
  match next.token with
  | .flowEntry => dropLexeme
  | t => fail (some (.parsing activity)) start (.noDelimiter expected t.id) next.start

mutual

/-- The node that comes next. -/
def readNode : Nat → Position → Read Node
  | 0, _ => return default
  | depth + 1, position => do
    let first ← peekLexeme
    match first.token with
    | .alias name => do
      dropLexeme
      match (← get).anchors.find? (·.1 == name) with
      | some (_, node) => return node
      | none => fail none none (.unknownAlias name) first.start
    | _ => do
      let p ← readProperties
      readContent depth position p

/-- The contents of a node after its properties. -/
def readContent : Nat → Position → Properties → Read Node
  | 0, _, _ => return default
  | depth + 1, position, p => do
    let l ← peekLexeme
    let start := p.start.getD l.start
    match l.token with
    | .scalar codes plain => do
      dropLexeme
      finishScalar p plain codes start
    | .flowSequenceStart => finishSequence p start do
        dropLexeme
        readFlowItems depth l.start true
    | .flowMappingStart => finishMapping p start do
        dropLexeme
        readFlowEntries depth l.start true
    | .blockEntry =>
      if position = .blockValue then finishSequence p start (readIndentless depth)
      else readAbsent position p l start
    | .blockSequenceStart =>
      if position.inBlock then finishSequence p start do
        dropLexeme
        readBlockItems depth l.start
      else readAbsent position p l start
    | .blockMappingStart =>
      if position.inBlock then finishMapping p start do
        dropLexeme
        readBlockEntries depth l.start
      else readAbsent position p l start
    | _ => readAbsent position p l start

/-- A node without contents, which needs properties. -/
def readAbsent (position : Position) (p : Properties) (l : Lexeme) (start : Mark) : Read Node :=
  if p.anchor.isSome || p.tag.isSome then finishScalar p true [] start
  else fail (some (.parsing position.name)) start (.token "the node content" l.token.id) l.start

/-- The items of a block sequence that starts at a place. -/
def readBlockItems : Nat → Mark → Read (List Node)
  | 0, _ => return []
  | depth + 1, start => do
    let l ← peekLexeme
    match l.token with
    | .blockEntry => do
      dropLexeme
      let node ← orEmpty Token.endsBlockEntry l (readNode depth .block)
      return node :: (← readBlockItems depth start)
    | .blockEnd => do
      dropLexeme
      return []
    | t => fail (some (.parsing "a block collection")) start (.token "<block end>" t.id) l.start

/-- The items of a sequence that is not indented. -/
def readIndentless : Nat → Read (List Node)
  | 0 => return []
  | depth + 1 => do
    let l ← peekLexeme
    match l.token with
    | .blockEntry => do
      dropLexeme
      let node ← orEmpty Token.endsIndentless l (readNode depth .block)
      return node :: (← readIndentless depth)
    | _ => return []

/-- The entries of a block mapping that starts at a place. -/
def readBlockEntries : Nat → Mark → Read (List (Node × Node))
  | 0, _ => return []
  | depth + 1, start => do
    let l ← peekLexeme
    match l.token with
    | .key => do
      dropLexeme
      let key ← orEmpty Token.endsBlockPart l (readNode depth .blockValue)
      let value ← afterColon Token.endsBlockPart (readNode depth .blockValue)
      return (key, value) :: (← readBlockEntries depth start)
    | .blockEnd => do
      dropLexeme
      return []
    | t => fail (some (.parsing "a block mapping")) start (.token "<block end>" t.id) l.start

/-- The items of a flow sequence that starts at a place. -/
def readFlowItems : Nat → Mark → Bool → Read (List Node)
  | 0, _, _ => return []
  | depth + 1, start, first => do
    match (← peekLexeme).token with
    | .flowSequenceEnd => do
      dropLexeme
      return []
    | _ => do
      comma first "a flow sequence" "',' or ']'" start
      let l ← peekLexeme
      match l.token with
      | .flowSequenceEnd => do
        dropLexeme
        return []
      | .key => do
        dropLexeme
        let key ← orEmpty Token.endsPairKey l (readNode depth .flow)
        let value ← afterColon Token.endsPairValue (readNode depth .flow)
        return .mapping Tag.map [(key, value)] l.start :: (← readFlowItems depth start false)
      | _ => do
        let node ← readNode depth .flow
        return node :: (← readFlowItems depth start false)

/-- The entries of a flow mapping that starts at a place. -/
def readFlowEntries : Nat → Mark → Bool → Read (List (Node × Node))
  | 0, _, _ => return []
  | depth + 1, start, first => do
    match (← peekLexeme).token with
    | .flowMappingEnd => do
      dropLexeme
      return []
    | _ => do
      comma first "a flow mapping" r"',' or '}'" start
      let l ← peekLexeme
      match l.token with
      | .flowMappingEnd => do
        dropLexeme
        return []
      | .key => do
        dropLexeme
        let key ← orEmpty Token.endsFlowKey l (readNode depth .flow)
        let value ← afterColon Token.endsFlowValue (readNode depth .flow)
        return (key, value) :: (← readFlowEntries depth start false)
      | _ => do
        let key ← readNode depth .flow
        let next ← peekLexeme
        return (key, .empty next.start) :: (← readFlowEntries depth start false)

end

/-! ### Documents -/

/-- The tag handles that every document has. -/
def usualHandles : List (String × String) := [("!", "!"), ("!!", Tag.common "")]

/-- The directives in front of a document: whether a version has been given and the tag
handles. -/
def readDirectives : Nat → Bool → List (String × String) → Read (List (String × String))
  | 0, _, handles => return handles
  | rounds + 1, hasVersion, handles => do
    let l ← peekLexeme
    match l.token with
    | .directive d => do
      dropLexeme
      match d with
      | .version major =>
        if hasVersion then fail none none .secondVersion l.start
        else if major ≠ 1 then fail none none .otherVersion l.start
        else readDirectives rounds true handles
      | .handle handle lead =>
        if handles.any (·.1 == handle) then fail none none (.secondHandle handle) l.start
        else readDirectives rounds hasVersion (handles ++ [(handle, lead)])
      | .other => readDirectives rounds hasVersion handles
    | _ => return handles

/-- Passes over marks of the end of a document. -/
def dropDocumentEnds : Nat → Read Unit
  | 0 => return ()
  | rounds + 1 => do
    match (← peekLexeme).token with
    | .documentEnd => do
      dropLexeme
      dropDocumentEnds rounds
    | _ => return ()

/-- The opening of a document with its own mark: the place where it starts, or none at the end of
the text. -/
def openDocument (size : Nat) : Read (Option Mark) := do
  dropDocumentEnds size
  let l ← peekLexeme
  match l.token with
  | .streamEnd => return none
  | _ => do
    let handles ← readDirectives size false []
    let next ← peekLexeme
    match next.token with
    | .documentStart => do
      dropLexeme
      modify fun s => { s with handles := handles ++ usualHandles }
      return some l.start
    | t => fail none none (.token "'<document start>'" t.id) next.start

def Token.endsDocument : Token → Bool
  | .directive _ | .documentStart | .documentEnd | .streamEnd => true
  | _ => false

/-- The root of the first document, if there is one. -/
def readFirst (size : Nat) : Read (Option Node) := do
  let isExplicit := match (← peekLexeme).token with
    | .directive _ | .documentStart | .streamEnd => true
    | _ => false
  if isExplicit then
    match ← openDocument size with
    | none => return none
    | some _ => do
      let next ← peekLexeme
      if next.token.endsDocument then return some (.empty next.start)
      else return some (← readNode size .block)
  else return some (← readNode size .block)

/-- The root of the only document. -/
def readSingle (size : Nat) : Read (Option Node) := do
  match ← readFirst size with
  | none => return none
  | some root => do
    match ← openDocument size with
    | none => return some root
    | some second => fail (some .singleDocument) root.mark .secondDocument second

/-- The root of the only document of a text, if it has one. -/
def Node.ofTokens (tokens : List Lexeme × Option LoadError) : Except LoadError (Option Node) :=
  let size := 2 * tokens.1.length + 4
  ((readSingle size).run ⟨tokens.1, tokens.2, usualHandles, []⟩).map (·.1)

end DeploymentRecipes.Yaml
