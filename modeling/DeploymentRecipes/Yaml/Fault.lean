import DeploymentRecipes.Text.Quoted
import DeploymentRecipes.Text.Utf8
import DeploymentRecipes.Value.Conversion

/-!
# Faults of YAML texts

A fault is a problem at a place, perhaps with what was being read there and where that began.
-/

namespace DeploymentRecipes.Yaml

/-- A place in a text, counted from zero. -/
structure Mark where
  index : Nat
  line : Nat
  column : Nat
  deriving DecidableEq, Inhabited

/-- A place in words. -/
def Mark.text (file : String) (m : Mark) : String :=
  let line := m.line + 1
  let column := m.column + 1
  s!"  in \"{file}\", line {line}, column {column}"

/-- What was being read when a problem came up. -/
inductive Activity where
  | scanning (what : String)
  | parsing (what : String)
  | constructing (what : String)
  | singleDocument
  | firstOccurrence (anchor : String)

def Activity.text : Activity → String
  | .scanning what => "while scanning " ++ what
  | .parsing what => "while parsing " ++ what
  | .constructing what => "while constructing " ++ what
  | .singleDocument => "expected a single document in the stream"
  | .firstOccurrence anchor =>
    s!"found duplicate anchor {Text.quoted anchor}; first occurrence"

/-- What is wrong. -/
inductive Problem where
  | noToken (c : Char)
  | missingColon
  | notAllowed (what : String)
  | unlike (expected : String) (found : Char)
  | zeroIndentation
  | undecodable (fault : Text.Utf8Fault)
  | unknownEscape (c : Char)
  | endOfText
  | separator
  | token (expected found : String)
  | noDelimiter (expected found : String)
  | secondVersion
  | otherVersion
  | secondHandle (handle : String)
  | unknownHandle (handle : String)
  | unknownAlias (anchor : String)
  | secondOccurrence
  | secondDocument
  | otherKind (expected found : String)
  | unhashableKey
  | unknownTag (tag : String)
  | notBase64 (reason : String)
  | notAscii (reason : String)

/-- A character between quotes. -/
def quotedChar (c : Char) : String := Text.quoted (String.ofList [c])

def Problem.text : Problem → String
  | .noToken c => s!"found character {quotedChar c} that cannot start any token"
  | .missingColon => "could not find expected ':'"
  | .notAllowed what => what ++ " are not allowed here"
  | .unlike expected found => s!"expected {expected}, but found {quotedChar found}"
  | .zeroIndentation => "expected indentation indicator in the range 1-9, but found 0"
  | .undecodable fault => fault.message
  | .unknownEscape c => s!"found unknown escape character {quotedChar c}"
  | .endOfText => "found unexpected end of stream"
  | .separator => "found unexpected document separator"
  | .token expected found => s!"expected {expected}, but found {Text.quoted found}"
  | .noDelimiter expected found => s!"expected {expected}, but got {Text.quoted found}"
  | .secondVersion => "found duplicate YAML directive"
  | .otherVersion => "found incompatible YAML document (version 1.* is required)"
  | .secondHandle handle => s!"duplicate tag handle {Text.quoted handle}"
  | .unknownHandle handle => s!"found undefined tag handle {Text.quoted handle}"
  | .unknownAlias anchor => s!"found undefined alias {Text.quoted anchor}"
  | .secondOccurrence => "second occurrence"
  | .secondDocument => "but found another document"
  | .otherKind expected found => s!"expected {expected}, but found {found}"
  | .unhashableKey => "found unhashable key"
  | .unknownTag tag => s!"could not determine a constructor for the tag {Text.quoted tag}"
  | .notBase64 reason => "failed to decode base64 data: " ++ reason
  | .notAscii reason => "failed to convert base64 data into ascii: " ++ reason

structure Fault where
  activity : Option Activity
  start : Option Mark
  problem : Problem
  mark : Mark

/-- A fault in words, a line for each part. The beginning is left out where it is the place of the
problem. -/
def Fault.message (file : String) (f : Fault) : String :=
  let starts := f.start.toList.filter fun m => !(m.line == f.mark.line && m.column == f.mark.column)
  String.intercalate "\n" <|
    (f.activity.map Activity.text).toList ++ starts.map (Mark.text file) ++
      [f.problem.text, f.mark.text file]

/-! ### Values that cannot be made -/

/-- Why a scalar or an escape, though well written, has no value. `noText` is a mapping with a value
mark in the place of a date. -/
inductive Impossible where
  | codeRange
  | codeSize
  | calendar (fault : Timestamp.Fault)
  | integer (base : Nat) (text : String)
  | longInteger (count : Nat)
  | number (text : String)
  | noDigits
  | noWord (text : String)
  | noDate
  | noText
  | largeWeight
  deriving Inhabited

def Impossible.message : Impossible → String
  | .codeRange => "chr() arg not in range(0x110000)"
  | .codeSize => "Python int too large to convert to C int"
  | .calendar fault => fault.message
  | .integer base text => ConversionError.notIntegerMessage base text
  | .longInteger count => ConversionError.digitsMessage (some count)
  | .number text => (ConversionError.notNumber text).message
  | .noDigits => "string index out of range"
  | .noWord text => Text.quoted text
  | .noDate => "'NoneType' object has no attribute 'groupdict'"
  | .noText => "expected string or bytes-like object, got 'list'"
  | .largeWeight => ConversionError.tooLarge.message

/-- Why a text is not loaded. -/
inductive LoadError where
  | fault (f : Fault)
  | undecodable (fault : Text.Utf8Fault)
  | unprintable (code position : Nat)
  | impossible (e : Impossible)

/-- The line of an error, counted from one, if it is known. -/
def LoadError.line? : LoadError → Option Nat
  | .fault f => some (f.mark.line + 1)
  | _ => none

/-- An error in words, for a text from the named file. -/
def LoadError.message (file : String) : LoadError → String
  | .fault f => f.message file
  | .undecodable f => f.message
  | .unprintable code position =>
    s!"unacceptable character #x{Text.hexPadded 4 code}: special characters are not allowed\n" ++
      s!"  in \"{file}\", position {position}"
  | .impossible e => e.message

/-- A fault at a place. -/
def faultAt {α : Type} (activity : Option Activity) (start : Option Mark) (problem : Problem)
    (mark : Mark) : Except LoadError α :=
  .error (.fault ⟨activity, start, problem, mark⟩)

end DeploymentRecipes.Yaml
