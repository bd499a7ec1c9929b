import DeploymentRecipes.Validator.Basic
import DeploymentRecipes.ShellWords
import DeploymentRecipes.File.Place
import DeploymentRecipes.Value.Conversion

/-!
# Checks of one value

Each class of validator says which values of a setting it accepts, and with which message it turns
down the others.  A few values cannot be judged at all: an integer with too many digits has no
text, a pattern may be refused by its reader, and the owner of a directory cannot be looked up by a
name with a null character or with half of a surrogate pair.
-/

namespace DeploymentRecipes

/-- The outcome of a check. -/
inductive Verdict where
  | valid
  | failed (message : String)
  deriving DecidableEq

/-- Why a check cannot be made. -/
inductive CheckError where
  | noText
  | pattern (fault : Regex.Fault)
  | nullOwner
  | halfOwner (code first last : Nat)
  | unimplemented
  | wrongScope (className method : String)
  deriving DecidableEq

/-- The wording of an error. -/
def CheckError.message : CheckError → String
  | .noText => ConversionError.digitsMessage none
  | .pattern fault => fault.message
  | .nullOwner => "embedded null byte"
  | .halfOwner code first last =>
    "'utf-8' codec can't encode " ++
      (if first = last then s!"character '{Text.codeEscape code}' in position {first}"
        else s!"characters in position {first}-{last}") ++ ": surrogates not allowed"
  | .unimplemented => ""
  | .wrongScope className method => s!"'{className}' object has no attribute '{method}'"

namespace Validator

/-- The value as text, where null is the empty text. Half of a surrogate pair is replaced by a
character that is as little part of a number, a blank, a quote or an option as the half is. -/
def asText : Value → Except CheckError String
  | .null => .ok ""
  | v => match v.text? with
    | some s => .ok s
    | none => .error .noText

/-- The code points of the value as text. -/
def asCodes (v : Value) : Except CheckError (List Nat) :=
  match v.codes? with
  | some codes => .ok codes
  | none => (asText v).map Text.codes

/-- The message with the marks replaced, one after the other. -/
def fill (message : String) (marks : List (String × String)) : String :=
  marks.foldl (fun s p => Text.replaceAll s (r"{{" ++ p.1 ++ r"}}") p.2) message

def verdict (accepted : Bool) (message : String) : Verdict :=
  if accepted then .valid else .failed message

/-- The integer that a range check compares. Truth values and floats are none. -/
def rangeNumber? (v : Value) (text : String) : Option Int :=
  match v with
  | .bool _ => none
  | .int n => some n
  | _ => (Numeral.readInt (Text.strip text)).toOption

/-- Whether an integer lies between the bounds. -/
def inRange (lo hi : Int) (n : Option Int) : Bool :=
  match n with
  | some n => lo ≤ n && n ≤ hi
  | none => false

/-- The Docker options that the deployment sets itself. -/
def dockerBlocked : List String := ["-t", "--tag", "-f", "--file"]

/-- The publish options that the deployment sets itself. -/
def publishBlocked : List String :=
  ["-o", "--output", "-c", "--configuration", "--self-contained", "--no-self-contained"]

/-- Whether a word sets an option, with or without a value attached. -/
def setsOption (option word : String) : Bool :=
  word == option || Text.startsWith word (option ++ "=")

/-- The blocked options among the words, each once, in order of the first word that sets one. -/
def blockedHits (blocked words : List String) : List String :=
  words.foldl (fun hits word =>
    blocked.foldl (fun hits option =>
      if setsOption option word && !hits.contains option then hits ++ [option] else hits) hits) []

/-- The check for blocked options in a command line. -/
def checkBlocked (blocked : List String) (message text : String) : Verdict :=
  let line := Text.strip text
  if line == "" then .valid
  else match ShellWords.split line with
    | .error fault => .failed ("Arguments could not be parsed: " ++ fault.message)
    | .ok words =>
      let hits := blockedHits blocked words
      verdict hits.isEmpty (fill message [("InvalidArgs", Text.join ", " hits)])

/-- Whether a pattern occurs in a text. -/
def patternOccurs (place : Place) (pattern : String) (codes : List Nat) : Except CheckError Bool :=
  match place.tools.pattern pattern with
  | .ok occursIn => .ok (occursIn codes)
  | .error fault => .error (.pattern fault)

/-- A path without white space at either end. -/
def strippedCodes (codes : List Nat) : List Nat :=
  ((codes.dropWhile isBlankCode).reverse.dropWhile isBlankCode).reverse
where
  isBlankCode (code : Nat) : Bool := Text.isBlank (Text.charOfCode code)

/-- The name of the owner at whose home a path starts. -/
def ownerOf (path : List Nat) : List Nat :=
  if path.head? = some '~'.toNat then path.tail.takeWhile (· != '/'.toNat) else []

/-- Whether a code point has no byte to stand for it in the name of an owner. A half of a pair from a
certain range stands for a byte that is out of place in UTF-8. -/
def isByteless (code : Nat) : Bool := Text.isHalf code && !(0xdc80 ≤ code && code ≤ 0xdcff)

/-- What keeps the owner of a path from being looked up. -/
def ownerFault? (path : List Nat) : Option CheckError :=
  let name := ownerOf path
  match name.dropWhile (!isByteless ·) with
  | code :: rest =>
    let first := name.length - (rest.length + 1)
    some (.halfOwner code first (first + (rest.takeWhile Text.isHalf).length))
  | [] => if name.contains 0 then some .nullOwner else none

/-- Whether a path, with homes for tildes, is that of a directory. No directory has half of a pair in
its name. -/
def isDirectoryAt (place : Place) (path : List Nat) : Bool :=
  !path.any Text.isHalf && place.isDirectory (place.expandHome (Text.ofCodes path))

/-- A bound of a check in words. -/
def boundText (n : Int) : Except CheckError String := (Numeral.showInt? n).elim (.error .noText) .ok

/-- Both bounds of a check in words. -/
def boundTexts (lo hi : Int) : Except CheckError (String × String) := do
  return (← boundText lo, ← boundText hi)

/-- The outcome of a setting's validator for a value. -/
def checkValue (place : Place) (v : Validator) (value : Value) : Except CheckError Verdict :=
  match v with
  | .settingBase _ => .error .unimplemented
  | .required message => do
    return verdict ((← asText value) != "") message
  | .range message lo hi allowEmpty => do
    let (loText, hiText) ← boundTexts lo hi
    let text ← asText value
    return verdict ((allowEmpty && text == "") || inRange lo hi (rangeNumber? value text))
      (fill message [("Min", loText), ("Max", hiText)])
  | .regex message pattern allowEmpty => do
    let codes ← asCodes value
    if allowEmpty && codes.isEmpty then return .valid
    else return verdict (← patternOccurs place pattern codes) (fill message [("Regex", pattern)])
  | .stringLength message lo hi => do
    let text ← asText value
    if inRange lo hi (some text.length) then return .valid
    else
      let (loText, hiText) ← boundTexts lo hi
      return .failed (fill message [("MinLength", loText), ("MaxLength", hiText)])
  | .directoryExists message => do
    let path := strippedCodes (← asCodes value)
    match ownerFault? path with
    | some fault => .error fault
    | none => return verdict (path.isEmpty || isDirectoryAt place path) message
  | .blockedArgs message => do return checkBlocked [] message (← asText value)
  | .dockerBuildArgs message => do return checkBlocked dockerBlocked message (← asText value)
  | .dotnetPublishArgs message => do return checkBlocked publishBlocked message (← asText value)
  | .recipeBase _ | .minMax _ _ _ | .fargateTaskSize _ _ _ _ =>
    .error (.wrongScope v.kind.name "validate_value")

end Validator
end DeploymentRecipes
