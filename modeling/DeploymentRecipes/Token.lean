import DeploymentRecipes.Text.Classes
import DeploymentRecipes.Text.Substring
import DeploymentRecipes.Value.Shown

/-!
# Replacement tokens

A token is one or more word characters between braces.  `Token.find` lists the tokens of a text,
`Token.collect` enters them into a table with empty substitutions, and `Token.substitute` replaces
them one after the other, in the order of the table, by their substitutions that are not empty.
-/

namespace DeploymentRecipes

/-- Tokens with their substitutions, in the order in which they were entered. -/
abbrev TokenTable := List (String × Value)

namespace TokenTable

/-- The table with a token's substitution; a token that is present keeps its place. -/
def insert (token : String) (substitution : Value) : TokenTable → TokenTable
  | [] => [(token, substitution)]
  | (t, s) :: rest =>
    if t = token then (t, substitution) :: rest else (t, s) :: insert token substitution rest

/-- The table with all the given substitutions, entered in order. -/
def insertAll (table : TokenTable) (entries : List (String × Value)) : TokenTable :=
  entries.foldl (fun acc p => acc.insert p.1 p.2) table

end TokenTable

namespace Token

/-- The token that the characters start with, braces included, and what follows it. -/
def lead? : List Char → Option (List Char × List Char)
  | '{' :: cs =>
    match cs.takeWhile Text.isWord, cs.dropWhile Text.isWord with
    | [], _ => none
    | word, '}' :: rest => some ('{' :: (word ++ ['}']), rest)
    | _, _ => none
  | _ => none

/-- The tokens of a text from left to right; `skip` characters belong to the token before. -/
def findFrom : Nat → List Char → List (List Char)
  | _, [] => []
  | skip + 1, _ :: cs => findFrom skip cs
  | 0, c :: cs =>
    match lead? (c :: cs) with
    | some (token, _) => token :: findFrom (token.length - 1) cs
    | none => findFrom 0 cs

/-- The text in which a value has its tokens. No token has half of a surrogate pair in it. -/
def searched : Value → String
  | .str s => s
  | .halfText codes _ => Text.ofCodes codes
  | _ => ""

/-- The tokens of a text value, from left to right. Other values have none. -/
def find (v : Value) : List String := (findFrom 0 (searched v).toList).map String.ofList

/-- The table with every token of the value entered, its substitution empty. -/
def collect (v : Value) (table : TokenTable) : TokenTable :=
  (find v).foldl (fun acc t => acc.insert t (.str "")) table

/-- A substitution that is neither empty nor a text. -/
structure NotText where
  typeName : String

def NotText.message (e : NotText) : String :=
  s!"replace() argument 2 must be str, not {e.typeName}"

/-- One substitution in code points; an empty one leaves the token in place. -/
def substituteOne (codes : List Nat) (token : String) (substitution : Value) :
    Except NotText (List Nat) :=
  if substitution.holds then
    match substitution.codes? with
    | some new => .ok (Text.replaceIn codes (Text.codes token) new)
    | none => .error ⟨substitution.typeName⟩
  else .ok codes

/-- The code points with the substitutions made in turn. -/
def substituteCodes : TokenTable → List Nat → Except NotText (List Nat)
  | [], codes => .ok codes
  | (token, substitution) :: rest, codes => do
    substituteCodes rest (← substituteOne codes token substitution)

/-- The value with its tokens replaced. Only a text value has tokens. -/
def substitute (table : TokenTable) : Value → Except NotText Value
  | .str s => (substituteCodes table (Text.codes s)).map .ofCodes
  | .halfText codes _ => (substituteCodes table codes).map .ofCodes
  | v => .ok v

end Token
end DeploymentRecipes
