import DeploymentRecipes.Json.Reader

/-!
# Strict JSON

A stricter reading of JSON texts: every half of a surrogate pair has its partner, and lists and
mappings are nested at most two hundred deep, not counting empty ones.
-/

namespace DeploymentRecipes.Json

/-- The greatest depth of lists and mappings that are not empty. -/
def depthLimit : Nat := 200

/-- Whether a token holds no unpaired half. -/
def Token.isPaired : Token → Bool
  | .text codes => codes.all fun code => !(isHighHalf code || isLowHalf code)
  | _ => true

/-- Whether a token closes the innermost list or mapping. -/
def Token.isClosing : Token → Bool
  | .mark c => c = ']' || c = '}'
  | _ => false

/-- Whether a token opens a list or mapping. -/
def Token.isOpening : Token → Bool
  | .mark c => c = '[' || c = '{'
  | _ => false

/-- Whether nesting stays within the limit, from the given depth on. -/
def isShallow : Nat → List Lexeme → Bool
  | _, [] => true
  | depth, l :: ls =>
    if l.token.isOpening then
      let isEmpty := (ls.head?.map (·.token.isClosing)).getD false
      (isEmpty || depth < depthLimit) && isShallow (depth + 1) ls
    else isShallow (if l.token.isClosing then depth - 1 else depth) ls

/-- The value of a text that is strictly JSON. -/
def readStrict? (s : String) : Option Value :=
  let limit := some Numeral.digitLimit
  let lexemes := lex limit s.toList
  if lexemes.all (·.token.isPaired) && isShallow 0 lexemes then (read limit s).toOption else none

end DeploymentRecipes.Json
