import DeploymentRecipes.Text.CodePoints

/-!
# Names of characters

A pattern may give a character by its name.  Which names there are is up to a table; the table here
has the characters of ASCII.
-/

namespace DeploymentRecipes.Regex

/-- The code points of the characters that have a name. -/
abbrev CharacterNames := String → Option Nat

/-- The names of the characters of ASCII that are neither letters nor digits. -/
def signNames : List (String × Char) := [
  ("SPACE", ' '), ("EXCLAMATION MARK", '!'), ("QUOTATION MARK", '"'), ("NUMBER SIGN", '#'),
  ("DOLLAR SIGN", '$'), ("PERCENT SIGN", '%'), ("AMPERSAND", '&'), ("APOSTROPHE", '\''),
  ("LEFT PARENTHESIS", '('), ("RIGHT PARENTHESIS", ')'), ("ASTERISK", '*'), ("PLUS SIGN", '+'),
  ("COMMA", ','), ("HYPHEN-MINUS", '-'), ("FULL STOP", '.'), ("SOLIDUS", '/'), ("COLON", ':'),
  ("SEMICOLON", ';'), ("LESS-THAN SIGN", '<'), ("EQUALS SIGN", '='), ("GREATER-THAN SIGN", '>'),
  ("QUESTION MARK", '?'), ("COMMERCIAL AT", '@'), ("LEFT SQUARE BRACKET", '['),
  ("REVERSE SOLIDUS", '\\'), ("RIGHT SQUARE BRACKET", ']'), ("CIRCUMFLEX ACCENT", '^'),
  ("LOW LINE", '_'), ("GRAVE ACCENT", '\x60'), ("LEFT CURLY BRACKET", '{'), ("VERTICAL LINE", '|'),
  ("RIGHT CURLY BRACKET", '}'), ("TILDE", '~')]

/-- The names of the digits from zero on. -/
def digitNames : List String :=
  ["ZERO", "ONE", "TWO", "THREE", "FOUR", "FIVE", "SIX", "SEVEN", "EIGHT", "NINE"]

/-- The name of a character of ASCII, if it has one. -/
def asciiName? (c : Char) : Option String :=
  if c.isUpper then some ("LATIN CAPITAL LETTER " ++ String.ofList [c])
  else if c.isLower then some ("LATIN SMALL LETTER " ++ String.ofList [c.toUpper])
  else if c.isDigit then (digitNames[c.toNat - '0'.toNat]?).map ("DIGIT " ++ ·)
  else (signNames.find? (·.2 == c)).map (·.1)

/-- The names of the characters of ASCII, in any letter case. -/
def CharacterNames.ascii : CharacterNames := fun name =>
  let wanted := String.ofList (name.toList.map Char.toUpper)
  (List.range 0x80).find? fun code => asciiName? (Char.ofNat code) == some wanted

end DeploymentRecipes.Regex
