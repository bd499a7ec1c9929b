import DeploymentRecipes.Text.Classes

/-!
# Quoted text

A text between quotes, with escapes for the quote, the backslash, line ends, tabs and every
character that cannot be shown.  Single quotes are used unless the text holds a single quote and
no double one.
-/

namespace DeploymentRecipes.Text

/-- The number in lower-case hexadecimal, padded with zeros to `width` digits. -/
def hexPadded (width n : Nat) : String :=
  let digits := Nat.toDigits 16 n
  String.ofList (List.replicate (width - digits.length) '0' ++ digits)

/-- The escape of a character that cannot be shown, by its code point. -/
def codeEscape (n : Nat) : String :=
  if n < 0x100 then "\\x" ++ hexPadded 2 n
  else if n < 0x10000 then "\\u" ++ hexPadded 4 n
  else "\\U" ++ hexPadded 8 n

/-- A character inside a text quoted with `quote`. -/
def quotedChar (quote c : Char) : String :=
  if c = quote then String.ofList ['\\', c]
  else if c = '\\' then "\\\\"
  else if c = '\n' then "\\n"
  else if c = '\r' then "\\r"
  else if c = '\t' then "\\t"
  else if isPrintable c then String.ofList [c]
  else codeEscape c.toNat

/-- The quote that a text is shown in. -/
def quoteFor (s : String) : Char :=
  if s.toList.contains '\'' && !s.toList.contains '"' then '"' else '\''

/-- The text between quotes. -/
def quoted (s : String) : String :=
  let q := quoteFor s
  String.ofList [q] ++ String.join (s.toList.map (quotedChar q)) ++ String.ofList [q]

end DeploymentRecipes.Text
