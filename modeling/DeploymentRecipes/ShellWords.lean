/-!
# Words of a command line

A command line is split into words at white space, as a shell does it: a backslash takes the next
character as it is, single quotes take everything up to the next one, and double quotes take
everything but `\"` and `\\`.  Quotes may open and close inside a word, and an empty pair of them
makes an empty word.
-/

namespace DeploymentRecipes.ShellWords

/-- Why a command line cannot be split. -/
inductive Fault where
  | openQuote
  | openEscape
  deriving DecidableEq

def Fault.message : Fault → String
  | .openQuote => "No closing quotation"
  | .openEscape => "No escaped character"

/-- Where the reader stands: between words, in a word, inside quotes, or after a backslash. -/
inductive Mode where
  | between
  | word
  | quote (mark : Char)
  | escape
  | quotedEscape
  deriving DecidableEq

def isSeparator (c : Char) : Bool := c = ' ' || c = '\t' || c = '\r' || c = '\n'

/-- The mode and the addition to the word that a character outside quotes leads to. -/
def enter (c : Char) : Mode × List Char :=
  if c = '\\' then (.escape, [])
  else if c = '\'' || c = '"' then (.quote c, [])
  else (.word, [c])

/-- The words of the remaining characters, after the word begun so far. -/
def scan : Mode → List Char → List Char → Except Fault (List (List Char))
  | .between, _, [] => .ok []
  | .word, acc, [] => .ok [acc]
  | .quote _, _, [] => .error .openQuote
  | .escape, _, [] | .quotedEscape, _, [] => .error .openEscape
  | .between, acc, c :: cs =>
    if isSeparator c then scan .between acc cs
    else scan (enter c).1 (enter c).2 cs
  | .word, acc, c :: cs =>
    if isSeparator c then (scan .between [] cs).map (acc :: ·)
    else scan (enter c).1 (acc ++ (enter c).2) cs
  | .quote mark, acc, c :: cs =>
    if c = mark then scan .word acc cs
    else if c = '\\' && mark = '"' then scan .quotedEscape acc cs
    else scan (.quote mark) (acc ++ [c]) cs
  | .escape, acc, c :: cs => scan .word (acc ++ [c]) cs
  | .quotedEscape, acc, c :: cs =>
    if c = '"' || c = '\\' then scan (.quote '"') (acc ++ [c]) cs
    else scan (.quote '"') (acc ++ ['\\', c]) cs

/-- The words of a command line. -/
def split (s : String) : Except Fault (List String) :=
  (scan .between [] s.toList).map (·.map String.ofList)

end DeploymentRecipes.ShellWords
