import DeploymentRecipes.Text.Classes
import DeploymentRecipes.Text.Substring

/-!
# Environment files

An environment file assigns values to names, a line for each, as a shell script does.  A value is
bare, or quoted and then free to hold line ends; a name may stand without a value.  Lines that are
no assignment are passed over.  Afterwards each `${name}` in a value is replaced by what the
name stands for at that point, earlier lines going before the environment.
-/

namespace DeploymentRecipes

/-- The variables of an environment, each name once. -/
abbrev Environment := List (String × String)

/-- The value of a variable. -/
def Environment.get? (env : Environment) (name : String) : Option String :=
  (env.find? (·.1 == name)).map (·.2)

namespace EnvFile

/-- A name with its value, if one is assigned. -/
structure Assignment where
  name : String
  value : Option String
  deriving DecidableEq

/-- A reader's result and the rest of the text, or the place where it failed. -/
abbrev Reading (α : Type) := Except (List Char) (α × List Char)

/-! ### Lines -/

/-- White space within a line. -/
def isInlineBlank (c : Char) : Bool := Text.isBlank c && c != '\n'

def skipBlanks (cs : List Char) : List Char := cs.dropWhile isInlineBlank

/-- The text after the end of the current line. -/
def nextLine (cs : List Char) : List Char := (cs.dropWhile (· != '\n')).tail

/-- The text after a comment, if one comes next. -/
def skipRemark (cs : List Char) : List Char :=
  match skipBlanks cs with
  | '#' :: rest => rest.dropWhile (· != '\n')
  | _ => cs

/-- The text after the word that marks a variable for export, if it comes next. -/
def skipExport (cs : List Char) : List Char :=
  match Text.dropLead? "export".toList cs with
  | some (c :: rest) => if isInlineBlank c then skipBlanks rest else cs
  | _ => cs

/-- The end of a line, white space before it included. -/
def readLineEnd (cs : List Char) : Reading Unit :=
  match skipBlanks cs with
  | [] => .ok ((), [])
  | '\n' :: rest => .ok ((), rest)
  | _ => .error cs

/-! ### Names -/

/-- A name between single quotes. -/
def readQuotedName (cs : List Char) : Reading String :=
  let name := (cs.drop 1).takeWhile (· != '\'')
  match (cs.drop 1).dropWhile (· != '\'') with
  | _ :: rest => if name.isEmpty then .error cs else .ok (String.ofList name, rest)
  | [] => .error cs

/-- Whether a character may stand in a name without quotes. -/
def isNameChar (c : Char) : Bool := !(c = '=' || c = '#' || Text.isBlank c)

/-- The name at the beginning of a line; a comment has none. -/
def readName (cs : List Char) : Reading (Option String) :=
  match cs.head? with
  | some '#' => .ok (none, cs)
  | some '\'' => (readQuotedName cs).map fun p => (some p.1, p.2)
  | _ =>
    match cs.takeWhile isNameChar with
    | [] => .error cs
    | name => .ok (some (String.ofList name), cs.drop name.length)

/-! ### Values -/

/-- The characters up to the closing quote, after those read before, latest first. A quote after a
backslash closes only if no other does, and then the last one. -/
def closeQuote (quote : Char) : List Char → List Char → Option (List Char × List Char) →
    Option (List Char × List Char)
  | [], _, last => last
  | c :: cs, acc, last =>
    if c = quote then some (acc.reverse, cs)
    else match cs with
      | d :: ds =>
        if c = '\\' ∧ d = quote then closeQuote quote ds (d :: c :: acc) (some ((c :: acc).reverse, ds))
        else closeQuote quote (d :: ds) (c :: acc) last
      | [] => last

/-- What a character after a backslash stands for between double quotes. -/
def doubleEscape? : Char → Option Char
  | '\\' => some '\\'
  | '\'' => some '\''
  | '"' => some '"'
  | 'a' => some '\x07'
  | 'b' => some '\x08'
  | 'f' => some '\x0c'
  | 'n' => some '\n'
  | 'r' => some '\r'
  | 't' => some '\t'
  | 'v' => some '\x0b'
  | _ => none

/-- What a character after a backslash stands for between single quotes. -/
def singleEscape? : Char → Option Char
  | '\\' => some '\\'
  | '\'' => some '\''
  | _ => none

/-- The characters with their escapes resolved. Any other backslash stands for itself. -/
def unescape (escape? : Char → Option Char) : List Char → List Char
  | '\\' :: c :: cs =>
    match escape? c with
    | some d => d :: unescape escape? cs
    | none => '\\' :: unescape escape? (c :: cs)
  | c :: cs => c :: unescape escape? cs
  | [] => []

/-- A value between quotes. -/
def readQuoted (quote : Char) (escape? : Char → Option Char) (cs : List Char) : Reading String :=
  match closeQuote quote (cs.drop 1) [] none with
  | some (content, rest) => .ok (String.ofList (unescape escape? content), rest)
  | none => .error cs

/-- The characters before white space that a comment follows. -/
def cutRemark : List Char → List Char
  | [] => []
  | c :: cs =>
    if Text.isBlank c && (cs.dropWhile Text.isBlank).head? == some '#' then []
    else c :: cutRemark cs

/-- A value without quotes: the line without its comment and the white space at its end. -/
def bareValue (line : List Char) : String :=
  String.ofList ((cutRemark line).reverse.dropWhile Text.isBlank).reverse

def readValue (cs : List Char) : Reading String :=
  match cs.head? with
  | some '\'' => readQuoted '\'' singleEscape? cs
  | some '"' => readQuoted '"' doubleEscape? cs
  | _ => .ok (bareValue (cs.takeWhile (· != '\n')), cs.dropWhile (· != '\n'))

/-! ### Statements -/

/-- The value that is assigned to a name, if one is. -/
def readAssigned (cs : List Char) : Reading (Option String) :=
  match skipBlanks cs with
  | '=' :: rest => (readValue (skipBlanks rest)).map fun p => (some p.1, p.2)
  | rest => .ok (none, rest)

/-- The assignment at the beginning of a line, up to the end of the line. -/
def readAssignment (cs : List Char) : Except (List Char) (Option Assignment × List Char) := do
  let (name, cs) ← readName (skipExport cs)
  let (value, cs) ← readAssigned cs
  let (_, cs) ← readLineEnd (skipRemark cs)
  return (name.map fun n => ⟨n, value⟩, cs)

/-- What the next statement assigns, and the text after it. -/
def readStatement (cs : List Char) : Option Assignment × List Char :=
  match readAssignment cs with
  | .ok result => result
  | .error rest => (none, nextLine rest)

/-- The assignments of a text in order. -/
def assignments (cs : List Char) : List Assignment :=
  match cs.dropWhile Text.isBlank with
  | [] => []
  | c :: rest =>
    let (found, after) := readStatement (c :: rest)
    found.toList ++ (if after.length < cs.length then assignments after else [])
termination_by cs.length

/-! ### Variables in values -/

/-- A variable in a value: its name, the text that stands in for it, and the number of characters
that it takes after the dollar sign. -/
structure Reference where
  name : String
  standIn : Option String
  length : Nat

/-- The variable that follows a dollar sign. -/
def reference? (cs : List Char) : Option Reference :=
  match cs with
  | '{' :: rest =>
    let name := rest.takeWhile fun c => c != '}' && c != ':'
    match rest.drop name.length with
    | '}' :: _ => some ⟨String.ofList name, none, name.length + 2⟩
    | ':' :: '-' :: more =>
      let standIn := more.takeWhile (· != '}')
      if standIn.length < more.length then
        some ⟨String.ofList name, some (String.ofList standIn), name.length + standIn.length + 4⟩
      else none
    | _ => none
  | _ => none

/-- The variables that a text mentions. -/
def references : List Char → List Reference
  | [] => []
  | c :: cs => (if c = '$' then (reference? cs).toList else []) ++ references cs

/-- The characters with every variable replaced; `skip` characters belong to the variable before. -/
def interpolate (value : Reference → String) : List Char → Nat → List Char
  | [], _ => []
  | _ :: cs, skip + 1 => interpolate value cs skip
  | c :: cs, 0 =>
    if c = '$' then
      match reference? cs with
      | some r => (value r).toList ++ interpolate value cs r.length
      | none => c :: interpolate value cs 0
    else c :: interpolate value cs 0

/-- What a variable stands for. A name that an earlier line gives no value is empty. -/
def referenceValue (env : Environment) (earlier : List Assignment) (r : Reference) : String :=
  match earlier.find? (·.name == r.name) with
  | some a => a.value.getD ""
  | none => (env.get? r.name).getD (r.standIn.getD "")

/-- The assignments with all variables replaced, latest first, after those resolved before. -/
def resolve (env : Environment) : List Assignment → List Assignment → List Assignment
  | [], resolved => resolved
  | a :: rest, resolved =>
    let value := a.value.map fun s =>
      String.ofList (interpolate (referenceValue env resolved) s.toList 0)
    resolve env rest (⟨a.name, value⟩ :: resolved)

/-! ### Contents -/

/-- What stands in a file: names, each of them once, with the values that they are assigned. -/
structure Contents where
  assignments : List Assignment
  nodup : (assignments.map (·.name)).Nodup

/-- The variables among the names; a name without a value is none. -/
def Contents.environment (c : Contents) : Environment :=
  c.assignments.filterMap fun a => a.value.map fun s => (a.name, s)

/-- The first assignment of each name. -/
def firstOfEach : List Assignment → List Assignment
  | [] => []
  | a :: rest => a :: (firstOfEach rest).filter (·.name != a.name)

theorem nodup_firstOfEach (as : List Assignment) :
  ((firstOfEach as).map (·.name)).Nodup
  := by
  induction as with
  | nil => exact List.nodup_nil
  | cons a rest ih =>
      rw [firstOfEach, List.map_cons, List.nodup_cons]
      constructor
      · intro hmem
        obtain ⟨b, hb, hname⟩ := List.mem_map.mp hmem
        have hother := (List.mem_filter.mp hb).2
        rw [hname, bne_self_eq_false] at hother
        cases hother
      · exact (List.filter_sublist.map _).nodup ih

/-- What stands in a text with unified line ends. The last assignment of a name counts. -/
def contents (env : Environment) (cs : List Char) : Contents where
  assignments := firstOfEach (resolve env (assignments cs) [])
  nodup := nodup_firstOfEach _

end EnvFile
end DeploymentRecipes
