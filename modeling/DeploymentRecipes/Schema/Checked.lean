import DeploymentRecipes.Value.Conversion

/-!
# Checked documents

A document is read field by field, and every fault is reported with the place where it stands, in
the order of the fields.  `Checked` is a result or the list of all faults; two checked results are
combined with the faults of both.
-/

namespace DeploymentRecipes.Schema

/-- What is wrong at a place of a document. -/
inductive FaultKind where
  | missing
  | stringType
  | stringUnicode
  | boolParsing
  | boolType
  | intFromFloat
  | finiteNumber
  | intParsingSize
  | intParsing
  | intType
  | choice
  | listType
  | recordType
  deriving DecidableEq

def FaultKind.name : FaultKind → String
  | .missing => "missing"
  | .stringType => "string_type"
  | .stringUnicode => "string_unicode"
  | .boolParsing => "bool_parsing"
  | .boolType => "bool_type"
  | .intFromFloat => "int_from_float"
  | .finiteNumber => "finite_number"
  | .intParsingSize => "int_parsing_size"
  | .intParsing => "int_parsing"
  | .intType => "int_type"
  | .choice => "enum"
  | .listType => "list_type"
  | .recordType => "model_type"

/-- A fault and its place: the field names and list positions that lead to it. -/
structure Fault where
  place : List String
  kind : FaultKind

def Fault.text (f : Fault) : String := String.intercalate "." f.place ++ ": " ++ f.kind.name

/-- The fault one step further out. -/
def Fault.under (step : String) (f : Fault) : Fault := { f with place := step :: f.place }

/-- The faults of a document of the named kind. -/
structure Faults where
  document : String
  faults : List Fault

/-- The number of faults, the kind of document, and each fault with its place. -/
def Faults.message (fs : Faults) : String :=
  let count := fs.faults.length
  s!"{count} validation error" ++ (if count = 1 then "" else "s") ++ s!" for {fs.document} [" ++
    String.intercalate "; " (fs.faults.map Fault.text) ++ "]"

/-- A result, or all that is wrong. -/
inductive Checked (α : Type) where
  | good (a : α)
  | bad (faults : List Fault)

namespace Checked

def map {α β : Type} (f : α → β) : Checked α → Checked β
  | .good a => .good (f a)
  | .bad fs => .bad fs

/-- Both results, or the faults of both. -/
def ap {α β : Type} : Checked (α → β) → Checked α → Checked β
  | .good f, .good a => .good (f a)
  | .good _, .bad fs => .bad fs
  | .bad fs, .good _ => .bad fs
  | .bad fs, .bad gs => .bad (fs ++ gs)

instance : Functor Checked := ⟨map, fun a => map fun _ => a⟩
instance : Applicative Checked where
  pure := .good
  seq f a := ap f (a ())

def fault {α : Type} (kind : FaultKind) : Checked α := .bad [⟨[], kind⟩]

/-- The result one step further out. -/
def under {α : Type} (step : String) : Checked α → Checked α
  | .good a => .good a
  | .bad fs => .bad (fs.map (.under step))

/-- The result, or the faults of a document of the named kind. -/
def toExcept {α : Type} (document : String) : Checked α → Except Faults α
  | .good a => .ok a
  | .bad fs => .error ⟨document, fs⟩

end Checked
end DeploymentRecipes.Schema
