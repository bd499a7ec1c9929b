import DeploymentRecipes.Json.Printer
import DeploymentRecipes.Json.Strict
import DeploymentRecipes.Manifest.Basic
import DeploymentRecipes.Schema.Field

/-!
# Manifest texts

The manifest as a JSON document.  Parts that are left out are not written, and reading takes what
writing gives; a document `null` is no manifest at all.
-/

namespace DeploymentRecipes.Manifest

open Schema

/-! ### Writing -/

def ofStacks (d : DeployedStacks) : Value :=
  .ofFields [("awsAccountId", .str d.account), ("awsRegion", .str d.region),
    ("stacks", .list (d.stackNames.map .str))]

def ofProject (p : SavedProject) : Value :=
  .ofFields ((p.directory.map fun d => ("saveCdkDirectoryRelativePath", Value.str d)).toList)

/-- The manifest as a document. -/
def toValue (m : Manifest) : Value :=
  .ofFields <|
    (m.deployed.map fun ds => (deployedName, Value.list (ds.map ofStacks))).toList ++
      (m.projects.map fun ps => (projectsName, Value.list (ps.map ofProject))).toList

/-- The text of a manifest. -/
def print (m : Manifest) : String := Json.print false 0 m.toValue

/-! ### Reading -/

/-- A list or null. -/
def listOrNull {α : Type} (read : Value → Checked α) : Value → Checked (Option (List α))
  | .null => .good none
  | v => some <$> list read v

def readStacks (r : Record) : Checked DeployedStacks :=
  .mk <$> required r ⟨"awsAccountId", "aws_account_id"⟩ string <*>
    required r ⟨"awsRegion", "aws_region"⟩ string <*>
    optional r ⟨"stacks", "stacks"⟩ [] (list string)

def readProject (r : Record) : Checked SavedProject :=
  .mk <$> optional r ⟨"saveCdkDirectoryRelativePath", "save_cdk_directory_relative_path"⟩ none
    stringOrNull

/-- A manifest read from a record. -/
def ofRecord (r : Record) : Checked Manifest :=
  .mk <$> optional r ⟨deployedName, "last_deployed_stacks"⟩ none (listOrNull (record readStacks)) <*>
    optional r ⟨projectsName, "deployment_manifest_entries"⟩ none (listOrNull (record readProject))

/-- The text is no manifest. -/
structure Invalid where
  deriving DecidableEq

def Invalid.message (_ : Invalid) : String := "The Deployment Manifest File is invalid."

/-- The manifest of a document. -/
def ofValue (v : Value) : Except Invalid Manifest :=
  match record ofRecord v with
  | .good m => .ok m
  | .bad _ => .error {}

/-- The manifest that a text holds, if it holds one. -/
def parse (text : String) : Except Invalid (Option Manifest) :=
  if Text.strip text == "null" then .ok none
  else match Json.readStrict? text with
    | none => .error {}
    | some v => (ofValue v).map some

end DeploymentRecipes.Manifest
