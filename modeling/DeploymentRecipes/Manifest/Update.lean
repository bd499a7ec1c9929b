import DeploymentRecipes.File.Path
import DeploymentRecipes.Manifest.Basic

/-!
# Keeping a manifest

Each operation takes the manifest, or none when there is no manifest yet, and gives the one
afterwards.  Stacks are kept for the first entry of an account and region.
-/

namespace DeploymentRecipes.Manifest

/-- Whether an entry belongs to an account and region. -/
def belongsTo (account region : Option String) (d : DeployedStacks) : Bool :=
  account == some d.account && region == some d.region

/-- The entry for an account and region. -/
def entryFor (m : Manifest) (account region : Option String) : Option DeployedStacks :=
  (m.deployed.getD []).find? (belongsTo account region)

/-- The entries with the stacks of the first one that qualifies changed. -/
def changeFirst (qualifies : DeployedStacks → Bool) (change : List String → List String) :
    List DeployedStacks → List DeployedStacks
  | [] => []
  | d :: ds =>
    if qualifies d then { d with stackNames := change d.stackNames } :: ds
    else d :: changeFirst qualifies change ds

/-- The manifest with the stacks of an account and region changed. -/
def changeStacks (m : Manifest) (account region : Option String)
    (change : List String → List String) : Manifest :=
  { m with deployed := m.deployed.map (changeFirst (belongsTo account region) change) }

/-! ### Deployed stacks -/

/-- A deployment that cannot be recorded, for want of an account or region. -/
structure NotRecorded where
  stack : String

def NotRecorded.message (e : NotRecorded) : String :=
  s!"Failed to update the deployment manifest file to include the last deployed to stack " ++
    s!"'{e.stack}'. The AWS Account Id or Region is not defined."

/-- Whether a name is given and not empty. -/
def given? (name : Option String) : Option String := name.filter (· != "")

/-- The list with a stack moved or put to the front. -/
def latestFirst (stack : String) (earlier : List String) : List String :=
  stack :: earlier.erase stack

/-- Records a stack as the latest deployment to an account and region. -/
def recordDeployment (m : Option Manifest) (stack : String) (account region : Option String) :
    Except NotRecorded Manifest :=
  match given? account, given? region with
  | some a, some r =>
    let m := m.getD empty
    if (m.entryFor account region).isSome then
      .ok (m.changeStacks account region (latestFirst stack))
    else .ok { m with deployed := some (m.deployed.getD [] ++ [⟨a, r, [stack]⟩]) }
  | _, _ => .error ⟨stack⟩

/-- Forgets a deployment. -/
def forgetDeployment (m : Option Manifest) (stack : String) (account region : Option String) :
    Option Manifest :=
  m.map fun m => m.changeStacks account region (·.erase stack)

/-- Keeps only the stacks that are still deployed. -/
def keepDeployed (m : Option Manifest) (deployed : List String) (account region : Option String) :
    Option Manifest :=
  m.map fun m => m.changeStacks account region (·.filter deployed.contains)

/-! ### Saved projects -/

/-- The directory of a project file, from a working directory. -/
def projectDirectory (cwd target : String) : String := Path.directory (Path.absolute cwd target)

/-- The path of the manifest beside a project file. -/
def filePath (cwd target : String) : String := Path.join (projectDirectory cwd target) fileName

/-- Adds a saved project's directory if it exists. -/
def addProject (exists_ : String → Bool) (cwd : String) (m : Option Manifest)
    (target directory : String) : Option Manifest :=
  if exists_ directory then
    let way := Path.relative (Path.absolute cwd directory) (projectDirectory cwd target)
    let entry : SavedProject := ⟨some way⟩
    match m with
    | none => some ⟨some [], some [entry]⟩
    | some m => some { m with projects := some (m.projects.getD [] ++ [entry]) }
  else m

/-- The paths of the saved projects whose directories exist. -/
def savedPaths (exists_ : String → Bool) (cwd : String) (m : Option Manifest) (target : String) :
    List String :=
  let ways := ((m.bind (·.projects)).getD []).filterMap fun p => given? p.directory
  (ways.map fun way => Path.normalize (Path.join (projectDirectory cwd target) way)).filter exists_

end DeploymentRecipes.Manifest
