/-!
# Deployment manifests

A manifest stands beside a project and remembers two things: for every account and region the
stacks that were deployed there, the latest first, and the directories of saved deployment
projects.  Either part may be left out.
-/

namespace DeploymentRecipes

/-- The stacks deployed to an account and region, the latest first. -/
structure DeployedStacks where
  account : String
  region : String
  stackNames : List String
  deriving DecidableEq

/-- A saved deployment project: the way to its directory from the project's own. -/
structure SavedProject where
  directory : Option String
  deriving DecidableEq

structure Manifest where
  deployed : Option (List DeployedStacks)
  projects : Option (List SavedProject)
  deriving DecidableEq

namespace Manifest

/-- A manifest with nothing in either part. -/
def empty : Manifest := ⟨some [], some []⟩

/-- The name of the file that holds the manifest. -/
def fileName : String := "aws-deployments.json"

/-- The name of the field for deployed stacks. -/
def deployedName : String := "lastDeployedStacks"

/-- The name of the field for saved projects. -/
def projectsName : String := "deploymentManifestEntries"

end Manifest
end DeploymentRecipes
