import DeploymentRecipes.Manifest.Update
import DeploymentRecipes.Text.Substring

/-!
# Deployed applications

The stacks of an account that were deployed by this tool and can be deployed again.  Those that
the manifest remembers come first, the latest deployment before earlier ones.
-/

namespace DeploymentRecipes

/-- A stack as the cloud lists it. -/
structure Stack where
  name : String
  description : Option String
  status : Option String
  tags : List (String × String)

/-- An application that a stack holds. -/
structure Application where
  name : String
  recipe : String
  status : Option String
  deriving DecidableEq

namespace Application

/-- The tag that holds the id of the recipe. -/
def recipeTag : String := "aws-dotnet-deploy"

/-- The beginning of the description of a stack made by this tool. -/
def descriptionLead : String := "AWSDotnetDeployCDKStack"

/-- The states of stacks that cannot be deployed again. -/
def excludedStates : List String := ["DELETE_IN_PROGRESS", "ROLLBACK_COMPLETE"]

/-- The recipe that a stack's tags name. -/
def recipeOf (s : Stack) : Option String :=
  Manifest.given? ((s.tags.find? (·.1 == recipeTag)).map (·.2))

/-- Whether a state allows another deployment. -/
def isOpen (status : Option String) : Bool := !((status.map excludedStates.contains).getD false)

/-- The application of a stack, if it is one and its recipe is among the given ones. -/
def ofStack? (recipes : Option (List String)) (s : Stack) : Option Application :=
  match recipeOf s with
  | none => none
  | some recipe =>
    if Text.startsWith (s.description.getD "") descriptionLead && isOpen s.status &&
        (recipes.map (·.contains recipe)).getD true then
      some ⟨s.name, recipe, s.status⟩
    else none

/-- The position of the last occurrence in a list, or its length. -/
def rank (names : List String) (name : String) : Nat :=
  match names.reverse.findIdx? (· == name) with
  | some i => names.length - 1 - i
  | none => names.eraseDups.length

/-- The applications, those deployed latest first and the others after them in their own order. -/
def byRank (recent : List String) (applications : List Application) : List Application :=
  applications.mergeSort fun a b => rank recent a.name ≤ rank recent b.name

/-- The stacks that the manifest remembers for an account and region, when all are given. -/
def recentStacks (m : Option Manifest) (account region : Option String) : Option (List String) := do
  let m ← m
  let _ ← Manifest.given? account
  let _ ← Manifest.given? region
  return ((m.entryFor account region).map (·.stackNames)).getD []

/-- The applications among the stacks. -/
def ofStacks (deployed : List Stack) (recipes : Option (List String)) (m : Option Manifest)
    (account region : Option String) : List Application :=
  let applications := deployed.filterMap (ofStack? recipes)
  match recentStacks m account region with
  | some recent => byRank recent applications
  | none => applications

end Application
end DeploymentRecipes
