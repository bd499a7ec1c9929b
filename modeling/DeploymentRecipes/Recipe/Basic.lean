import DeploymentRecipes.Setting.Basic

/-!
# Recipes

A recipe says how a kind of project is deployed: where to, in which form, with which settings, and
which checks a finished configuration has to pass.
-/

namespace DeploymentRecipes

/-- What a deployment creates. -/
inductive DeploymentType where
  | cdkProject
  | beanstalkEnvironment
  | elasticContainerRegistryImage
  deriving DecidableEq

namespace DeploymentType

def named : List (String × DeploymentType) := [
  ("CdkProject", .cdkProject), ("BeanstalkEnvironment", .beanstalkEnvironment),
  ("ElasticContainerRegistryImage", .elasticContainerRegistryImage)]

def name : DeploymentType → String
  | .cdkProject => "CdkProject"
  | .beanstalkEnvironment => "BeanstalkEnvironment"
  | .elasticContainerRegistryImage => "ElasticContainerRegistryImage"

end DeploymentType

/-- The form in which a project is deployed. -/
inductive BundleType where
  | container
  | dotnetPublishZipFile
  deriving DecidableEq

namespace BundleType

def named : List (String × BundleType) := [
  ("Container", .container), ("DotnetPublishZipFile", .dotnetPublishZipFile)]

def name : BundleType → String
  | .container => "Container"
  | .dotnetPublishZipFile => "DotnetPublishZipFile"

end BundleType

structure Recipe where
  id : String
  version : String
  name : String
  deploymentType : DeploymentType
  bundleType : BundleType
  projectTemplate : Option String
  projectTemplateId : Option String
  description : String
  shortDescription : String
  targetService : String
  settings : List Setting
  validators : List (CheckRequest RecipeCheck)

end DeploymentRecipes
