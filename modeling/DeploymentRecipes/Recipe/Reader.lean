import DeploymentRecipes.Recipe.Basic
import DeploymentRecipes.Setting.Reader

/-!
# Recipes of a document

A recipe is read from a record; faults come in the order of the fields.
-/

namespace DeploymentRecipes.Recipe

open Schema

def deploymentTypeName : FieldName := ⟨"deploymentType", "deployment_type"⟩
def bundleTypeName : FieldName := ⟨"deploymentBundleType", "deployment_bundle_type"⟩
def projectTemplateName : FieldName := ⟨"cdkProjectTemplate", "cdk_project_template"⟩
def projectTemplateIdName : FieldName := ⟨"cdkProjectTemplateId", "cdk_project_template_id"⟩
def shortDescriptionName : FieldName := ⟨"shortDescription", "short_description"⟩
def targetServiceName : FieldName := ⟨"targetService", "target_service"⟩
def settingsName : FieldName := ⟨"optionSettings", "option_settings"⟩

/-- A recipe from the fields of a record. -/
def ofRecord (r : Record) : Checked Recipe :=
  mk <$>
    required r ⟨"id", "id"⟩ string <*>
    optional r ⟨"version", "version"⟩ "" string <*>
    optional r ⟨"name", "name"⟩ "" string <*>
    optional r deploymentTypeName .cdkProject (choice DeploymentType.named) <*>
    optional r bundleTypeName .container (choice BundleType.named) <*>
    optional r projectTemplateName none stringOrNull <*>
    optional r projectTemplateIdName none stringOrNull <*>
    optional r ⟨"description", "description"⟩ "" string <*>
    optional r shortDescriptionName "" string <*>
    optional r targetServiceName "" string <*>
    optional r settingsName [] (list Setting.read) <*>
    optional r ⟨"validators", "validators"⟩ []
      (list (record (CheckRequest.ofRecord RecipeCheck.named)))

/-- A recipe read from a document. -/
def ofValue (v : Value) : Except Faults Recipe := (record ofRecord v).toExcept "RecipeDefinition"

end DeploymentRecipes.Recipe
