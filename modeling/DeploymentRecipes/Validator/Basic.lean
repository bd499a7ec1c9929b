import DeploymentRecipes.Schema.Field

/-!
# Validators

A validator checks the value of one setting or a recommendation as a whole.  Its class tells what
it checks, and its fields are read from a record: a class takes the fields it declares and ignores
the rest.  Every class has a message for values that fail.
-/

namespace DeploymentRecipes

/-- The names by which a recipe asks for a check of one setting. -/
inductive SettingCheck where
  | range
  | regex
  | required
  | stringLength
  | directoryExists
  | dockerBuildArgs
  | dotnetPublishArgs
  deriving DecidableEq

/-- The names by which a recipe asks for a check of the whole recommendation. -/
inductive RecipeCheck where
  | fargateTaskSize
  | minMax
  deriving DecidableEq

namespace SettingCheck

def named : List (String × SettingCheck) := [
  ("Range", .range), ("Regex", .regex), ("Required", .required), ("StringLength", .stringLength),
  ("DirectoryExists", .directoryExists), ("DockerBuildArgs", .dockerBuildArgs),
  ("DotnetPublishArgs", .dotnetPublishArgs)]

def name : SettingCheck → String
  | .range => "Range"
  | .regex => "Regex"
  | .required => "Required"
  | .stringLength => "StringLength"
  | .directoryExists => "DirectoryExists"
  | .dockerBuildArgs => "DockerBuildArgs"
  | .dotnetPublishArgs => "DotnetPublishArgs"

/-- The name of the table of these names. -/
def tableName : String := "OptionSettingItemValidatorKind"

end SettingCheck

namespace RecipeCheck

def named : List (String × RecipeCheck) := [
  ("FargateTaskSizeCpuMemoryLimits", .fargateTaskSize), ("MinMaxConstraint", .minMax)]

def name : RecipeCheck → String
  | .fargateTaskSize => "FargateTaskSizeCpuMemoryLimits"
  | .minMax => "MinMaxConstraint"

/-- The name of the table of these names. -/
def tableName : String := "RecipeValidatorKind"

end RecipeCheck

/-- The classes of validators; the two bases and `blockedArgs` are the common part of others. -/
inductive ValidatorClass where
  | settingBase
  | required
  | range
  | regex
  | stringLength
  | directoryExists
  | blockedArgs
  | dockerBuildArgs
  | dotnetPublishArgs
  | recipeBase
  | minMax
  | fargateTaskSize
  deriving DecidableEq

/-- A validator with the fields of its class. -/
inductive Validator where
  | settingBase (message : String)
  | required (message : String)
  | range (message : String) (min max : Int) (allowEmpty : Bool)
  | regex (message : String) (pattern : String) (allowEmpty : Bool)
  | stringLength (message : String) (minLength maxLength : Int)
  | directoryExists (message : String)
  | blockedArgs (message : String)
  | dockerBuildArgs (message : String)
  | dotnetPublishArgs (message : String)
  | recipeBase (message : String)
  | minMax (message : String) (minId maxId : String)
  | fargateTaskSize (message : String) (cpuId memoryId cpuMessage : String)
  deriving DecidableEq

namespace ValidatorClass

def named : List (String × ValidatorClass) := [
  ("OptionSettingItemValidator", .settingBase), ("RequiredValidator", .required),
  ("RangeValidator", .range), ("RegexValidator", .regex),
  ("StringLengthValidator", .stringLength), ("DirectoryExistsValidator", .directoryExists),
  ("_BlockedArgumentsValidator", .blockedArgs), ("DockerBuildArgsValidator", .dockerBuildArgs),
  ("DotnetPublishArgsValidator", .dotnetPublishArgs), ("RecipeValidator", .recipeBase),
  ("MinMaxConstraintValidator", .minMax),
  ("FargateTaskSizeCpuMemoryLimitsValidator", .fargateTaskSize)]

def name : ValidatorClass → String
  | .settingBase => "OptionSettingItemValidator"
  | .required => "RequiredValidator"
  | .range => "RangeValidator"
  | .regex => "RegexValidator"
  | .stringLength => "StringLengthValidator"
  | .directoryExists => "DirectoryExistsValidator"
  | .blockedArgs => "_BlockedArgumentsValidator"
  | .dockerBuildArgs => "DockerBuildArgsValidator"
  | .dotnetPublishArgs => "DotnetPublishArgsValidator"
  | .recipeBase => "RecipeValidator"
  | .minMax => "MinMaxConstraintValidator"
  | .fargateTaskSize => "FargateTaskSizeCpuMemoryLimitsValidator"

/-- The message of a class when the record gives none. -/
def defaultMessage : ValidatorClass → String
  | .settingBase | .recipeBase | .blockedArgs => ""
  | .required => "Value can not be empty"
  | .range => "Value must be greater than or equal to {{Min}} and less than or equal " ++
      "to {{Max}}"
  | .regex => "Value must match Regex {{Regex}}"
  | .stringLength =>
    "Value must be between {{MinLength}} and {{MaxLength}} characters."
  | .directoryExists => "The specified directory does not exist."
  | .dockerBuildArgs => "The Docker build arguments {{InvalidArgs}} are set by the " ++
      "deployment tool and cannot be overridden."
  | .dotnetPublishArgs => "The dotnet publish arguments {{InvalidArgs}} are set by " ++
      "the deployment tool and cannot be overridden."
  | .minMax => "The value specified for {{MinValueOptionSettingsId}} must be less " ++
      "than or equal to the value specified for {{MaxValueOptionSettingsId}}"
  | .fargateTaskSize => "Cpu value {{cpu}} is not compatible with memory value " ++
      "{{memory}}. Allowed memory values are {{memoryList}}"

end ValidatorClass

namespace Validator

/-- The class of a validator. -/
def kind : Validator → ValidatorClass
  | .settingBase _ => .settingBase
  | .required _ => .required
  | .range _ _ _ _ => .range
  | .regex _ _ _ => .regex
  | .stringLength _ _ _ => .stringLength
  | .directoryExists _ => .directoryExists
  | .blockedArgs _ => .blockedArgs
  | .dockerBuildArgs _ => .dockerBuildArgs
  | .dotnetPublishArgs _ => .dotnetPublishArgs
  | .recipeBase _ => .recipeBase
  | .minMax _ _ _ => .minMax
  | .fargateTaskSize _ _ _ _ => .fargateTaskSize

/-- The message for a refused number of vCPU units when the record gives none. -/
def defaultCpuMessage : String :=
  "Cpu value {{cpu}} is not valid. Valid values are {{validCpuValues}}"

def int32Min : Int := -2147483648
def int32Max : Int := 2147483647

/-! ### Fields -/

open Schema

def messageName : FieldName := ⟨"validationFailedMessage", "validation_failed_message"⟩
def minName : FieldName := ⟨"min", "min"⟩
def maxName : FieldName := ⟨"max", "max"⟩
def allowEmptyName : FieldName := ⟨"allowEmptyString", "allow_empty_string"⟩
def regexName : FieldName := ⟨"regex", "regex"⟩
def minLengthName : FieldName := ⟨"minLength", "min_length"⟩
def maxLengthName : FieldName := ⟨"maxLength", "max_length"⟩
def minIdName : FieldName := ⟨"minValueOptionSettingsId", "min_value_option_settings_id"⟩
def maxIdName : FieldName := ⟨"maxValueOptionSettingsId", "max_value_option_settings_id"⟩
def cpuIdName : FieldName := ⟨"cpuOptionSettingsId", "cpu_option_settings_id"⟩
def memoryIdName : FieldName := ⟨"memoryOptionSettingsId", "memory_option_settings_id"⟩
def cpuMessageName : FieldName :=
  ⟨"invalidCpuValueValidationFailedMessage", "invalid_cpu_value_validation_failed_message"⟩

/-- The message field of a record for the given class. -/
def readMessage (c : ValidatorClass) (r : Record) : Checked String :=
  optional r messageName c.defaultMessage string

/-- A validator of the given class from the fields of a record. -/
def ofRecord (c : ValidatorClass) (r : Record) : Checked Validator :=
  match c with
  | .settingBase => .settingBase <$> readMessage c r
  | .required => .required <$> readMessage c r
  | .range => .range <$> readMessage c r <*> optional r minName int32Min int <*>
      optional r maxName int32Max int <*> optional r allowEmptyName false bool
  | .regex => .regex <$> readMessage c r <*> optional r regexName "" string <*>
      optional r allowEmptyName false bool
  | .stringLength => .stringLength <$> readMessage c r <*> optional r minLengthName 0 int <*>
      optional r maxLengthName int32Max int
  | .directoryExists => .directoryExists <$> readMessage c r
  | .blockedArgs => .blockedArgs <$> readMessage c r
  | .dockerBuildArgs => .dockerBuildArgs <$> readMessage c r
  | .dotnetPublishArgs => .dotnetPublishArgs <$> readMessage c r
  | .recipeBase => .recipeBase <$> readMessage c r
  | .minMax => .minMax <$> readMessage c r <*> optional r minIdName "" string <*>
      optional r maxIdName "" string
  | .fargateTaskSize => .fargateTaskSize <$> readMessage c r <*>
      optional r cpuIdName "TaskCpu" string <*> optional r memoryIdName "TaskMemory" string <*>
      optional r cpuMessageName defaultCpuMessage string

/-- The fields of a validator under their camel case names. -/
def fields (v : Validator) : List (String × Value) :=
  match v with
  | .settingBase m | .required m | .directoryExists m | .blockedArgs m | .dockerBuildArgs m
  | .dotnetPublishArgs m | .recipeBase m => [(messageName.camel, .str m)]
  | .range m lo hi e => [(messageName.camel, .str m), (minName.camel, .int lo),
      (maxName.camel, .int hi), (allowEmptyName.camel, .bool e)]
  | .regex m p e => [(messageName.camel, .str m), (regexName.camel, .str p),
      (allowEmptyName.camel, .bool e)]
  | .stringLength m lo hi => [(messageName.camel, .str m), (minLengthName.camel, .int lo),
      (maxLengthName.camel, .int hi)]
  | .minMax m a b => [(messageName.camel, .str m), (minIdName.camel, .str a),
      (maxIdName.camel, .str b)]
  | .fargateTaskSize m a b c => [(messageName.camel, .str m), (cpuIdName.camel, .str a),
      (memoryIdName.camel, .str b), (cpuMessageName.camel, .str c)]

end Validator

/-! ### Requests -/

/-- What a recipe hands to a validator: plain data, or a validator whose fields are borrowed. -/
inductive Payload where
  | data (v : Value)
  | validator (v : Validator)

/-- A request for a validator: the name of the check and the data for its fields. -/
structure CheckRequest (κ : Type) where
  check : κ
  payload : Payload

namespace CheckRequest

open Schema

/-- A request read from a record. -/
def ofRecord {κ : Type} (named : List (String × κ)) (r : Record) : Checked (CheckRequest κ) :=
  mk <$> required r ⟨"kind", "kind"⟩ (choice named) <*>
    (Payload.data <$> optional r ⟨"configuration", "configuration"⟩ .null anything)

end CheckRequest
end DeploymentRecipes
