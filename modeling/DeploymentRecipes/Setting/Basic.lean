import DeploymentRecipes.Validator.Basic

/-!
# Option settings

An option setting is a node of a tree.  Its declaration is fixed; its override, null while there
is none, is what the user has set.  A setting of type `object` stands for its children.
-/

namespace DeploymentRecipes

/-- What kind of value a setting holds. -/
inductive SettingType where
  | string
  | int
  | double
  | bool
  | keyValue
  | list
  | object
  deriving DecidableEq

namespace SettingType

def named : List (String × SettingType) := [
  ("String", .string), ("Int", .int), ("Double", .double), ("Bool", .bool),
  ("KeyValue", .keyValue), ("List", .list), ("Object", .object)]

def name : SettingType → String
  | .string => "String"
  | .int => "Int"
  | .double => "Double"
  | .bool => "Bool"
  | .keyValue => "KeyValue"
  | .list => "List"
  | .object => "Object"

end SettingType

/-- A condition for showing a setting: the target has the value. -/
structure DependencyRule where
  target : String
  value : Value

/-- What a recipe says about a setting, apart from its children. -/
structure Declaration where
  id : String
  name : String
  description : String
  type : SettingType
  defaultValue : Value
  advanced : Bool
  updatable : Bool
  dependsOn : List DependencyRule
  validators : List (CheckRequest SettingCheck)

/-- A setting with its override and its children. -/
inductive Setting where
  | node (declaration : Declaration) (override : Value) (children : List Setting)

namespace Setting

def declaration : Setting → Declaration
  | .node d _ _ => d

def override : Setting → Value
  | .node _ v _ => v

def children : Setting → List Setting
  | .node _ _ cs => cs

def id (s : Setting) : String := s.declaration.id
def type (s : Setting) : SettingType := s.declaration.type
def dependsOn (s : Setting) : List DependencyRule := s.declaration.dependsOn

def hasOverride (s : Setting) : Bool := !s.override.isNull

mutual

/-- The setting and all settings below it, a setting before its children. -/
def walk : Setting → List Setting
  | .node d v cs => .node d v cs :: walkAll cs

def walkAll : List Setting → List Setting
  | [] => []
  | s :: ss => walk s ++ walkAll ss

end

mutual

/-- The number of settings in the tree. -/
def size : Setting → Nat
  | .node _ _ cs => sizeAll cs + 1

def sizeAll : List Setting → Nat
  | [] => 0
  | s :: ss => size s + sizeAll ss

end

end Setting
end DeploymentRecipes
