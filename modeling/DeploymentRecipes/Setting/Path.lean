import DeploymentRecipes.Setting.Basic
import DeploymentRecipes.Text.Substring

/-!
# Paths of settings

A dotted path names a setting by the ids from the top level down.  A setting of type `keyValue`
ends the path: what remains names a key inside its value.  A place is the list of positions that
leads to one node, and stays unambiguous when ids repeat.
-/

namespace DeploymentRecipes.Setting

/-- The positions that lead to a node, from the top level down. -/
abbrev Spot := List Nat

/-- The first setting with the given id, and its position. -/
def firstWithId (id : String) (settings : List Setting) : Option (Nat × Setting) :=
  (settings.zipIdx.find? (·.1.id == id)).map fun p => (p.2, p.1)

/-- The node that the segments lead to. -/
def findSegments : List String → List Setting → Option (Spot × Setting)
  | [], _ => none
  | segment :: rest, settings =>
    match firstWithId segment settings with
    | none => none
    | some (i, s) =>
      if s.type = .keyValue || rest.isEmpty then some ([i], s)
      else (findSegments rest s.children).map fun p => (i :: p.1, p.2)

/-- The node at a dotted path, and where it stands. The empty path leads nowhere. -/
def locate (settings : List Setting) (path : Option String) : Option (Spot × Setting) :=
  match path with
  | none => none
  | some p => if p == "" then none else findSegments (Text.split '.' p) settings

/-- The node at a dotted path. -/
def find (settings : List Setting) (path : Option String) : Option Setting :=
  (locate settings path).map (·.2)

/-- The path of a setting with the given id under a parent's path. -/
def pathUnder (parent id : String) : String := if parent == "" then id else parent ++ "." ++ id

/-- The dotted path of the node at a place. -/
def pathOf (settings : List Setting) (parent : String) : Spot → Option String
  | [] => none
  | i :: rest =>
    match settings[i]? with
    | none => none
    | some s =>
      let path := pathUnder parent s.id
      if rest.isEmpty then some path else pathOf s.children path rest

/-- The settings with the node at a place changed. -/
def updateAt (settings : List Setting) (change : Setting → Setting) : Spot → List Setting
  | [] => settings
  | i :: rest =>
    match settings[i]? with
    | none => settings
    | some s =>
      if rest.isEmpty then settings.set i (change s)
      else settings.set i (.node s.declaration s.override (updateAt s.children change rest))

mutual

/-- The dotted path of every node of a tree under a parent's path, a node before its children. -/
def pathsUnder (parent : String) : Setting → List (String × Setting)
  | .node d v cs =>
    let path := pathUnder parent d.id
    (path, .node d v cs) :: pathsUnderAll path cs

def pathsUnderAll (parent : String) : List Setting → List (String × Setting)
  | [] => []
  | s :: ss => pathsUnder parent s ++ pathsUnderAll parent ss

end

end DeploymentRecipes.Setting
