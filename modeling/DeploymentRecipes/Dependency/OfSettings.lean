import DeploymentRecipes.Dependency.Graph
import DeploymentRecipes.Setting.Path

/-!
# Dependencies among settings

The graph of what the value and the visibility of each setting hang on, over the dotted paths of
the settings, and the ids that repeat among siblings.
-/

namespace DeploymentRecipes.Setting

/-- The paths of the settings that the rules name. A rule for an unknown setting is passed over. -/
def ruleTargets (all : List Setting) (rules : List DependencyRule) : List String :=
  rules.filterMap fun rule =>
    (locate all (some rule.target)).map fun p =>
      match pathOf all "" p.1 with
      | some path => if path == "" then rule.target else path
      | none => rule.target

/-- The paths of the children, for a setting whose value is made of theirs. -/
def childTargets (path : String) (s : Setting) : List String :=
  if s.type = .object then s.children.map fun c => path ++ "." ++ c.id else []

/-- The graph that leads from the path of each setting to the paths that it hangs on. -/
def dependencyGraph (settings : List Setting) : Graph :=
  .ofList <| (pathsUnderAll "" settings).map fun p =>
    (p.1, ruleTargets settings p.2.dependsOn ++ childTargets p.1 p.2)

mutual

/-- The paths below a setting whose id repeats an earlier sibling's. -/
def repeatedBelow (path : String) : Setting → List String
  | .node _ _ cs => repeatedAmong path [] cs

/-- The repeated paths among siblings and below them, after siblings with the given ids. -/
def repeatedAmong (parent : String) (seen : List String) : List Setting → List String
  | [] => []
  | s :: ss =>
    let path := pathUnder parent s.id
    (if seen.contains s.id then [path] else []) ++ repeatedBelow path s ++
      repeatedAmong parent (s.id :: seen) ss

end

/-- The paths of all settings whose id repeats an earlier sibling's, a setting before those below
it. -/
def repeatedPaths (settings : List Setting) : List String := repeatedAmong "" [] settings

end DeploymentRecipes.Setting
