import DeploymentRecipes.Setting.Path
import DeploymentRecipes.Token

/-!
# Values and visibility of settings

The value of a setting is its override, or for an object the values of its visible children, or
its default; replacement tokens are filled in.  A setting is visible unless a rule's target has a
value other than the rule's.  Values and visibility depend on each other through the rules, so
they are computed with a bound on the number of rules that may be pending at once; a computation
without an end exceeds every bound, and one with an end stays within the number of settings.
-/

namespace DeploymentRecipes

/-- Whether a rule lets its setting be shown, given the value of its target. -/
def DependencyRule.admits (rule : DependencyRule) (value : Value) : Bool :=
  value.isNull || value.same rule.value

namespace Setting

/-- Why a setting has no value. -/
inductive ResolveError where
  | notFound (path : Option String)
  | substitution (e : Token.NotText)
  | endless

/-- The wording of an error, given the name of the recipe. A computation without an end has
none. -/
def ResolveError.message (recipe : String) : ResolveError → String
  | .notFound path =>
    let shown := path.getD "None"
    s!"The Option Setting Item {shown} does not exist as part of the {recipe} recipe"
  | .substitution e => e.message
  | .endless => ""

/-- A value with its tokens filled in. -/
def fillTokens (tokens : TokenTable) (v : Value) : Except ResolveError Value :=
  (Token.substitute tokens v).mapError .substitution

/-- The default value with its tokens filled in. -/
def resolvedDefault (tokens : TokenTable) (s : Setting) : Except ResolveError Value :=
  fillTokens tokens s.declaration.defaultValue

/-- A mapping without entries counts as no value. -/
def mapOrNull (entries : List (Value × Value)) : Value :=
  if entries.isEmpty then .null else .map entries

/-- Whether a child is not hidden; one that is not mentioned is shown. -/
def isShown (shown : List (String × Bool)) (id : String) : Bool :=
  ((shown.find? (·.1 == id)).map (·.2)).getD true

mutual

/-- The value of a setting, where `shown` tells which direct children are hidden and all settings
further down are shown. -/
def bareValue (tokens : TokenTable) (shown : List (String × Bool)) :
    Setting → Except ResolveError Value
  | .node d v cs =>
    if !v.isNull then fillTokens tokens v
    else if d.type = .object then (childValues tokens shown cs []).map mapOrNull
    else fillTokens tokens d.defaultValue

/-- The values of the shown children that have one, added to the entries before. -/
def childValues (tokens : TokenTable) (shown : List (String × Bool)) :
    List Setting → List (Value × Value) → Except ResolveError (List (Value × Value))
  | [], acc => .ok acc
  | s :: ss, acc =>
    if isShown shown s.id then
      match bareValue tokens [] s with
      | .error e => .error e
      | .ok v =>
        childValues tokens shown ss
          (if v.isNull then acc else Value.insertEntry (.str s.id) v acc)
    else childValues tokens shown ss acc

end

/-- The visibility of settings by id; a later one replaces an earlier one with the same id. -/
def recordShown (acc : List (String × Bool)) (id : String) (b : Bool) : List (String × Bool) :=
  if acc.any (·.1 == id) then acc.map fun p => if p.1 == id then (id, b) else p
  else acc ++ [(id, b)]

/-- The settings and tokens that values and visibility are computed from. -/
structure Scene where
  settings : List Setting
  tokens : TokenTable

namespace Scene

/-- The visibility of each setting of a list. -/
def shownAll (visible : Setting → Except ResolveError Bool) :
    List Setting → List (String × Bool) → Except ResolveError (List (String × Bool))
  | [], acc => .ok acc
  | s :: ss, acc => do
    let b ← visible s
    shownAll visible ss (recordShown acc s.id b)

/-- The value of a setting, given how to tell whether a setting is visible. -/
def valueBy (scene : Scene) (visible : Setting → Except ResolveError Bool) (s : Setting) :
    Except ResolveError Value := do
  let shown ← if s.type = .object then shownAll visible s.children [] else pure []
  bareValue scene.tokens shown s

/-- Whether all rules admit the values of their targets, up to the first that does not. -/
def rulesHold (scene : Scene) (value : Setting → Except ResolveError Value) :
    List DependencyRule → Except ResolveError Bool
  | [] => .ok true
  | rule :: rules =>
    match find scene.settings (some rule.target) with
    | none => .error (.notFound (some rule.target))
    | some target => do
      let v ← value target
      if rule.admits v then rulesHold scene value rules else return false

/-- Whether a setting is visible, with at most `bound` settings with rules pending at once. -/
def visibleWithin (scene : Scene) : Nat → Setting → Except ResolveError Bool
  | 0, s => if s.dependsOn.isEmpty then .ok true else .error .endless
  | bound + 1, s => scene.rulesHold (scene.valueBy (scene.visibleWithin bound)) s.dependsOn

/-- A bound that only an endless computation exceeds: the number of settings. -/
def bound (scene : Scene) : Nat := sizeAll scene.settings + 1

/-- Whether a setting is visible. -/
def isVisible (scene : Scene) (s : Setting) : Except ResolveError Bool :=
  scene.visibleWithin scene.bound s

/-- The value of a setting. -/
def value (scene : Scene) (s : Setting) : Except ResolveError Value :=
  scene.valueBy scene.isVisible s

/-- Whether a setting is visible and has a value whose text is not empty; none if its value has no
text. -/
def inSummary (scene : Scene) (s : Setting) : Except ResolveError (Option Bool) := do
  if ← scene.isVisible s then
    let v ← scene.value s
    if v.isNull then return some false
    else return v.text?.map (· != "")
  else return some false

end Scene
end Setting
end DeploymentRecipes
