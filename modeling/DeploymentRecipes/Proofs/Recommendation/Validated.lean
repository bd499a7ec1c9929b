import DeploymentRecipes.Proofs.Recommendation.Run

/-!
# Validated overrides

When every value is set with its validators asked, an override is always one that they accept.  A
set that is refused midway leaves some overrides behind, but those were accepted one by one, and
clearing leaves none.
-/

namespace DeploymentRecipes

namespace Setting

variable {place : Place} {registry : Registry SettingCheck}

/-- A value that the validators of a setting accept: all of them can be built, and each one finds
the value valid. -/
def IsAccepted (place : Place) (registry : Registry SettingCheck) (d : Declaration)
    (value : Value) : Prop :=
  ∃ vs, (registry.buildAll d.validators).value = .ok vs
    ∧ ∀ v ∈ vs, v.checkValue place value = .ok .valid

/-- Nobody objects to a value just when every validator finds it valid. -/
theorem checkAll_eq_ok_iff {setting : String} {value : Value} {vs : List Validator} :
  (checkAll place setting value vs).value = .ok ()
    ↔ ∀ v ∈ vs, v.checkValue place value = .ok .valid
  := by
  induction vs with
  | nil => simp [checkAll]
  | cons v vs ih =>
      rw [checkAll, List.forall_mem_cons]
      cases hv : v.checkValue place value with
      | error e => simp
      | ok verdict =>
          cases verdict with
          | valid => simp [ih]
          | failed message => simp

/-- A value is judged to be in order just when the validators accept it. -/
theorem judge_eq_ok_iff {d : Declaration} {value : Value} :
  (judge place registry d value).value = .ok () ↔ IsAccepted place registry d value
  := by
  rw [judge, IsAccepted]
  cases registry.buildAll d.validators with
  | mk built events =>
      cases built with
      | error e => simp
      | ok vs => simp [checkAll_eq_ok_iff]

end Setting

namespace Recommendation

open Setting

variable {place : Place} {registry : Registry SettingCheck}

/-- A change by which no value gets past its validators. -/
def Change.IsValidated (place : Place) (registry : Registry SettingCheck) : Change → Prop
  | .set judge _ _ => judge = judgeFor place registry true
  | .clear _ | .addToken _ _ => True
  | .applyPrevious _ => False

/-- A validated change lets through nothing but what the validators accept. -/
theorem Change.IsValidated.accepts {c : Change} (h : c.IsValidated place registry) :
  c.Accepts fun d value => value.isNull = false →
    d.type ≠ .object ∧ IsAccepted place registry d value
  := by
  cases c with
  | set judge path value =>
      intro d value hobject hok _
      rw [h, judgeFor, if_pos rfl] at hok
      exact ⟨hobject, judge_eq_ok_iff.mp hok⟩
  | clear spot => trivial
  | addToken token substitution => trivial
  | applyPrevious previous => exact h.elim

/-- After any run of validated changes, whether they succeed or are refused midway, only settings
that are no objects have an override, and each override is one that the validators of its setting
accept. -/
theorem overrides_accepted {recipe : Recipe} {bundle : List Setting}
    (hbare : ∀ s ∈ walkAll (recipe.settings ++ bundle), s.hasOverride = false)
    (projectPath : String) (priority : Int) (substitutions : List (String × Value))
    {changes : List Change} (hchanges : ∀ c ∈ changes, c.IsValidated place registry)
    {s : Setting}
    (hs : s ∈ walkAll
      ((ofRecipe recipe bundle projectPath priority substitutions).run changes).items)
    (hoverride : s.hasOverride = true) :
  s.type ≠ .object ∧ IsAccepted place registry s.declaration s.override
  := by
  have hstart : AllOverrides
      (fun d value => value.isNull = false → d.type ≠ .object ∧ IsAccepted place registry d value)
      (ofRecipe recipe bundle projectPath priority substitutions).items := by
    intro t ht hnull
    have hnone := hbare t ht
    rw [hasOverride, hnull] at hnone
    cases hnone
  have hend := allOverrides_run (fun _ hnull => by cases hnull) hstart
    fun c hc => (hchanges c hc).accepts
  apply hend s hs
  rwa [hasOverride, Bool.not_eq_true'] at hoverride

/-- A setting that one validator checks. -/
def checked (id : String) (type : SettingType) (check : SettingCheck)
    (fields : List (String × Value)) : Setting :=
  .node ⟨id, id, "", type, .null, false, true, [], [⟨check, .data (.ofFields fields)⟩]⟩ .null []

/-- A recipe for a listener on a port below 1024, under a name that is not empty. -/
def listener : Recipe where
  id := "listener"
  version := "1.0.0"
  name := "Listener"
  deploymentType := .cdkProject
  bundleType := .container
  projectTemplate := none
  projectTemplateId := none
  description := ""
  shortDescription := ""
  targetService := "Containers"
  settings := [
    .node ⟨"Listener", "Listener", "", .object, .null, false, true, [], []⟩ .null [
      checked "Port" .int .range [("min", .int 1), ("max", .int 1023)],
      checked "Name" .string .required []]]
  validators := []

/-- A listener on port 80 with the empty name, which is refused after the port has been set. -/
def listenerRefused : List Change := [
  .set (judgeFor .empty .settingChecks true) (some "Listener")
    (.map [(.str "Port", .int 80), (.str "Name", .str "")])]

theorem overrides_accepted_listenerRefused :
  ∃ s ∈ walkAll ((ofRecipe listener [] "." 0 []).run listenerRefused).items, s.id = "Port"
    ∧ s.hasOverride = true ∧ IsAccepted .empty .settingChecks s.declaration s.override
  := by
  have hbare : ∀ s ∈ walkAll (listener.settings ++ []), s.hasOverride = false := by decide
  have hchanges : ∀ c ∈ listenerRefused, c.IsValidated .empty .settingChecks := by
    simp [listenerRefused, Change.IsValidated]
  obtain ⟨s, hs, hid, hoverride⟩ :
      ∃ s ∈ walkAll ((ofRecipe listener [] "." 0 []).run listenerRefused).items,
        s.id = "Port" ∧ s.hasOverride = true := by
    decide +kernel
  obtain ⟨-, haccepted⟩ := overrides_accepted hbare "." 0 [] hchanges hs hoverride
  use s, hs, hid, hoverride

end Recommendation
end DeploymentRecipes
