import DeploymentRecipes.Proofs.Dependency.BackEdge
import DeploymentRecipes.Proofs.Recommendation.Run
import DeploymentRecipes.Proofs.Setting.Evaluation
import Mathlib.Data.List.Permutation

/-!
# Evaluation in every state

The settings that a recommendation starts from decide whether its evaluations end.  If their
dependency graph has no cycle then they end whatever is changed later, since changes leave the graph
as it is, and if the rules name known settings then nothing goes wrong in them.
-/

namespace DeploymentRecipes

namespace Setting

variable {ss ts : List Setting}

/-- Overrides have no say in which settings are unknown. -/
theorem IsUnknownTarget.of_clearAll_eq (h : clearAll ss = clearAll ts) {e : ResolveError}
    (he : IsUnknownTarget ss e) :
  IsUnknownTarget ts e
  := by
  obtain ⟨s, hs, rule, hrule, hnone, rfl⟩ := he
  obtain ⟨t, ht, hst⟩ := exists_clear_eq h hs
  have hfind := find_clearAll ss (some rule.target)
  rw [h, find_clearAll, hnone, Option.map_none, Option.map_eq_none_iff] at hfind
  use t, ht, rule
  rw [← dependsOn_clear, hst, dependsOn_clear]
  use hrule, hfind

/-- There is no unknown setting to name when the target of every rule is found. -/
theorem not_isUnknownTarget
    (h : ∀ s ∈ walkAll ss, ∀ rule ∈ s.dependsOn, (find ss (some rule.target)).isSome)
    (e : ResolveError) :
  ¬ IsUnknownTarget ss e
  := by
  rintro ⟨s, hs, rule, hrule, hnone, -⟩
  have hsome := h s hs rule hrule
  rw [hnone] at hsome
  cases hsome

end Setting

namespace Recommendation

open Setting

/-- The states of a recommendation of a recipe and a bundle, whatever substitutions it starts with
and whatever is changed. -/
def IsStateOf (recipe : Recipe) (bundle : List Setting) (r : Recommendation) : Prop :=
  ∃ projectPath priority texts changes,
    r = (ofRecipe recipe bundle projectPath priority (TokenTable.ofTexts texts)).run changes

variable {recipe : Recipe} {bundle : List Setting} {r : Recommendation}

theorem IsStateOf.clearAll_items (hr : IsStateOf recipe bundle r) :
  clearAll r.items = clearAll (recipe.settings ++ bundle)
  := by
  obtain ⟨projectPath, priority, texts, changes, rfl⟩ := hr
  apply clearAll_items_run

/-- The tokens of the defaults come first in the table, in their order. -/
theorem IsStateOf.extends_tokens (hr : IsStateOf recipe bundle r) :
  (collectTokens (recipe.settings ++ bundle) []).Extends r.tokens
  := by
  obtain ⟨projectPath, priority, texts, changes, rfl⟩ := hr
  apply extends_tokens_run
  apply extends_tokens_ofRecipe _ _ _ _ (TokenTable.isText_ofTexts texts)

/-- Without cycles among the settings that a recommendation starts from, every value and every
visibility is found with no more evaluations nested in one another than there are settings; only
rules for unknown settings can go wrong, and nothing can where there are none. -/
theorem evaluation_ends (hr : IsStateOf recipe bundle r)
    (hids : PathIds (recipe.settings ++ bundle))
    (hdistinct : DistinctIds (recipe.settings ++ bundle))
    (hcycles : (dependencyGraph (recipe.settings ++ bundle)).cycles = []) {s : Setting}
    (hs : s ∈ walkAll r.items) :
  (∀ limit, sizeAll (recipe.settings ++ bundle) ≤ limit →
      r.scene.valueNested limit s = r.value s ∧ r.scene.visibleNested limit s = r.isVisible s)
    ∧ (∀ e, r.value s = .error e ∨ r.isVisible s = .error e →
      IsUnknownTarget (recipe.settings ++ bundle) e)
    ∧ ((∀ t ∈ walkAll (recipe.settings ++ bundle), ∀ rule ∈ t.dependsOn,
        (find (recipe.settings ++ bundle) (some rule.target)).isSome) →
      (∃ v, r.value s = .ok v) ∧ ∃ b, r.isVisible s = .ok b)
  := by
  have hclear := hr.clearAll_items
  have hacyclic : (dependencyGraph r.scene.settings).Acyclic := by
    rw [← Graph.cycles_eq_nil_iff, scene, dependencyGraph_eq_of_clearAll_eq hclear]
    exact hcycles
  obtain ⟨hnested, hvalue, hvisible⟩ := evaluation_of_acyclic hr.extends_tokens.text
    (hids.of_clearAll_eq hclear.symm) (hdistinct.of_clearAll_eq hclear.symm) hacyclic hs
  have hcause : ∀ e, r.value s = .error e ∨ r.isVisible s = .error e →
      IsUnknownTarget (recipe.settings ++ bundle) e := by
    rintro e (he | he)
    · apply (hvalue e he).of_clearAll_eq hclear
    · apply (hvisible e he).of_clearAll_eq hclear
  refine ⟨?_, hcause, ?_⟩
  · intro limit hlimit
    apply hnested
    rwa [scene, sizeAll_eq_of_clearAll_eq hclear]
  · intro hknown
    constructor
    · apply exists_eq_ok
      intro e he
      apply not_isUnknownTarget hknown e (hcause e (Or.inl he))
    · apply exists_eq_ok
      intro e he
      apply not_isUnknownTarget hknown e (hcause e (Or.inr he))

/-- A setting without validators. -/
def plain (id : String) (type : SettingType) (defaultValue : Value)
    (dependsOn : List DependencyRule) (children : List Setting) : Setting :=
  .node ⟨id, id, "", type, defaultValue, false, true, dependsOn, []⟩ .null children

/-- A recipe for machines in a network that is only set up for an owner. -/
def webService : Recipe where
  id := "web-service"
  version := "1.0.0"
  name := "Web service"
  deploymentType := .cdkProject
  bundleType := .container
  projectTemplate := none
  projectTemplateId := none
  description := ""
  shortDescription := ""
  targetService := "Containers"
  settings := [
    plain "Machine" .string (.str "{Size}") [] [],
    plain "Tags" .keyValue .null [] [],
    plain "Network" .object .null [⟨"Tags.owner", .map [(.str "owner", .str "ops")]⟩] [
      plain "Vpc" .bool (.bool true) [] [],
      plain "Subnet" .string (.str "public") [⟨"Network.Vpc", .bool true⟩] []]]
  validators := []

/-- The service with an owner, a size for the machine and no network of its own. -/
def webServiceOwned : Recommendation :=
  (ofRecipe webService [] "." 0 (TokenTable.ofTexts [])).run [
    .set unjudged (some "Tags") (.map [(.str "owner", .str "ops")]),
    .addToken "{Size}" "large",
    .set unjudged (some "Network.Vpc") (.bool false)]

theorem evaluation_ends_webServiceOwned :
  ∃ s ∈ walkAll webServiceOwned.items, s.id = "Network"
    ∧ webServiceOwned.scene.valueNested 5 s = webServiceOwned.value s
    ∧ (∃ v, webServiceOwned.value s = .ok v) ∧ ∃ b, webServiceOwned.isVisible s = .ok b
  := by
  obtain ⟨s, hs, hid⟩ : ∃ s ∈ walkAll webServiceOwned.items, s.id = "Network" := by
    decide +kernel
  have hids : PathIds (webService.settings ++ []) := by decide
  have hdistinct : DistinctIds (webService.settings ++ []) := by decide
  have hcycles : (dependencyGraph (webService.settings ++ [])).cycles = [] := by cbv
  have hknown : ∀ t ∈ walkAll (webService.settings ++ []), ∀ rule ∈ t.dependsOn,
      (find (webService.settings ++ []) (some rule.target)).isSome := by decide
  obtain ⟨hnested, -, hends⟩ :=
    evaluation_ends ⟨".", 0, [], _, rfl⟩ hids hdistinct hcycles hs
  use s, hs, hid
  use (hnested 5 (by decide)).1
  apply hends hknown

end Recommendation
end DeploymentRecipes
