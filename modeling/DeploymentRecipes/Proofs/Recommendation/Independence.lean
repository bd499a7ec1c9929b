import DeploymentRecipes.Proofs.Recommendation.Evaluation
import DeploymentRecipes.Proofs.Setting.Agreement
import Mathlib

/-!
# Independence

The value and the visibility of a setting hang on the overrides of the setting itself and of what it
reaches in the dependency graph, and on the tokens.  In particular, a set elsewhere is not seen.
-/

namespace DeploymentRecipes.Recommendation

open Setting

/-- Two states of the same settings with the same tokens give a setting the same value and the same
visibility, or go wrong in the same way, if they agree on the overrides of the setting and of
everything that it reaches; and a set of which no settable setting is among these changes neither.
There may be cycles among the settings. -/
theorem evaluation_eq_of_agreeFrom {ss : List Setting} (hids : PathIds ss)
    (hdistinct : DistinctIds ss) {r : Recommendation} (hr : clearAll r.items = clearAll ss)
    {path : String} {s : Setting} (hs : (path, s) ∈ pathsUnderAll "" r.items) :
  (∀ (r' : Recommendation) (t : Setting), clearAll r'.items = clearAll ss →
      r.tokens = r'.tokens → (path, t) ∈ pathsUnderAll "" r'.items →
      AgreeFrom (dependencyGraph ss) r.items r'.items path →
      r.value s = r'.value t ∧ r.isVisible s = r'.isVisible t)
    ∧ ∀ judge target value spot u place, r.locate target = .ok (spot, u) →
      pathOf r.items "" spot = some place →
      (∀ q ∈ settable place u, q ≠ path ∧ ¬ (dependencyGraph ss).Reaches path q) →
      ∀ t, (path, t) ∈ pathsUnderAll "" (r.change (.set judge target value)).items →
        r.value s = (r.change (.set judge target value)).value t
          ∧ r.isVisible s = (r.change (.set judge target value)).isVisible t
  := by
  have hids' := hids.of_clearAll_eq hr.symm
  have hdistinct' := hdistinct.of_clearAll_eq hr.symm
  have hgeneral : ∀ (r' : Recommendation) (t : Setting), clearAll r'.items = clearAll ss →
      r.tokens = r'.tokens → (path, t) ∈ pathsUnderAll "" r'.items →
      AgreeFrom (dependencyGraph ss) r.items r'.items path →
      r.value s = r'.value t ∧ r.isVisible s = r'.isVisible t := by
    intro r' t hr' htokens ht hagree
    have hstates : States r.scene.settings r'.scene.settings := ⟨hr.trans hr'.symm, hids', hdistinct'⟩
    apply Alike.evaluation_eq hstates htokens
    rw [← dependencyGraph_eq_of_clearAll_eq hr] at hagree
    exact ⟨hs, ht, hagree⟩
  use hgeneral
  intro judge target value spot u place hlocate hplace hfar t ht
  have hchange : r.change (.set judge target value) = (r.set judge spot u value).settings := by
    rw [change, hlocate]
  have hitems : (r.change (.set judge target value)).items
      = Setting.updateAt r.items (fun _ => (setValue judge value u).settings) spot := by
    rw [hchange, set, Recommendation.updateAt, items_withItems]
  apply hgeneral _ t _ _ ht
  · rw [hitems]
    apply agreeFrom_setValue judge value hids' hdistinct' (at?_of_locate_ok hlocate) hplace hfar
  · rw [← hr]
    exact clearAll_items_run r [.set judge target value]
  · rw [hchange]
    rfl

/-- A new machine is not seen by the network. -/
theorem evaluation_eq_of_agreeFrom_webServiceOwned :
  ∃ s t, ("Network", s) ∈ pathsUnderAll "" webServiceOwned.items
    ∧ ("Network", t) ∈ pathsUnderAll ""
      (webServiceOwned.change (.set unjudged (some "Machine") (.str "small"))).items
    ∧ webServiceOwned.value s
      = (webServiceOwned.change (.set unjudged (some "Machine") (.str "small"))).value t
  := by
  have hids : PathIds (webService.settings ++ []) := by decide
  have hdistinct : DistinctIds (webService.settings ++ []) := by decide
  have hstate : IsStateOf webService [] webServiceOwned := ⟨".", 0, [], _, rfl⟩
  obtain ⟨⟨_, s⟩, hs, rfl⟩ :
      ∃ p ∈ pathsUnderAll "" webServiceOwned.items, p.1 = "Network" := by decide +kernel
  obtain ⟨⟨_, t⟩, ht, rfl⟩ : ∃ p ∈ pathsUnderAll ""
      (webServiceOwned.change (.set unjudged (some "Machine") (.str "small"))).items,
      p.1 = "Network" := by decide +kernel
  obtain ⟨-, hset⟩ := evaluation_eq_of_agreeFrom hids hdistinct hstate.clearAll_items hs
  have hlocate : webServiceOwned.locate (some "Machine")
      = .ok ([0], plain "Machine" .string (.str "{Size}") [] []) := by cbv
  have hplace : pathOf webServiceOwned.items "" [0] = some "Machine" := by decide +kernel
  have hclosed : (dependencyGraph (webService.settings ++ [])).TargetsFollow
      ["Network", "Network.Subnet", "Network.Vpc", "Tags"] := by
    refine ⟨?_, ?_, ?_, ?_, trivial⟩ <;> decide +kernel
  use s, t, hs, ht
  apply (hset unjudged (some "Machine") (.str "small") [0] _ "Machine" hlocate hplace _ t ht).1
  intro q hq
  obtain rfl : q = "Machine" := List.mem_singleton.mp hq
  constructor
  · decide
  · intro hreaches
    have hmem := hclosed.mem_of_reaches List.mem_cons_self hreaches
    revert hmem
    decide

end DeploymentRecipes.Recommendation
