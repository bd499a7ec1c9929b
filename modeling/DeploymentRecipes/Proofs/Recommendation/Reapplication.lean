import DeploymentRecipes.Proofs.Recommendation.Evaluation
import DeploymentRecipes.Proofs.Setting.Reached

/-!
# Values of an earlier deployment

The values of an earlier deployment are handed down to the recipe's settings by id, and to what stands
below objects by the mappings in them.  What becomes of every setting can be read off the values, and
nothing else of the recommendation changes; applied again they change nothing, and their order does
not matter.
-/

namespace DeploymentRecipes.Recommendation

open Setting

variable {r r' : Recommendation} {previous : List (Value × Value)} {e : SetError}

theorem applyPrevious_eq_error_iff :
  (r.applyPrevious previous).value = .error e
    ↔ (setChildren unjudged previous r.recipe.settings).failure = some e
  := by
  rw [applyPrevious]
  cases (setChildren unjudged previous r.recipe.settings).failure <;> simp

theorem applyPrevious_eq_ok_iff :
  (r.applyPrevious previous).value = .ok r'
    ↔ (setChildren unjudged previous r.recipe.settings).failure = none
      ∧ r' = { r with
        recipe := { r.recipe with
          settings := (setChildren unjudged previous r.recipe.settings).settings }
        isExisting := true }
  := by
  rw [applyPrevious]
  cases (setChildren unjudged previous r.recipe.settings).failure <;> simp [eq_comm]

/-- Values that are applied again change nothing. -/
theorem applyPrevious_of_applied (h : (r.applyPrevious previous).value = .ok r') :
  (r'.applyPrevious previous).value = .ok r'
  := by
  obtain ⟨hnone, rfl⟩ := applyPrevious_eq_ok_iff.mp h
  have htwice := setChildren_setChildren hnone
  rw [applyPrevious_eq_ok_iff]
  dsimp only
  rw [htwice]
  exact ⟨rfl, rfl⟩

/-- What the values of an earlier deployment do to a recommendation. They are refused just when an
object is reached with a value that is neither null nor a mapping, and then nothing changes. Otherwise
nothing but overrides of the recipe's settings changes: a setting has no override below an object that
is reached with null, a setting that is reached and no object has the value with which it is reached,
and every other setting keeps its own. Applied again the values change nothing, and the order of
their keys does not matter. -/
theorem isHandedDown_applyPrevious (r : Recommendation) (previous : List (Value × Value)) :
  ((∃ e, (r.applyPrevious previous).value = .error e)
      ↔ ∃ spot v, ReachesObject previous r.recipe.settings spot v ∧ Misfits v)
    ∧ (∀ e, (r.applyPrevious previous).value = .error e →
        r.change (.applyPrevious previous) = r
          ∧ ∃ spot o v, at? r.recipe.settings spot = some o ∧ o.type = .object
            ∧ reached previous r.recipe.settings spot = some v ∧ Misfits v
            ∧ e = .refused o.id mappingExpected)
    ∧ (∀ r', (r.applyPrevious previous).value = .ok r' →
        r' = { r with
            recipe := { r.recipe with settings := r'.recipe.settings }
            isExisting := true }
          ∧ clearAll r'.recipe.settings = clearAll r.recipe.settings
          ∧ (∀ spot s, at? r.recipe.settings spot = some s →
            ∃ s', at? r'.recipe.settings spot = some s'
              ∧ IsHandedDown previous r.recipe.settings spot s s'.override)
          ∧ (r'.applyPrevious previous).value = .ok r')
    ∧ ∀ other, other.Perm previous → (previous.map (·.1)).Nodup →
        (r.applyPrevious other).value = (r.applyPrevious previous).value
  := by
  refine ⟨⟨?_, ?_⟩, ?_, ?_, ?_⟩
  · rintro ⟨e, he⟩
    obtain ⟨spot, o, v, hat, hobject, hreached, hv, -⟩ :=
      exists_misfits (applyPrevious_eq_error_iff.mp he)
    exact ⟨spot, v, ⟨o, hat, hobject, hreached⟩, hv⟩
  · rintro ⟨spot, v, hreaches, hv⟩
    obtain ⟨e, he⟩ := Option.ne_none_iff_exists'.mp (failure_ne_none hreaches hv)
    exact ⟨e, applyPrevious_eq_error_iff.mpr he⟩
  · intro e he
    constructor
    · simp only [change, he]
    · exact exists_misfits (applyPrevious_eq_error_iff.mp he)
  · intro r' hr'
    have hagain := applyPrevious_of_applied hr'
    obtain ⟨hnone, rfl⟩ := applyPrevious_eq_ok_iff.mp hr'
    refine ⟨rfl, clearAll_setChildren _ _ _, ?_, hagain⟩
    intro spot s hs
    exact exists_isHandedDown hnone hs
  · intro other hperm hnodup
    have hsame : setChildren unjudged other r.recipe.settings
        = setChildren unjudged previous r.recipe.settings :=
      setChildren_congr unjudged fun s _ => Value.field?_eq_of_perm hperm hnodup s.id
    rw [applyPrevious, applyPrevious, hsame]
    cases (setChildren unjudged previous r.recipe.settings).failure <;> rfl

/-- A private subnet in the network of an earlier deployment, and no size for the machine. -/
def privateSubnet : List (Value × Value) :=
  [(.str "Network", .map [(.str "Vpc", .null), (.str "Subnet", .str "private")]),
    (.str "Machine", .null)]

theorem isHandedDown_applyPrevious_webServiceOwned :
  ∃ r' vpc subnet tags, (webServiceOwned.applyPrevious privateSubnet).value = .ok r'
    ∧ at? r'.recipe.settings [2, 0] = some vpc ∧ vpc.override = .null
    ∧ at? r'.recipe.settings [2, 1] = some subnet ∧ subnet.override = .str "private"
    ∧ at? r'.recipe.settings [1] = some tags ∧ tags.override = .map [(.str "owner", .str "ops")]
    ∧ (r'.applyPrevious privateSubnet).value = .ok r'
    ∧ (webServiceOwned.applyPrevious privateSubnet.reverse).value = .ok r'
    ∧ webServiceOwned.change (.applyPrevious [(.str "Network", .bool false)]) = webServiceOwned
  := by
  obtain ⟨-, -, happlied, horder⟩ := isHandedDown_applyPrevious webServiceOwned privateSubnet
  obtain ⟨r', hr'⟩ : ∃ r', (webServiceOwned.applyPrevious privateSubnet).value = .ok r' := ⟨_, rfl⟩
  obtain ⟨-, -, hdown, hagain⟩ := happlied r' hr'
  obtain ⟨vpc, hvpc, hnull⟩ := hdown [2, 0] _ rfl
  obtain ⟨subnet, hsubnet, hprivate⟩ := hdown [2, 1] _ rfl
  obtain ⟨tags, htags, hown⟩ := hdown [1] _ rfl
  have hnodup : (privateSubnet.map (·.1)).Nodup := by simp [privateSubnet]
  obtain ⟨hrefused, hsame, -⟩ :=
    isHandedDown_applyPrevious webServiceOwned [(.str "Network", .bool false)]
  obtain ⟨e, he⟩ := hrefused.mpr ⟨[2], .bool false, ⟨_, rfl, rfl, rfl⟩, by simp [Misfits]⟩
  refine ⟨r', vpc, subnet, tags, hr', hvpc, ?_, hsubnet, ?_, htags, ?_, hagain, ?_, (hsame e he).1⟩
  · exact hnull.assigned SettingType.noConfusion .null rfl
  · exact hprivate.assigned SettingType.noConfusion (.str "private") rfl
  · exact hown.kept (not_isCleared_singleton 1) (Or.inr rfl)
  · exact (horder _ (List.reverse_perm _) hnodup).trans hr'

end DeploymentRecipes.Recommendation
