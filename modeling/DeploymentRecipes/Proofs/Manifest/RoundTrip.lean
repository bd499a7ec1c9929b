import DeploymentRecipes.Manifest.Text
import DeploymentRecipes.Proofs.Json.RoundTrip
import DeploymentRecipes.Proofs.Text.Trim

/-!
# Reading printed manifests

A printed manifest is read back, whatever is in it: lists that are left out stay out, empty lists
stay empty, and any texts are kept.  So what is read from a text can be printed and read again.
-/

namespace DeploymentRecipes

namespace Schema

variable {α : Type}

/-- What is written element by element is read element by element. -/
theorem elementsFrom_map {write : α → Value} {read : Value → Checked α}
    (h : ∀ a, read (write a) = .good a) (i : Nat) (as : List α) :
  elementsFrom read i (as.map write) = .good as
  := by
  induction as generalizing i with
  | nil => rfl
  | cons a as ih =>
      rw [List.map_cons, elementsFrom, h, ih]
      rfl

end Schema

namespace Manifest

open Schema Json

/-! ### Documents -/

theorem listOrNull_map {α : Type} {write : α → Value} {read : Value → Checked α}
    (h : ∀ a, read (write a) = .good a) (as : List α) :
  listOrNull read (.list (as.map write)) = .good (some as)
  := by
  rw [listOrNull, list, elementsFrom_map h]
  · rfl
  · exact Value.noConfusion

theorem readStacks_ofStacks (d : DeployedStacks) :
  record readStacks (ofStacks d) = .good d
  := by
  have hnames : list string (.list (d.stackNames.map .str)) = .good d.stackNames :=
    @elementsFrom_map _ Value.str _ (fun _ => rfl) 0 d.stackNames
  change DeployedStacks.mk <$> Checked.good d.account <*> Checked.good d.region <*>
    (list string (.list (d.stackNames.map .str))).under "stacks" = .good d
  rw [hnames]
  rfl

theorem readProject_ofProject (p : SavedProject) :
  record readProject (ofProject p) = .good p
  := by
  obtain ⟨directory⟩ := p
  cases directory <;> rfl

/-- The document of a manifest is read as the manifest. -/
theorem ofValue_toValue (m : Manifest) :
  ofValue m.toValue = .ok m
  := by
  have hdeployed := listOrNull_map readStacks_ofStacks
  have hprojects := listOrNull_map readProject_ofProject
  have hread : record ofRecord m.toValue = .good m := by
    obtain ⟨deployed, projects⟩ := m
    cases deployed with
    | none =>
        cases projects with
        | none => rfl
        | some ps =>
            change Manifest.mk <$> Checked.good none <*>
              (listOrNull (record readProject) (.list (ps.map ofProject))).under projectsName = _
            rw [hprojects]
            rfl
    | some ds =>
        cases projects with
        | none =>
            change Manifest.mk <$>
              (listOrNull (record readStacks) (.list (ds.map ofStacks))).under deployedName <*>
              Checked.good none = _
            rw [hdeployed]
            rfl
        | some ps =>
            change Manifest.mk <$>
              (listOrNull (record readStacks) (.list (ds.map ofStacks))).under deployedName <*>
              (listOrNull (record readProject) (.list (ps.map ofProject))).under projectsName = _
            rw [hdeployed, hprojects]
            rfl
  rw [ofValue, hread]

theorem isTextual_toValue (m : Manifest) :
  IsTextual 4 m.toValue
  := by
  have hstacks : ∀ d : DeployedStacks, IsTextual 2 (ofStacks d) := by
    intro d
    apply IsTextual.map
    · simp
    · rw [List.forall_mem_cons, List.forall_mem_cons, List.forall_mem_singleton]
      refine ⟨.text _ _, .text _ _, .list ?_⟩
      rw [List.forall_mem_map]
      exact fun name _ => .text _ name
  have hproject : ∀ p : SavedProject, IsTextual 2 (ofProject p) := by
    rintro ⟨directory⟩
    cases directory with
    | none => exact .map List.nodup_nil (List.forall_mem_nil _)
    | some d => exact .map (List.nodup_singleton _) (List.forall_mem_singleton.mpr (.text _ d))
  obtain ⟨deployed, projects⟩ := m
  apply IsTextual.map
  · cases deployed <;> cases projects <;> simp [deployedName, projectsName]
  · intro f hf
    rcases List.mem_append.mp hf with hf | hf
    · cases deployed with
      | none => cases hf
      | some ds =>
          rw [List.mem_singleton.mp hf]
          exact .list (List.forall_mem_map.mpr fun d _ => hstacks d)
    · cases projects with
      | none => cases hf
      | some ps =>
          rw [List.mem_singleton.mp hf]
          exact .list (List.forall_mem_map.mpr fun p _ => hproject p)

/-! ### Texts -/

/-- A printed manifest is not taken for the document that stands for no manifest. -/
theorem strip_print_ne_null (m : Manifest) :
  (Text.strip (print m) == "null") = false
  := by
  obtain ⟨c, cs, hcons, hc⟩ := exists_print_eq_cons (isTextual_toValue m) 0
  have hkept : c ∈ (Text.strip (print m)).toList := by
    rw [Text.strip, String.toList_ofList]
    apply Text.mem_trimBoth
    · simp only [List.mem_cons, List.not_mem_nil, or_false] at hc
      rcases hc with rfl | rfl | rfl <;> rfl
    · rw [print, hcons]
      exact List.mem_cons_self
  rw [beq_eq_false_iff_ne]
  intro hnull
  rw [hnull] at hkept
  revert hkept
  simp only [List.mem_cons, List.not_mem_nil, or_false] at hc
  rcases hc with rfl | rfl | rfl <;> decide

/-- Every manifest is read from its printed text. So whatever manifest a text holds, printing it gives
a text that holds the same manifest and that does not change when it is read and printed again. -/
theorem parse_print :
  (∀ m : Manifest, parse (print m) = .ok (some m))
    ∧ ∀ text m, parse text = .ok (some m) →
      parse (print m) = parse text
        ∧ (parse (print m)).map (Option.map print) = .ok (some (print m))
  := by
  have hparse : ∀ m : Manifest, parse (print m) = .ok (some m) := by
    intro m
    have hread : readStrict? (print m) = some m.toValue :=
      readStrict?_print (isTextual_toValue m) (by decide) 0
    rw [parse, strip_print_ne_null]
    simp only [hread, ofValue_toValue]
    rfl
  refine ⟨hparse, ?_⟩
  intro text m htext
  rw [hparse m, htext]
  exact ⟨rfl, rfl⟩

/-- A text in which one field goes by its other name, one is null, and one entry has no directory. -/
def looseText : String :=
  r#"{"deployment_manifest_entries":[{"saveCdkDirectoryRelativePath":"a"},{}],"lastDeployedStacks":null}"#

def looseManifest : Manifest := ⟨none, some [⟨some "a"⟩, ⟨none⟩]⟩

theorem parse_print_loose :
  parse looseText = .ok (some looseManifest)
    ∧ parse (print looseManifest) = parse looseText
    ∧ (parse (print looseManifest)).map (Option.map print) = .ok (some (print looseManifest))
  := by
  have htext : parse looseText = .ok (some looseManifest) := by
    decide +kernel
  exact ⟨htext, parse_print.2 looseText looseManifest htext⟩

end Manifest
end DeploymentRecipes
