import DeploymentRecipes.Proofs.Result
import DeploymentRecipes.Validator.Registry

/-!
# Building validators

A validator is of the class that its registry has for the check, whatever it is built from.
-/

namespace DeploymentRecipes

namespace Schema.Checked

variable {α β : Type}

theorem exists_of_map_eq_good {f : α → β} {x : Checked α} {b : β} (h : f <$> x = .good b) :
  ∃ a, f a = b
  := by
  cases x with
  | good a => exact ⟨a, good.inj h⟩
  | bad faults => cases h

theorem exists_of_seq_eq_good {f : Checked (α → β)} {x : Checked α} {b : β} (h : f <*> x = .good b) :
  ∃ g a, f = .good g ∧ g a = b
  := by
  cases f with
  | good g =>
      cases x with
      | good a => exact ⟨g, a, rfl, good.inj h⟩
      | bad faults => cases h
  | bad faults => cases x <;> cases h

end Schema.Checked

open Schema

/-- A validator has the class that its fields are read for. -/
theorem Validator.kind_of_ofRecord {c : ValidatorClass} {r : Record} {v : Validator}
    (h : ofRecord c r = .good v) :
  v.kind = c
  := by
  cases c with
  | range =>
      obtain ⟨f, allowEmpty, hbounds, rfl⟩ := Checked.exists_of_seq_eq_good h
      obtain ⟨f, hi, hleast, rfl⟩ := Checked.exists_of_seq_eq_good hbounds
      obtain ⟨f, lo, hmessage, rfl⟩ := Checked.exists_of_seq_eq_good hleast
      obtain ⟨message, rfl⟩ := Checked.exists_of_map_eq_good hmessage
      rfl
  | fargateTaskSize =>
      obtain ⟨f, cpuMessage, hids, rfl⟩ := Checked.exists_of_seq_eq_good h
      obtain ⟨f, memoryId, hid, rfl⟩ := Checked.exists_of_seq_eq_good hids
      obtain ⟨f, cpuId, hmessage, rfl⟩ := Checked.exists_of_seq_eq_good hid
      obtain ⟨message, rfl⟩ := Checked.exists_of_map_eq_good hmessage
      rfl
  | regex | stringLength | minMax =>
      obtain ⟨f, second, hfirst, rfl⟩ := Checked.exists_of_seq_eq_good h
      obtain ⟨f, first, hmessage, rfl⟩ := Checked.exists_of_seq_eq_good hfirst
      obtain ⟨message, rfl⟩ := Checked.exists_of_map_eq_good hmessage
      rfl
  | _ =>
      obtain ⟨message, rfl⟩ := Checked.exists_of_map_eq_good h
      rfl

namespace Registry

variable {κ : Type} [CheckName κ] {registry : Registry κ} {v : Validator}

/-- A built validator has the class of the check. -/
theorem class?_of_build {request : CheckRequest κ} (h : registry.build request = .ok v) :
  registry.class? request.check = some v.kind
  := by
  rw [build] at h
  cases hclass : registry.class? request.check with
  | none =>
      rw [hclass] at h
      cases h
  | some c =>
      rw [hclass] at h
      obtain ⟨record, -, h⟩ := exists_of_bind_eq_ok h
      have hread := eq_ok_of_mapError h
      cases hv : Validator.ofRecord c record with
      | good w =>
          rw [hv] at hread
          obtain rfl := Except.ok.inj hread
          rw [Validator.kind_of_ofRecord hv]
      | bad faults =>
          rw [hv] at hread
          cases hread

/-- Every validator in a list answers one of the requests. -/
theorem exists_of_mem_buildAll {requests : List (CheckRequest κ)} {vs : List Validator}
    (h : (registry.buildAll requests).value = .ok vs) (hv : v ∈ vs) :
  ∃ request ∈ requests, registry.build request = .ok v
  := by
  induction requests generalizing vs with
  | nil =>
      obtain rfl := Except.ok.inj h
      cases hv
  | cons request requests ih =>
      rw [buildAll] at h
      cases hbuild : registry.build request with
      | error e =>
          rw [hbuild] at h
          cases h
      | ok w =>
          rw [hbuild] at h
          obtain ⟨ws, hws, rfl⟩ := exists_of_map_eq_ok h
          rcases List.mem_cons.mp hv with rfl | hv
          · exact ⟨request, List.mem_cons_self, hbuild⟩
          · obtain ⟨other, hother, hbuilt⟩ := ih hws hv
            exact ⟨other, List.mem_cons_of_mem request hother, hbuilt⟩

/-- Built validators have classes that the registry has. -/
theorem kind_of_mem_buildAll {requests : List (CheckRequest κ)} {vs : List Validator}
    (h : (registry.buildAll requests).value = .ok vs) (hv : v ∈ vs) :
  v.kind ∈ registry.map (·.2)
  := by
  obtain ⟨request, -, hbuild⟩ := exists_of_mem_buildAll h hv
  have hclass := class?_of_build hbuild
  rw [class?, Option.map_eq_some_iff] at hclass
  obtain ⟨entry, hentry, hkind⟩ := hclass
  rw [← hkind]
  apply List.mem_map_of_mem (List.mem_of_find?_eq_some hentry)

end Registry
end DeploymentRecipes
