import DeploymentRecipes.Proofs.Setting.Address
import DeploymentRecipes.Proofs.Setting.Override
import DeploymentRecipes.Proofs.Text.Split

/-!
# Changes at a place

What stands at a place after it was changed, changes at one place after another, and how a path is
continued below a setting.
-/

namespace DeploymentRecipes.Setting

variable {ss : List Setting} {s : Setting} {spot : Spot}

/-! ### One change after another -/

theorem node_eta (s : Setting) :
  node s.declaration s.override s.children = s
  := by
  cases s
  rfl

theorem length_updateAt (ss : List Setting) (f : Setting → Setting) (spot : Spot) :
  (updateAt ss f spot).length = ss.length
  := by
  cases spot with
  | nil => rfl
  | cons i rest =>
      rw [updateAt]
      cases ss[i]? with
      | none => rfl
      | some s => cases rest <;> simp

theorem updateAt_singleton (f : Setting → Setting) {i : Nat} (hs : ss[i]? = some s) :
  updateAt ss f [i] = ss.set i (f s)
  := by
  simp [updateAt, hs]

theorem updateAt_cons_cons (f : Setting → Setting) {i j : Nat} {rest : Spot}
    (hs : ss[i]? = some s) :
  updateAt ss f (i :: j :: rest)
    = ss.set i (.node s.declaration s.override (updateAt s.children f (j :: rest)))
  := by
  simp [updateAt, hs]

theorem getElem?_set_of_getElem? {i : Nat} (hs : ss[i]? = some s) (t : Setting) :
  (ss.set i t)[i]? = some t
  := by
  obtain ⟨hi, -⟩ := List.getElem?_eq_some_iff.mp hs
  exact List.getElem?_set_self hi

/-- A change at a place changes what stands there. -/
theorem at?_updateAt (f : Setting → Setting) (hs : at? ss spot = some s) :
  at? (updateAt ss f spot) spot = some (f s)
  := by
  induction spot generalizing ss with
  | nil => cases hs
  | cons i rest ih =>
      cases hu : ss[i]? with
      | none => simp [at?, hu] at hs
      | some u =>
          cases rest with
          | nil =>
              rw [at?_singleton, hu] at hs
              obtain rfl := Option.some.inj hs
              rw [updateAt_singleton f hu, at?_singleton, getElem?_set_of_getElem? hu]
          | cons j rest =>
              rw [at?_cons_cons, hu, Option.bind_some] at hs
              rw [updateAt_cons_cons f hu, at?_cons_cons, getElem?_set_of_getElem? hu,
                Option.bind_some]
              exact ih hs

/-- What stands at a place, put there, changes nothing. -/
theorem updateAt_self (hs : at? ss spot = some s) :
  updateAt ss (fun _ => s) spot = ss
  := by
  induction spot generalizing ss with
  | nil => rfl
  | cons i rest ih =>
      cases hu : ss[i]? with
      | none => simp [at?, hu] at hs
      | some u =>
          obtain ⟨hi, rfl⟩ := List.getElem?_eq_some_iff.mp hu
          cases rest with
          | nil =>
              rw [at?_singleton, hu] at hs
              obtain rfl := Option.some.inj hs
              rw [updateAt_singleton _ hu, List.set_getElem_self]
          | cons j rest =>
              rw [at?_cons_cons, hu, Option.bind_some] at hs
              rw [updateAt_cons_cons _ hu, ih hs, node_eta, List.set_getElem_self]

/-- Of two changes at a place that do not look at what stands there, the second counts. -/
theorem updateAt_updateAt (t u : Setting) (spot : Spot) :
  updateAt (updateAt ss (fun _ => t) spot) (fun _ => u) spot = updateAt ss (fun _ => u) spot
  := by
  induction spot generalizing ss with
  | nil => rfl
  | cons i rest ih =>
      cases hs : ss[i]? with
      | none => simp [updateAt, hs]
      | some s =>
          cases rest with
          | nil =>
              rw [updateAt_singleton _ hs, updateAt_singleton _ (getElem?_set_of_getElem? hs t),
                updateAt_singleton _ hs, List.set_set]
          | cons j rest =>
              rw [updateAt_cons_cons _ hs, updateAt_cons_cons _ (getElem?_set_of_getElem? hs _),
                updateAt_cons_cons _ hs, List.set_set, children, ih]
              rfl

/-- A child that is changed is a change of its parent. -/
theorem updateAt_child (f : Setting → Setting) (hs : at? ss spot = some s) {i : Nat} {c : Setting}
    (hc : s.children[i]? = some c) :
  updateAt ss f (spot ++ [i])
    = updateAt ss (fun _ => .node s.declaration s.override (s.children.set i (f c))) spot
  := by
  induction spot generalizing ss with
  | nil => cases hs
  | cons k rest ih =>
      cases hu : ss[k]? with
      | none => simp [at?, hu] at hs
      | some u =>
          cases rest with
          | nil =>
              rw [at?_singleton, hu] at hs
              obtain rfl := Option.some.inj hs
              rw [List.singleton_append, updateAt_cons_cons f hu, updateAt_singleton f hc,
                updateAt_singleton _ hu]
          | cons j rest =>
              rw [at?_cons_cons, hu, Option.bind_some] at hs
              rw [List.cons_append, List.cons_append, updateAt_cons_cons f hu,
                updateAt_cons_cons _ hu, ← List.cons_append, ih hs]

/-! ### Paths that go on -/

/-- Segments that go on below the setting that the first ones lead to. A setting of type `keyValue`
ends the way. -/
theorem findSegments_append {first rest : List String} (hfirst : first ≠ []) (hrest : rest ≠ []) :
  findSegments (first ++ rest) ss = (findSegments first ss).bind fun p =>
    if p.2.type = .keyValue then some p
    else (findSegments rest p.2.children).map fun q => (p.1 ++ q.1, q.2)
  := by
  induction first generalizing ss with
  | nil => cases hfirst rfl
  | cons segment first ih =>
      rw [List.cons_append, findSegments, findSegments]
      cases firstWithId segment ss with
      | none => rfl
      | some p =>
          obtain ⟨i, s⟩ := p
          by_cases hend : s.type = .keyValue
          · simp [hend]
          · cases first with
            | nil => simp [hend, hrest]
            | cons next first =>
                have hnext := @ih s.children (by simp)
                simp only [hend, decide_false, Bool.false_or, List.cons_append, List.isEmpty_cons,
                  Bool.false_eq_true, if_false] at hnext ⊢
                rw [hnext]
                cases findSegments (next :: first) s.children with
                | none => rfl
                | some q => by_cases hq : q.2.type = .keyValue <;> simp [hq, Function.comp_def]

/-- A setting whose siblings have other ids is the first with its id. -/
theorem firstWithId_eq_of_nodup (hnodup : (ss.map id).Nodup) {i : Nat} (hs : ss[i]? = some s) :
  firstWithId s.id ss = some (i, s)
  := by
  have hmem : (s, i) ∈ ss.zipIdx := List.mem_zipIdx_iff_getElem?.mpr hs
  cases hfirst : firstWithId s.id ss with
  | none =>
      rw [firstWithId, Option.map_eq_none_iff, List.find?_eq_none] at hfirst
      simpa using hfirst _ hmem
  | some p =>
      obtain ⟨j, t⟩ := p
      obtain ⟨ht, hid⟩ := firstWithId_eq_some hfirst
      have hi : (ss.map id)[i]? = some s.id := by rw [List.getElem?_map, hs, Option.map_some]
      have hj : (ss.map id)[j]? = some s.id := by rw [List.getElem?_map, ht, Option.map_some, hid]
      obtain ⟨hlt, -⟩ := List.getElem?_eq_some_iff.mp hi
      obtain rfl := (List.getElem?_inj hlt hnodup).mp (hi.trans hj.symm)
      rw [hs] at ht
      rw [Option.some.inj ht]

theorem locate_of_ne_empty {path : String} (h : path ≠ "") :
  locate ss (some path) = findSegments (Text.split '.' path) ss
  := by
  rw [locate, if_neg (by simpa using h)]

/-- A path that goes on leads on below the setting that its first part leads to, also if its second
part is empty. -/
theorem locate_append {p : String} (hp : p ≠ "") (q : String) :
  locate ss (some (p ++ "." ++ q)) = (locate ss (some p)).bind fun found =>
    if found.2.type = .keyValue then some found
    else (findSegments (Text.split '.' q) found.2.children).map fun below =>
      (found.1 ++ below.1, below.2)
  := by
  have hne : p ++ "." ++ q ≠ "" := by simp [String.append_eq_empty_iff]
  have hsplit : Text.split '.' (p ++ "." ++ q) = Text.split '.' p ++ Text.split '.' q := by
    apply Text.split_append_append
  rw [locate_of_ne_empty hne, locate_of_ne_empty hp, hsplit,
    findSegments_append (Text.split_ne_nil '.' p) (Text.split_ne_nil '.' q)]

/-- The path of a child goes on from that of its parent. -/
theorem locate_child {path : String} (hlocate : locate ss (some path) = some (spot, s))
    (hgoes : s.type ≠ .keyValue) (hnodup : (s.children.map id).Nodup) {i : Nat} {c : Setting}
    (hc : s.children[i]? = some c) (hdot : '.' ∉ c.id.toList) :
  locate ss (some (path ++ "." ++ c.id)) = some (spot ++ [i], c)
  := by
  have hpath : path ≠ "" := by
    rintro rfl
    cases hlocate
  rw [locate_append hpath, hlocate, Option.bind_some, if_neg hgoes, Text.split_of_not_mem hdot,
    findSegments, firstWithId_eq_of_nodup hnodup hc]
  simp

end DeploymentRecipes.Setting
