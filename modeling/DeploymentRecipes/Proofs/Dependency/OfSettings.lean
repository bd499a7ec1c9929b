import DeploymentRecipes.Dependency.OfSettings
import DeploymentRecipes.Proofs.Dependency.Cycle
import DeploymentRecipes.Proofs.Distinct
import DeploymentRecipes.Proofs.Setting.Spelling

/-!
# The dependency graph of settings

The graph lists each path once, with what the last setting of that path depends on.  When sibling
ids differ and every id can be a part of a path, no two settings share one; an edge then leads from
a setting to every setting that a rule of it names, and from an object to each of its children.
Overrides have no say in the graph.
-/

namespace DeploymentRecipes

namespace Graph

theorem nodes_insert (g : Graph) (node : String) (targets : List String) :
  (g.insert node targets).nodes
    = if g.nodes.contains node then g.nodes else g.nodes ++ [node]
  := by
  obtain ⟨edges⟩ := g
  rw [insert, nodes, nodes]
  induction edges with
  | nil => rfl
  | cons p edges ih =>
      rw [setTargets, List.map_cons, List.contains_cons]
      by_cases hp : p.1 = node
      · simp [hp]
      · rw [if_neg hp, List.map_cons, ih, beq_eq_false_iff_ne.mpr (Ne.symm hp), Bool.false_or]
        split <;> rfl

/-- The nodes of a list of entries, each once. -/
theorem nodes_ofList (entries : List (String × List String)) :
  (ofList entries).nodes = addNew [] (entries.map (·.1))
  := by
  have hfold : ∀ g : Graph, (entries.foldl (fun g p => g.insert p.1 p.2) g).nodes
      = addNew g.nodes (entries.map (·.1)) := by
    induction entries with
    | nil => intro g; rfl
    | cons p entries ih =>
        intro g
        rw [List.foldl_cons, ih, nodes_insert, List.map_cons, addNew_cons]
  apply hfold

theorem targets_insert (g : Graph) (node : String) (targets : List String) (m : String) :
  (g.insert node targets).targets m = if node = m then targets else g.targets m
  := by
  obtain ⟨edges⟩ := g
  rw [insert, Graph.targets, Graph.targets]
  induction edges with
  | nil => by_cases hm : node = m <;> simp [setTargets, hm]
  | cons p edges ih =>
      rw [setTargets]
      by_cases hp : p.1 = node
      · by_cases hm : node = m <;> simp [hp, hm]
      · rw [if_neg hp, List.find?_cons, List.find?_cons]
        by_cases hm : p.1 = m
        · have hne : node ≠ m := by
            rintro rfl
            exact hp hm
          simp [hm, hne]
        · rw [beq_eq_false_iff_ne.mpr hm]
          apply ih

/-- Of the targets that are entered for a node, the last ones count. -/
theorem targets_ofList {before after : List (String × List String)} {node : String}
    {targets : List String} (h : node ∉ after.map (·.1)) :
  (ofList (before ++ (node, targets) :: after)).targets node = targets
  := by
  have hafter : ∀ g : Graph, (after.foldl (fun g p => g.insert p.1 p.2) g).targets node
      = g.targets node := by
    induction after with
    | nil => intro g; rfl
    | cons p after ih =>
        intro g
        rw [List.map_cons, List.mem_cons, not_or] at h
        rw [List.foldl_cons, ih h.2, targets_insert, if_neg (Ne.symm h.1)]
  rw [ofList, List.foldl_append, List.foldl_cons, hafter, targets_insert, if_pos rfl]

end Graph

namespace Setting

variable {ss : List Setting} {path : String} {s : Setting}

/-- The nodes of the graph are the paths of the settings, each once. -/
theorem nodes_eq_addNew (ss : List Setting) :
  (dependencyGraph ss).nodes = addNew [] ((pathsUnderAll "" ss).map (·.1))
  := by
  rw [dependencyGraph, Graph.nodes_ofList, List.map_map]
  rfl

theorem mem_nodes_iff :
  path ∈ (dependencyGraph ss).nodes ↔ ∃ a ∈ addresses ss, spelling a.1 = path
  := by
  rw [nodes_eq_addNew, mem_addNew, pathsUnderAll_eq_map, List.map_map]
  simp

/-- The graph has a node for each setting just when no two settings have the same path. -/
theorem length_nodes_eq_iff :
  (dependencyGraph ss).nodes.length = sizeAll ss
    ↔ ((addresses ss).map fun a => spelling a.1).Nodup
  := by
  rw [nodes_eq_addNew, pathsUnderAll_eq_map, List.map_map, ← length_addresses,
    ← length_addNew_eq_iff, List.length_map]
  rfl

/-- What the setting with an address depends on: the targets of its rules, and the children of an
object. -/
def ownTargets (ss : List Setting) (a : List String × Setting) : List String :=
  ruleTargets ss a.2.dependsOn ++ childTargets (spelling a.1) a.2

/-- Of the settings with one path, the last one decides what the path leads to. -/
theorem targets_of_last {before after : List (List String × Setting)} {a : List String × Setting}
    (h : addresses ss = before ++ a :: after) (hlast : ∀ b ∈ after, spelling b.1 ≠ spelling a.1) :
  (dependencyGraph ss).targets (spelling a.1) = ownTargets ss a
  := by
  have hpaths := pathsUnderAll_eq_map ss
  rw [h, List.map_append, List.map_cons] at hpaths
  rw [dependencyGraph, hpaths, List.map_append, List.map_cons]
  apply Graph.targets_ofList
  simpa using fun ids t hmem => hlast (ids, t) hmem

/-- If all paths differ, each leads to what its setting depends on. -/
theorem targets_of_nodup (hnodup : ((addresses ss).map fun a => spelling a.1).Nodup)
    {a : List String × Setting} (ha : a ∈ addresses ss) :
  (dependencyGraph ss).targets (spelling a.1) = ownTargets ss a
  := by
  obtain ⟨before, after, heq⟩ := List.append_of_mem ha
  apply targets_of_last heq
  intro b hb hsame
  rw [heq, List.map_append, List.map_cons, List.nodup_append, List.nodup_cons] at hnodup
  apply hnodup.2.1.1
  rw [← hsame]
  apply List.mem_map_of_mem hb

theorem nodes_dependencyGraph (hids : PathIds ss) (hdistinct : DistinctIds ss) :
  (dependencyGraph ss).nodes = (pathsUnderAll "" ss).map (·.1)
  := by
  rw [nodes_eq_addNew]
  apply addNew_of_nodup (nodup_paths hids hdistinct)

theorem length_nodes_dependencyGraph (hids : PathIds ss) (hdistinct : DistinctIds ss) :
  (dependencyGraph ss).nodes.length = sizeAll ss
  := by
  rw [nodes_dependencyGraph hids hdistinct, List.length_map, ← length_walkAll,
    ← map_snd_pathsUnderAll "", List.length_map]

theorem mem_nodes_of_path (hids : PathIds ss) (hdistinct : DistinctIds ss)
    (hs : (path, s) ∈ pathsUnderAll "" ss) :
  path ∈ (dependencyGraph ss).nodes
  := by
  rw [nodes_dependencyGraph hids hdistinct]
  apply List.mem_map_of_mem hs

/-- What the path of a setting leads to: the targets of its rules, and the children of an object. -/
theorem targets_dependencyGraph (hids : PathIds ss) (hdistinct : DistinctIds ss)
    (hs : (path, s) ∈ pathsUnderAll "" ss) :
  (dependencyGraph ss).targets path = ruleTargets ss s.dependsOn ++ childTargets path s
  := by
  have hnodup := nodup_spellings hdistinct fun a ha => hids.isSpelled ha
  rw [pathsUnderAll_eq_map, List.mem_map] at hs
  obtain ⟨a, ha, heq⟩ := hs
  obtain ⟨rfl, rfl⟩ := Prod.mk.inj heq
  apply targets_of_nodup hnodup ha

/-- The place that a rule of a setting names has a path, and the setting depends on it. -/
theorem edge_of_locate (hids : PathIds ss) (hdistinct : DistinctIds ss)
    (hs : (path, s) ∈ pathsUnderAll "" ss) {rule : DependencyRule} (hrule : rule ∈ s.dependsOn)
    {spot : Spot} {t : Setting} (ht : locate ss (some rule.target) = some (spot, t)) :
  ∃ path', pathOf ss "" spot = some path' ∧ (path', t) ∈ pathsUnderAll "" ss
    ∧ (dependencyGraph ss).Edge path path'
  := by
  obtain ⟨path', hpath', hmem⟩ := exists_pathOf "" (at?_of_locate ht)
  use path', hpath', hmem
  rw [Graph.Edge, targets_dependencyGraph hids hdistinct hs, List.mem_append]
  left
  rw [ruleTargets, List.mem_filterMap]
  use rule, hrule
  have hne := path_ne_empty hids hmem
  simp [ht, hpath', hne]

/-- A setting depends on each setting that a rule of it names. -/
theorem edge_of_rule (hids : PathIds ss) (hdistinct : DistinctIds ss)
    (hs : (path, s) ∈ pathsUnderAll "" ss) {rule : DependencyRule} (hrule : rule ∈ s.dependsOn)
    {t : Setting} (ht : find ss (some rule.target) = some t) :
  ∃ path', (path', t) ∈ pathsUnderAll "" ss ∧ (dependencyGraph ss).Edge path path'
  := by
  obtain ⟨spot, hlocate⟩ := find_eq_some_iff.mp ht
  obtain ⟨path', -, hmem, hedge⟩ := edge_of_locate hids hdistinct hs hrule hlocate
  use path', hmem

/-- An object depends on each of its children. -/
theorem edge_of_child (hids : PathIds ss) (hdistinct : DistinctIds ss)
    (hs : (path, s) ∈ pathsUnderAll "" ss) (hobject : s.type = .object) {c : Setting}
    (hc : c ∈ s.children) :
  (dependencyGraph ss).Edge path (pathUnder path c.id)
  := by
  rw [Graph.Edge, targets_dependencyGraph hids hdistinct hs, List.mem_append]
  right
  rw [childTargets, if_pos hobject, List.mem_map]
  use c, hc
  have hne := path_ne_empty hids hs
  simp [pathUnder, hne]

theorem dependencyGraph_clearAll (ss : List Setting) :
  dependencyGraph (clearAll ss) = dependencyGraph ss
  := by
  rw [dependencyGraph, dependencyGraph, pathsUnderAll_clearAll, List.map_map]
  congr 1
  apply List.map_congr_left
  rintro ⟨path, s⟩ _
  have hrules : ruleTargets (clearAll ss) s.dependsOn = ruleTargets ss s.dependsOn := by
    rw [ruleTargets, ruleTargets]
    congr 1
    funext rule
    rw [locate_clearAll, Option.map_map]
    congr 1
    funext p
    simp only [Function.comp_apply, pathOf_clearAll]
  have hchildren : childTargets path (clear s) = childTargets path s := by
    rw [childTargets, childTargets, type_clear, children_clear, clearAll_eq_map, List.map_map]
    simp [Function.comp_def]
  simp only [Function.comp_apply, dependsOn_clear, hrules, hchildren]

/-- Settings that are the same apart from their overrides have the same graph. -/
theorem dependencyGraph_eq_of_clearAll_eq {ss ts : List Setting}
    (h : clearAll ss = clearAll ts) :
  dependencyGraph ss = dependencyGraph ts
  := by
  rw [← dependencyGraph_clearAll, h, dependencyGraph_clearAll]

end Setting
end DeploymentRecipes
