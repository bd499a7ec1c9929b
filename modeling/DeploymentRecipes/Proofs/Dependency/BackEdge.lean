import DeploymentRecipes.Proofs.Dependency.Cycle
import Mathlib.Data.List.Chain

/-!
# Back edges

A depth first search that meets a node of its own path reports the way back to it, which is a cycle.
Apart from the edges on which it comes back, the search finishes every node after all of its targets;
so without these edges no cycle is left, and a search without a report has met a graph without cycles.
-/

namespace DeploymentRecipes.Graph

variable {g : Graph} {path unseen ns : List String} {search after : Search}

/-! ### The rules of a search -/

/-- A search that visits nodes in turn at the end of a path comes to its end. What is finished is
passed over, what is on the path is reported, and any other node is finished once its targets have
been visited at the end of the path that goes on to it. -/
inductive Visits (g : Graph) : List String → List String → Search → Search → Prop where
  | done {path : List String} {search : Search} : g.Visits path [] search search
  | finished {path ns : List String} {search after : Search} {n : String}
    (hn : n ∈ search.finished) (hrest : g.Visits path ns search after) :
    g.Visits path (n :: ns) search after
  | report {path ns : List String} {search after : Search} {n : String}
    (hn : n ∉ search.finished) (hpath : n ∈ path)
    (hrest : g.Visits path ns { search with cycles := search.cycles ++ [closeAt n path] } after) :
    g.Visits path (n :: ns) search after
  | descend {path ns : List String} {search below after : Search} {n : String}
    (hn : n ∉ search.finished) (hpath : n ∉ path)
    (hbelow : g.Visits (path ++ [n]) (g.targets n) search below)
    (hrest : g.Visits path ns { below with finished := n :: below.finished } after) :
    g.Visits path (n :: ns) search after

/-- A search ends in one way only. -/
theorem Visits.unique {after' : Search} (h : g.Visits path ns search after)
    (h' : g.Visits path ns search after') :
  after = after'
  := by
  induction h generalizing after' with
  | done => cases h'; rfl
  | finished hn _ ih =>
      cases h' with
      | finished _ hrest => apply ih hrest
      | report hnot => cases hnot hn
      | descend hnot => cases hnot hn
  | report hn hpath _ ih =>
      cases h' with
      | finished hfinished => cases hn hfinished
      | report _ _ hrest => apply ih hrest
      | descend _ hnot => cases hnot hpath
  | descend hn hpath _ _ ihbelow ihrest =>
      cases h' with
      | finished hfinished => cases hn hfinished
      | report _ honpath => cases hpath honpath
      | descend _ _ hbelow hrest =>
          obtain rfl := ihbelow hbelow
          apply ihrest hrest

/-- The search among unseen nodes keeps to the rules, as long as the listed nodes that are not on the
path are unseen. -/
theorem visits_visitAll (hlisted : ∀ n ∈ g.nodes, n ∈ path ∨ n ∈ unseen) :
  g.Visits path ns search (g.visitAll path unseen ns search)
  := by
  fun_induction visitAll g path unseen ns search with
  | case1 => exact .done
  | case2 path unseen n ns search hn ih =>
      exact .finished (List.contains_iff_mem.mp hn) (ih hlisted)
  | case3 path unseen n ns search hn hpath ih =>
      exact .report (mt List.contains_iff_mem.mpr hn) (List.contains_iff_mem.mp hpath) (ih hlisted)
  | case4 path unseen n ns search hn hpath hunseen below ihbelow ihrest =>
      apply Visits.descend (mt List.contains_iff_mem.mpr hn) (mt List.contains_iff_mem.mpr hpath)
      · apply ihbelow
        intro m hm
        by_cases hmn : m = n
        · simp [hmn]
        · rw [List.mem_append, List.mem_erase_of_ne hmn]
          exact (hlisted m hm).imp_left Or.inl
      · apply ihrest hlisted
  | case5 path unseen n ns search hn hpath hunseen ih =>
      -- A node that is neither on the path nor unseen is not listed, so it has no targets.
      have hnone : g.targets n = [] := by
        rw [List.eq_nil_iff_forall_not_mem]
        intro m hm
        rcases hlisted n (Edge.mem_nodes hm) with h | h
        · apply hpath (List.contains_iff_mem.mpr h)
        · apply hunseen h
      apply Visits.descend (mt List.contains_iff_mem.mpr hn) (mt List.contains_iff_mem.mpr hpath)
      · rw [hnone]
        exact .done
      · apply ih hlisted

/-- A search from all nodes ends, and its reports are the cycles. -/
theorem exists_visits (g : Graph) :
  ∃ found, (∀ s, g.Visits [] g.nodes ⟨[], []⟩ s ↔ s = found) ∧ found.cycles = g.cycles
  := by
  have hvisits : g.Visits [] g.nodes ⟨[], []⟩ (g.visitAll [] g.nodes g.nodes ⟨[], []⟩) :=
    visits_visitAll fun n hn => Or.inr hn
  refine ⟨_, fun s => ⟨fun hs => hs.unique hvisits, ?_⟩, rfl⟩
  rintro rfl
  exact hvisits

/-! ### Reports -/

/-- A list of nodes that leads along edges back to its first node, and through no other one twice. -/
structure IsCycle (g : Graph) (c : List String) : Prop where
  length : 2 ≤ c.length
  closed : c.head? = c.getLast?
  simple : c.dropLast.Nodup
  edges : c.IsChain g.Edge

/-- The edge between the last two nodes of a list. -/
def lastEdge? (c : List String) : Option (String × String) :=
  match c.reverse with
  | b :: a :: _ => some (a, b)
  | _ => none

/-- The edges on which a search has come back to its path. -/
def Search.backEdges (search : Search) : List (String × String) :=
  search.cycles.filterMap lastEdge?

/-- What is reported of a path: the part from the node on, and the node once more. -/
theorem exists_closeAt_eq {n : String} (h : n ∈ path) :
  ∃ before rest, path = before ++ n :: rest ∧ closeAt n path = n :: rest ++ [n]
  := by
  obtain ⟨before, rest, rfl, hbefore⟩ := List.eq_append_cons_of_mem h
  refine ⟨before, rest, rfl, ?_⟩
  rw [closeAt, List.dropWhile_append_of_pos]
  · simp
  · intro m hm
    have hne : m ≠ n := ne_of_mem_of_not_mem hm hbefore
    simpa using hne

/-- A path without repetitions that leads along edges on to each of some nodes. -/
structure LeadsTo (g : Graph) (path ns : List String) : Prop where
  simple : path.Nodup
  edges : ∀ n ∈ ns, (path ++ [n]).IsChain g.Edge

theorem LeadsTo.tail {n : String} (h : g.LeadsTo path (n :: ns)) :
  g.LeadsTo path ns
  where
  simple := h.simple
  edges m hm := h.edges m (List.mem_cons_of_mem n hm)

/-- The path that goes on to a node leads to the targets of the node. -/
theorem LeadsTo.descend {n : String} (h : g.LeadsTo path (n :: ns)) (hpath : n ∉ path) :
  g.LeadsTo (path ++ [n]) (g.targets n)
  where
  simple := by
    rw [← List.concat_eq_append]
    apply h.simple.concat hpath
  edges m hm := by
    rw [List.isChain_append]
    refine ⟨h.edges n List.mem_cons_self, List.isChain_singleton m, ?_⟩
    simpa [Edge] using hm

/-- The way back to a node of the path is a cycle. -/
theorem LeadsTo.isCycle_closeAt {n : String} (h : g.LeadsTo path (n :: ns)) (hpath : n ∈ path) :
  g.IsCycle (closeAt n path)
  := by
  obtain ⟨before, rest, hsplit, hclose⟩ := exists_closeAt_eq hpath
  have hedges := h.edges n List.mem_cons_self
  have hsimple := h.simple
  rw [hsplit, List.append_assoc] at hedges
  rw [hsplit] at hsimple
  rw [hclose]
  constructor
  · simp
  · rw [List.getLast?_concat, List.cons_append, List.head?_cons]
  · rw [List.dropLast_concat]
    apply hsimple.of_append_right
  · apply hedges.right_of_append

/-- A search reports cycles only, as long as the path leads to the nodes that are to be visited. -/
theorem Visits.isCycle (h : g.Visits path ns search after) (hpath : g.LeadsTo path ns)
    (hsearch : ∀ c ∈ search.cycles, g.IsCycle c) :
  ∀ c ∈ after.cycles, g.IsCycle c
  := by
  induction h with
  | done => exact hsearch
  | finished _ _ ih => apply ih hpath.tail hsearch
  | report _ honpath _ ih =>
      apply ih hpath.tail
      rw [List.forall_mem_append, List.forall_mem_singleton]
      exact ⟨hsearch, hpath.isCycle_closeAt honpath⟩
  | descend _ hnot _ _ ihbelow ihrest =>
      apply ihrest hpath.tail
      apply ihbelow (hpath.descend hnot) hsearch

/-- The first node of a cycle is reached from itself. -/
theorem IsCycle.exists_reaches_self {c : List String} (h : g.IsCycle c) :
  ∃ n, g.Reaches n n
  := by
  match c, h with
  | [], h => cases h.length
  | [_], h => cases Nat.not_succ_le_self _ h.length
  | a :: b :: rest, h =>
    obtain ⟨hedge, hrest⟩ := List.isChain_cons_cons.mp h.edges
    have hlast : (b :: rest).getLast (List.cons_ne_nil b rest) = a := by
      have hclosed := h.closed
      rw [List.head?_cons, List.getLast?_cons_cons, List.getLast?_eq_some_getLast] at hclosed
      exact (Option.some.inj hclosed).symm
    use a
    apply Relation.TransGen.head' hedge
    apply List.relationReflTransGen_of_exists_isChain_cons rest hrest hlast

/-! ### What a search leaves behind -/

/-- A search keeps what was reported before. -/
theorem Visits.cycles_prefix (h : g.Visits path ns search after) :
  search.cycles <+: after.cycles
  := by
  induction h with
  | done => apply List.prefix_refl
  | finished _ _ ih => exact ih
  | report _ _ _ ih => apply (List.prefix_append _ _).trans ih
  | descend _ _ _ _ ihbelow ihrest => apply ihbelow.trans ihrest

theorem Visits.backEdges_prefix (h : g.Visits path ns search after) :
  search.backEdges <+: after.backEdges
  := by
  apply h.cycles_prefix.filterMap

/-- A search keeps what was finished before. -/
theorem Visits.finished_subset (h : g.Visits path ns search after) :
  search.finished ⊆ after.finished
  := by
  induction h with
  | done => apply List.Subset.refl
  | finished _ _ ih => exact ih
  | report _ _ _ ih => exact ih
  | descend _ _ _ _ ihbelow ihrest =>
      apply List.Subset.trans ihbelow
      apply List.Subset.trans (List.subset_cons_self _ _) ihrest

/-- What is visited is finished then, or on the path. -/
theorem Visits.mem_finished_or_mem_path (h : g.Visits path ns search after) :
  ∀ n ∈ ns, n ∈ after.finished ∨ n ∈ path
  := by
  induction h with
  | done => simp
  | finished hn hrest ih =>
      rw [List.forall_mem_cons]
      exact ⟨Or.inl (hrest.finished_subset hn), ih⟩
  | report _ hpath _ ih =>
      rw [List.forall_mem_cons]
      exact ⟨Or.inr hpath, ih⟩
  | descend _ _ _ hrest _ ihrest =>
      rw [List.forall_mem_cons]
      exact ⟨Or.inl (hrest.finished_subset List.mem_cons_self), ihrest⟩

/-- A search finishes no node of its path. -/
theorem Visits.disjoint (h : g.Visits path ns search after) (hpath : path.Disjoint search.finished) :
  path.Disjoint after.finished
  := by
  induction h with
  | done => exact hpath
  | finished _ _ ih => apply ih hpath
  | report _ _ _ ih => apply ih hpath
  | descend hn hnot _ _ ihbelow ihrest =>
      apply ihrest
      rw [List.disjoint_cons_right]
      refine ⟨hnot, ?_⟩
      have hbelow := ihbelow (List.disjoint_append_left.mpr
        ⟨hpath, List.singleton_disjoint.mpr hn⟩)
      apply (List.disjoint_append_left.mp hbelow).1

/-- The last edge of a report leads from the end of the path back to the node. -/
theorem lastEdge?_closeAt {a n : String} (hlast : path.getLast? = some a) (hn : n ∈ path) :
  lastEdge? (closeAt n path) = some (a, n)
  := by
  obtain ⟨before, rest, hsplit, hclose⟩ := exists_closeAt_eq hn
  have hend : (n :: rest).getLast? = some a := by
    rw [← hlast, hsplit, List.getLast?_append_cons]
  obtain ⟨front, hfront⟩ := List.getLast?_eq_some_iff.mp hend
  rw [hclose, hfront, lastEdge?]
  simp

/-- A search comes back on an edge from the end of its path as often as it visits the target, if
the target is on the path. -/
theorem Visits.count_le {a m : String} (h : g.Visits path ns search after)
    (hpath : path.Disjoint search.finished) (hlast : path.getLast? = some a) (hm : m ∈ path) :
  search.backEdges.count (a, m) + ns.count m ≤ after.backEdges.count (a, m)
  := by
  induction h with
  | done => simp
  | @finished path ns search after n hn _ ih =>
      have hne : n ≠ m := fun heq => hpath hm (heq ▸ hn)
      rw [List.count_cons_of_ne hne]
      apply ih hpath hlast hm
  | @report path ns search after n hn honpath _ ih =>
      have hback : Search.backEdges ⟨search.finished, search.cycles ++ [closeAt n path]⟩ =
          search.backEdges ++ [(a, n)] := by
        rw [Search.backEdges, List.filterMap_append]
        simp [Search.backEdges, lastEdge?_closeAt hlast honpath]
      have hrest := ih hpath hlast hm
      rw [hback, List.count_append] at hrest
      by_cases hnm : n = m
      · rw [hnm, List.count_singleton_self] at hrest
        rw [hnm, List.count_cons_self]
        omega
      · rw [List.count_cons_of_ne hnm]
        omega
  | @descend path ns search below after n hn hnot hbelow _ _ ihrest =>
      have hne : n ≠ m := (ne_of_mem_of_not_mem hm hnot).symm
      rw [List.count_cons_of_ne hne]
      have hkept := hbelow.backEdges_prefix.sublist.count_le (a, m)
      have hfinished := (Visits.descend hn hnot hbelow .done).disjoint hpath
      have hrest := ihrest hfinished hlast hm
      apply le_trans (Nat.add_le_add_right hkept _) hrest

/-! ### The graph without the back edges -/

/-- The graph with one entry less for an edge. -/
def deleteEdge (g : Graph) (e : String × String) : Graph :=
  ⟨g.edges.map fun p => if p.1 = e.1 then (p.1, p.2.erase e.2) else p⟩

/-- The graph with one entry less for each of the edges. -/
def deleteEdges (g : Graph) (es : List (String × String)) : Graph :=
  es.foldl deleteEdge g

theorem nodes_deleteEdge (g : Graph) (e : String × String) :
  (g.deleteEdge e).nodes = g.nodes
  := by
  rw [nodes, deleteEdge, List.map_map]
  apply List.map_congr_left
  intro p _
  simp only [Function.comp_apply]
  split
  · rfl
  · rfl

theorem nodes_deleteEdges (g : Graph) (es : List (String × String)) :
  (g.deleteEdges es).nodes = g.nodes
  := by
  induction es generalizing g with
  | nil => rfl
  | cons e es ih =>
      rw [deleteEdges, List.foldl_cons]
      apply (ih (g.deleteEdge e)).trans (nodes_deleteEdge g e)

theorem targets_deleteEdge (g : Graph) (e : String × String) (a : String) :
  (g.deleteEdge e).targets a = if a = e.1 then (g.targets a).erase e.2 else g.targets a
  := by
  have hkey : (fun p : String × List String => p.1 == a) ∘
      (fun p => if p.1 = e.1 then (p.1, p.2.erase e.2) else p) = fun p => p.1 == a := by
    funext p
    simp only [Function.comp_apply]
    split
    · rfl
    · rfl
  rw [targets, targets, deleteEdge, List.find?_map, hkey]
  cases hfind : g.edges.find? (·.1 == a) with
  | none => simp
  | some p =>
      obtain rfl : p.1 = a := by simpa using List.find?_some hfind
      by_cases hp : p.1 = e.1
      · simp [hp]
      · simp [hp]

theorem count_targets_deleteEdges (g : Graph) (es : List (String × String)) (a b : String) :
  ((g.deleteEdges es).targets a).count b = (g.targets a).count b - es.count (a, b)
  := by
  induction es generalizing g with
  | nil => rfl
  | cons e es ih =>
      rw [deleteEdges, List.foldl_cons]
      apply (ih (g.deleteEdge e)).trans
      rw [targets_deleteEdge]
      by_cases ha : a = e.1
      · by_cases hb : b = e.2
        · obtain rfl : e = (a, b) := by rw [ha, hb]
          rw [if_pos rfl, List.count_erase_self, List.count_cons_self]
          omega
        · have hne : e ≠ (a, b) := fun h => hb (by rw [h])
          rw [if_pos ha, List.count_erase_of_ne hb, List.count_cons_of_ne hne]
      · have hne : e ≠ (a, b) := fun h => ha (by rw [h])
        rw [if_neg ha, List.count_cons_of_ne hne]

/-- Edges are only lost when edges are deleted, the more the more are deleted. -/
theorem targets_deleteEdges_subset {es es' : List (String × String)} (h : es <+: es') (a : String) :
  (g.deleteEdges es').targets a ⊆ (g.deleteEdges es).targets a
  := by
  intro b hb
  rw [← List.count_pos_iff, count_targets_deleteEdges] at hb ⊢
  have hle := h.sublist.count_le (a, b)
  omega

theorem TargetsFollow.mono {g g' : Graph} (h : g.TargetsFollow ns)
    (hsub : ∀ a, g'.targets a ⊆ g.targets a) :
  g'.TargetsFollow ns
  := by
  induction ns with
  | nil => trivial
  | cons n ns ih => exact ⟨fun m hm => h.1 m (hsub n hm), ih h.2⟩

/-- Apart from the edges on which the search comes back to its path, every node that it has finished
stands before all of its targets. -/
theorem Visits.targetsFollow (h : g.Visits path ns search after)
    (hpath : path.Disjoint search.finished)
    (hsearch : (g.deleteEdges search.backEdges).TargetsFollow search.finished) :
  (g.deleteEdges after.backEdges).TargetsFollow after.finished
  := by
  induction h with
  | done => exact hsearch
  | finished _ _ ih => apply ih hpath hsearch
  | @report path ns search after n _ _ _ ih =>
      apply ih hpath
      apply hsearch.mono (targets_deleteEdges_subset _)
      apply (List.prefix_append _ _).filterMap
  | @descend path ns search below after n hn hnot hbelow _ ihbelow ihrest =>
      have hpath' : (path ++ [n]).Disjoint search.finished :=
        List.disjoint_append_left.mpr ⟨hpath, List.singleton_disjoint.mpr hn⟩
      apply ihrest ((Visits.descend hn hnot hbelow .done).disjoint hpath)
      refine ⟨?_, ihbelow hpath' hsearch⟩
      intro m hm
      -- What is left of the targets is finished: back to the path leads no edge that is left.
      rw [← List.count_pos_iff, count_targets_deleteEdges] at hm
      have htarget : m ∈ g.targets n := by
        rw [← List.count_pos_iff]
        omega
      apply (hbelow.mem_finished_or_mem_path m htarget).resolve_right
      intro honpath
      have hback := hbelow.count_le hpath' List.getLast?_concat honpath
      change 0 < (g.targets n).count m - below.backEdges.count (n, m) at hm
      omega

/-- Without the last edges of the reports no cycle is left. -/
theorem acyclic_deleteEdges (h : g.Visits [] g.nodes ⟨[], []⟩ after) :
  (g.deleteEdges after.backEdges).Acyclic
  := by
  intro n hcycle
  have hfollow := h.targetsFollow (List.disjoint_nil_left _) trivial
  have hlisted := hcycle.mem_nodes
  rw [nodes_deleteEdges] at hlisted
  have hfinished := h.mem_finished_or_mem_path n hlisted
  apply hfollow.not_reaches_self n (hfinished.resolve_right List.not_mem_nil) hcycle

/-- The cycles that a graph reports are cycles. -/
theorem isCycle_of_mem_cycles {c : List String} (h : c ∈ g.cycles) :
  g.IsCycle c
  := by
  obtain ⟨found, hends, hcycles⟩ := exists_visits g
  have hstart : g.LeadsTo [] g.nodes :=
    ⟨List.nodup_nil, fun n _ => List.isChain_singleton n⟩
  rw [← hcycles] at h
  exact ((hends found).mpr rfl).isCycle hstart (List.forall_mem_nil _) c h

/-- The search from every node reports nothing exactly when no node is reached from itself. -/
theorem cycles_eq_nil_iff (g : Graph) :
  g.cycles = [] ↔ g.Acyclic
  := by
  constructor
  · intro hsilent
    obtain ⟨found, hends, hcycles⟩ := exists_visits g
    have hacyclic := acyclic_deleteEdges ((hends found).mpr rfl)
    rwa [Search.backEdges, hcycles, hsilent] at hacyclic
  · intro hg
    rw [List.eq_nil_iff_forall_not_mem]
    intro c hc
    obtain ⟨n, hn⟩ := (isCycle_of_mem_cycles hc).exists_reaches_self
    exact hg n hn

/-- For every graph there is one end that the search comes to, and it has reported the cycles of the
graph. Every report is a cycle, without an entry for the last edge of each report no cycle is left,
and nothing is reported exactly when there is no cycle. -/
theorem search_reports_cycles (g : Graph) :
  (∃ found, (∀ after, g.Visits [] g.nodes ⟨[], []⟩ after ↔ after = found)
      ∧ found.cycles = g.cycles)
    ∧ (∀ c ∈ g.cycles, g.IsCycle c)
    ∧ (g.deleteEdges (g.cycles.filterMap lastEdge?)).Acyclic
    ∧ (g.cycles = [] ↔ g.Acyclic)
  := by
  obtain ⟨found, hends, hcycles⟩ := exists_visits g
  refine ⟨⟨found, hends, hcycles⟩, fun _ => isCycle_of_mem_cycles, ?_, cycles_eq_nil_iff g⟩
  rw [← hcycles]
  apply acyclic_deleteEdges ((hends found).mpr rfl)

end DeploymentRecipes.Graph
