import DeploymentRecipes.Dependency.Graph
import Mathlib.Data.Finset.Card
import Mathlib.Data.Finset.Dedup
import Mathlib.Logic.Relation

/-!
# Cycles of directed graphs

A graph has a cycle when some node is reached from itself along its edges.  There is none among nodes
that can be listed so that each stands before all of its targets.

In a graph without cycles, the number of listed nodes that a node reaches falls along every edge
between listed nodes, and stays below the number of listed nodes.
-/

namespace DeploymentRecipes.Graph

variable {g : Graph} {ns : List String}

/-- An edge leads from a node to each of its targets. -/
def Edge (g : Graph) (a b : String) : Prop := b ∈ g.targets a

/-- One or more edges in a row lead from one node to another. -/
def Reaches (g : Graph) : String → String → Prop := Relation.TransGen g.Edge

/-- No node is reached from itself. -/
def Acyclic (g : Graph) : Prop := ∀ n, ¬ g.Reaches n n

/-- A node with targets is listed. -/
theorem Edge.mem_nodes {a b : String} (h : g.Edge a b) :
  a ∈ g.nodes
  := by
  rw [Edge, targets] at h
  cases hfind : g.edges.find? (·.1 == a) with
  | none => simp [hfind] at h
  | some p =>
      have hp := List.find?_some hfind
      rw [nodes, List.mem_map]
      use p, List.mem_of_find?_eq_some hfind
      simpa using hp

/-- What reaches anything is listed. -/
theorem Reaches.mem_nodes {a b : String} (h : g.Reaches a b) :
  a ∈ g.nodes
  := by
  obtain ⟨_, hedge, -⟩ := Relation.TransGen.head'_iff.mp h
  apply hedge.mem_nodes

/-! ### Finishing order -/

/-- Every node of the list comes before all of its targets. -/
def TargetsFollow (g : Graph) : List String → Prop
  | [] => True
  | n :: ns => (∀ m ∈ g.targets n, m ∈ ns) ∧ g.TargetsFollow ns

/-- From a list in which targets follow, nothing outside is reached. -/
theorem TargetsFollow.mem_of_reaches (h : g.TargetsFollow ns) {a b : String} (ha : a ∈ ns)
    (hab : g.Reaches a b) :
  b ∈ ns
  := by
  have closed : ∀ ns, g.TargetsFollow ns → ∀ a ∈ ns, ∀ b, g.Edge a b → b ∈ ns := by
    intro ns hns
    induction ns with
    | nil => simp
    | cons n ns ih =>
        rw [List.forall_mem_cons]
        constructor
        · intro b hb
          apply List.mem_cons_of_mem n (hns.1 b hb)
        · intro a ha b hb
          apply List.mem_cons_of_mem n (ih hns.2 a ha b hb)
  induction hab with
  | single hedge => apply closed ns h a ha _ hedge
  | tail _ hedge ih => apply closed ns h _ ih _ hedge

/-- Where targets follow, no node of the list is reached from itself. -/
theorem TargetsFollow.not_reaches_self (h : g.TargetsFollow ns) :
  ∀ n ∈ ns, ¬ g.Reaches n n
  := by
  induction ns with
  | nil => simp
  | cons n ns ih =>
      intro a ha hcycle
      by_cases hmem : a ∈ ns
      · apply ih h.2 a hmem hcycle
      · obtain rfl : a = n := (List.mem_cons.mp ha).resolve_right hmem
        obtain ⟨b, hedge, hrest⟩ := Relation.TransGen.head'_iff.mp hcycle
        have hb := h.1 b hedge
        rcases Relation.reflTransGen_iff_eq_or_transGen.mp hrest with rfl | hreach
        · apply hmem hb
        · apply hmem (h.2.mem_of_reaches hb hreach)

/-! ### Heights -/

open Classical in
/-- The number of listed nodes that a node reaches. -/
noncomputable def height (g : Graph) (n : String) : Nat :=
  (g.nodes.toFinset.filter (g.Reaches n)).card

/-- The height falls along an edge to a listed node. -/
theorem height_lt_of_edge (hg : g.Acyclic) {a b : String} (hedge : g.Edge a b)
    (hb : b ∈ g.nodes) :
  g.height b < g.height a
  := by
  classical
  apply Finset.card_lt_card
  rw [Finset.ssubset_iff_of_subset]
  · use b
    rw [Finset.mem_filter, Finset.mem_filter]
    constructor
    · exact ⟨List.mem_toFinset.mpr hb, .single hedge⟩
    · intro h
      apply hg b h.2
  · intro c hc
    rw [Finset.mem_filter] at hc ⊢
    exact ⟨hc.1, .head hedge hc.2⟩

/-- The height of a listed node is less than the number of listed nodes. -/
theorem height_lt_length (hg : g.Acyclic) {n : String} (hn : n ∈ g.nodes) :
  g.height n < g.nodes.length
  := by
  classical
  apply lt_of_lt_of_le _ (List.toFinset_card_le g.nodes)
  apply Finset.card_lt_card
  rw [Finset.ssubset_iff_of_subset (Finset.filter_subset _ _)]
  use n, List.mem_toFinset.mpr hn
  intro h
  apply hg n (Finset.mem_filter.mp h).2

end DeploymentRecipes.Graph
