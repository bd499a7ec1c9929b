/-!
# Directed graphs

A graph lists nodes with the targets of their edges.  Targets may repeat and need not be listed
themselves.  `Graph.cycles` follows the edges depth first from every node and reports each way back
to a node that is still on the current path.
-/

namespace DeploymentRecipes

/-- Nodes with their targets, each node once, in the order in which they were entered. -/
structure Graph where
  edges : List (String × List String)

namespace Graph

def empty : Graph := ⟨[]⟩

/-- The edges with new targets for a node; a node that is present keeps its place. -/
def setTargets (node : String) (targets : List String) :
    List (String × List String) → List (String × List String)
  | [] => [(node, targets)]
  | (n, ts) :: rest =>
    if n = node then (node, targets) :: rest else (n, ts) :: setTargets node targets rest

/-- The graph with the targets of a node replaced. -/
def insert (g : Graph) (node : String) (targets : List String) : Graph :=
  ⟨setTargets node targets g.edges⟩

/-- The graph with the given nodes entered in order. -/
def ofList (entries : List (String × List String)) : Graph :=
  entries.foldl (fun g p => g.insert p.1 p.2) empty

/-- The nodes with targets of their own. -/
def nodes (g : Graph) : List String := g.edges.map (·.1)

/-- The targets of a node; a node that is not listed has none. -/
def targets (g : Graph) (node : String) : List String :=
  ((g.edges.find? (·.1 == node)).map (·.2)).getD []

/-! ### Cycles -/

/-- The nodes that a search has finished with and the cycles it has met. -/
structure Search where
  finished : List String
  cycles : List (List String)

/-- The part of a path from the given node on, closed by the node. -/
def closeAt (node : String) (path : List String) : List String :=
  path.dropWhile (· != node) ++ [node]

/-- The search after visiting the given nodes in turn at the end of a path. `unseen` holds the
listed nodes that are not on the path. -/
def visitAll (g : Graph) (path unseen : List String) : List String → Search → Search
  | [], search => search
  | n :: ns, search =>
    if search.finished.contains n then visitAll g path unseen ns search
    else if path.contains n then
      visitAll g path unseen ns { search with cycles := search.cycles ++ [closeAt n path] }
    else if _h : n ∈ unseen then
      let below := visitAll g (path ++ [n]) (unseen.erase n) (g.targets n) search
      visitAll g path unseen ns { below with finished := n :: below.finished }
    else visitAll g path unseen ns { search with finished := n :: search.finished }
termination_by ns => (unseen.length, ns.length)
decreasing_by
  all_goals try (apply Prod.Lex.right; simp)
  apply Prod.Lex.left
  have := List.length_erase_of_mem _h
  have := List.length_pos_of_mem _h
  omega

/-- The cycles that a depth first search meets, each closed by its first node. -/
def cycles (g : Graph) : List (List String) := (g.visitAll [] g.nodes g.nodes ⟨[], []⟩).cycles

end Graph
end DeploymentRecipes
