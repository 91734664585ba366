import Flowgraph.Document.Basic

namespace Flowgraph

inductive Dangling where
  | start (name : String)
  | condition (owner name : String)
  | target (node : String) (edge : Nat) (name : String)
  | edgeCondition (node : String) (edge : Nat) (name : String)
deriving DecidableEq

def Dangling.message : Dangling → String
  | start n => "Graph has no '" ++ n ++ "' node; runs need an explicit start node"
  | condition o n => "Condition '" ++ o ++ "' references unknown condition '" ++ n ++ "'"
  | target node i n =>
    "Edge " ++ toString i ++ " of node '" ++ node ++ "' targets unknown node '" ++ n ++ "'"
  | edgeCondition node i n =>
    "Edge " ++ toString i ++ " of node '" ++ node ++ "' uses unknown condition '" ++ n ++ "'"

def Edge.targets (e : Edge) : List String := e.target :: e.fallback.toList

def Edge.references (e : Edge) : List String :=
  match e.condition with
  | some c => c.references
  | none => []

namespace Graph

def hasNode (g : Graph) (name : String) : Bool := g.nodes.any (·.1 == name)

def hasCondition (g : Graph) (name : String) : Bool := g.conditions.any (·.1 == name)

def missingConditions (g : Graph) (names : List String) : List String :=
  names.filter fun n ↦ !g.hasCondition n

def danglingOfEdge (g : Graph) (node : String) (e : Edge) (index : Nat) : List Dangling :=
  ((e.targets.filter fun n ↦ !g.hasNode n).map (.target node index)) ++
    (g.missingConditions e.references).map (.edgeCondition node index)

/-- All dangling references of a graph, for runs from a node: the start, then those of the named
conditions, then those of the edges, in order. -/
def dangling (g : Graph) (start : String) : List Dangling :=
  (if g.hasNode start then [] else [.start start]) ++
    (g.conditions.flatMap fun (n, c) ↦ (g.missingConditions c.references).map (.condition n)) ++
    g.nodes.flatMap fun (n, node) ↦
      (node.edges.mapIdx fun i e ↦ g.danglingOfEdge n e i).flatten

end Graph

end Flowgraph
