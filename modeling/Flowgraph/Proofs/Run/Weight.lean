import Flowgraph.Proofs.Condition.Depth
import Flowgraph.Proofs.Run.Events
import Flowgraph.Proofs.Run.References
import Mathlib

namespace Flowgraph

open Act

namespace Edge

/-- What an edge adds to the weight of its node: the weight of its target or of its fallback, if it
has one. -/
def weigh (weight : String → ℕ) (e : Edge) : ℕ :=
  max (weight e.target) (e.fallback.elim 0 weight)

variable {e : Edge} {W W' : String → ℕ}

end Edge

namespace Graph

def weigh (g : Graph) (weight : String → ℕ) (name : String) : ℕ :=
  match g.node? name with
  | none => 1
  | some n => if n.isEnd then 1 else 1 + (n.edges.map (·.weigh weight)).sum

def weightWithin (g : Graph) : ℕ → String → ℕ
  | 0, _ => 1
  | depth + 1, name => g.weigh (g.weightWithin depth) name

def weight (g : Graph) (name : String) : ℕ := g.weightWithin g.nodes.length name

variable {g : Graph} {name : String} {n : Node} {W W' : String → ℕ}

end Graph

namespace Run

variable {s : Setup} {g : Graph}

namespace Selects

variable {es : List Edge} {ts : List String}

end Selects

end Run

end Flowgraph
