import Flowgraph.Proofs.Run.Events

namespace Flowgraph

open Act

namespace Run

section

variable {s : Setup} {x : Executor}

end

/-- A graph with two hooks that end its runs, before each of two conditions; the second condition is
unknown. -/
def alarm : Graph where
  before := { all := [("bell", .stop 3), ("horn", .stop 4)] }
  nodes := [
    ("start", { edges := [⟨"next", some (.all []), none⟩, ⟨"next", some (.named "gone"), none⟩] })]

end Run

end Flowgraph
