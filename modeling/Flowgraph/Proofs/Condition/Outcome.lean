import Flowgraph.Proofs.Condition.Demands
import Flowgraph.Proofs.Condition.Depth
import Flowgraph.Proofs.Condition.Frame
import Flowgraph.Proofs.Document.NormalForm
import Flowgraph.Proofs.Expr.Data

namespace Flowgraph.Condition

open Act Document Checked

section IsValid

variable {L : Library} (hL : L.Lawful) {v : Value} {c : Condition}

include hL

end IsValid

def Turn.IsComparison (t : Turn) : Prop :=
  ∃ path r operand, t.leaf = simple path r operand ∧ ∀ s, r ≠ .unknown s

section

variable {st : Setting} {depth : ℕ} {c : Condition} {j : Journal}

end

def Turn.demands (st : Setting) (t : Turn) : List Demand :=
  match t.leaf with
  | simple path _ operand => demandsOfSimple st.runtime path operand t.journal
  | _ => []

def demands (st : Setting) (depth : Nat) (c : Condition) (j : Journal) : List Demand :=
  (reached st depth c j).flatMap (Turn.demands st)

section

variable {st : Setting} {depth : ℕ} {c : Condition} {j : Journal}

theorem Turn.IsComparison.error_iff {t : Turn} (h : t.IsComparison) (f : Fault) :
    (t.result st).1 = .error f ↔ ∃ d ∈ t.demands st, d.fault? = some f := by
  obtain ⟨leaf, j⟩ := t
  obtain ⟨path, r, operand, rfl, hr⟩ := h
  exact asks_evalSimple st path operand hr j f

end

/-- All that can be wrong is a dotted path in this state, or an integer with too many digits. -/
def Demand.IsPlain (s : State) (d : Demand) : Prop :=
  ∀ f, d.fault? = some f → f = .text .integer ∨ ∃ path e, d = .walk s path ∧ f = .path e

section Data

variable {runtime : Expr.Runtime} {path : String} {j k : Journal} {v w operand : Value}

end Data

end Flowgraph.Condition
