import Flowgraph.Fault
import Flowgraph.Log.Entry

namespace Flowgraph

structure Journal where
  state : State
  /-- The node at work, named in every entry that names none. -/
  node : Option String := none
  log : List Log.Entry := []

/-- An action on a `σ`: it answers an `α` or fails, and either way leaves a `σ` behind. -/
def Act (σ α : Type) := σ → Except Fault α × σ

namespace Act

variable {σ α β : Type}

protected def bind (m : Act σ α) (f : α → Act σ β) : Act σ β := fun s ↦
  match m s with
  | (.ok a, s) => f a s
  | (.error e, s) => (.error e, s)

instance : Monad (Act σ) where
  pure a := fun s ↦ (.ok a, s)
  bind := Act.bind

def fail (e : Fault) : Act σ α := fun s ↦ (.error e, s)

def ofExcept (r : Except Fault α) : Act σ α := fun s ↦ (r, s)

def get : Act σ σ := fun s ↦ (.ok s, s)

def modify (f : σ → σ) : Act σ Unit := fun s ↦ (.ok (), f s)

def attempt (m : Act σ α) : Act σ (Except Fault α) := fun s ↦
  match m s with
  | (r, s) => (.ok r, s)

end Act

namespace Journal

def note (j : Journal) (level : Log.Level) (event : String) (fields : List (String × Value)) :
    Journal :=
  let fields := match j.node with
    | some n => if fields.any (·.1 == "node") then fields else ("node", .str n) :: fields
    | none => fields
  { j with log := j.log ++ [⟨level, event, fields⟩] }

def edits (j : Journal) (es : List Edit) : Journal := { j with state := j.state.edits es }

end Journal

def note (level : Log.Level) (event : String) (fields : List (String × Value) := []) :
    Act Journal Unit :=
  Act.modify fun j ↦ j.note level event fields

def display (v : Value) : Act Journal String := Act.ofExcept (v.display.mapError .text)

/-- Evaluates the text of an expression and carries out its edits. A fault of the expression
language, and nesting beyond the limits, are answers; other faults are not. -/
def evaluate (runtime : Expr.Runtime) (source : String) :
    Act Journal (Except Expr.Error (Value × List Edit)) := fun j ↦
  let (r, edits) := Expr.evalText runtime j.state source
  let j := j.edits edits
  match r with
  | .ok v => (.ok (.ok (v, edits)), j)
  | .error (.text e) => (.error (.text e), j)
  | .error e => (.ok (.error e), j)

end Flowgraph
