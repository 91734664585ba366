import Flowgraph.Condition.Eval
import Flowgraph.Run.Exchange
import Flowgraph.Settings.Basic
import Flowgraph.Template.Interpolation

namespace Flowgraph

namespace Value

mutual

/-- Raises the marks of a value, so that it shares nothing with what has lower marks. Values of
documents have no views in them. -/
def raise (step : Nat) : Value → Value
  | .tuple vs => .tuple (raiseItems step vs)
  | .list m vs => .list (if m == 0 then 0 else m + step) (raiseItems step vs)
  | .mapping m es => .mapping (if m == 0 then 0 else m + step) (raiseEntries step es)
  | .set m ks => .set (if m == 0 then 0 else m + step) ks
  | v => v
termination_by structural v => v

def raiseItems (step : Nat) : List Value → List Value
  | [] => []
  | v :: vs => v.raise step :: raiseItems step vs
termination_by structural vs => vs

def raiseEntries (step : Nat) : List (Key × Value) → List (Key × Value)
  | [] => []
  | (k, v) :: es => (k, v.raise step) :: raiseEntries step es
termination_by structural es => es

end

end Value

namespace Run

structure Setup where
  options : Options
  settings : Settings
  secret : String → Option String
  runtime : Expr.Runtime := .standard
  depth : Nat := Condition.standardDepth
  room : Nat := Json.standardRoom
  /-- The milliseconds that a run is said to have taken. -/
  elapsed : Nat := 0
  /-- Whether a pause of so many seconds never comes to its end. -/
  endless : Float → Bool := fun seconds ↦ seconds == 1.0 / 0.0

namespace Setup

def traceLevel (s : Setup) : Log.Level := if s.options.verbose then .info else .debug

def source (s : Setup) : Template.Source := ⟨s.secret, s.settings.maxPasses, s.runtime⟩

end Setup

structure Progress where
  journal : Journal
  exitCode : Int := 0
  running : Bool := false
  executed : List String := []
  replies : List Reply := []
  /-- Whether a stop comes, executor by executor of those that send no request. -/
  signals : List Bool := []
  requests : List Outgoing := []
  pauses : List Float := []

/-- Whether a run has come to a pause without end. -/
def Progress.hangs (s : Setup) (p : Progress) : Bool := p.pauses.any s.endless

/-- The state that runs of a graph begin with: the initial state, and the variables under `var`. -/
def initialState (g : Graph) : State :=
  let bound := Value.markBoundEntries g.initialState
  let vars := Value.mapping 0 (Value.raiseEntries bound g.vars)
  .ofEntries (Entries.insert g.initialState (.str "var") vars)

def Progress.ofGraph (g : Graph) (replies : List Reply) (signals : List Bool) : Progress :=
  { journal := { state := initialState g }, replies, signals }

def onJournal (m : Act Journal α) : Act Progress α := fun p ↦
  let (r, j) := m p.journal
  (r, { p with journal := j })

def trace (s : Setup) (message : String) (fields : List (String × Value) := []) :
    Act Progress Unit :=
  onJournal (note s.traceLevel message fields)

def stop (s : Setup) : Act Progress Unit := do
  Act.modify fun p ↦ { p with running := false }
  trace s "Graph execution stopped"

def heed (s : Setup) (stops : Bool) : Act Progress Unit :=
  if stops then stop s else pure ()

def nextSignal : Act Progress Bool := fun p ↦
  match p.signals with
  | b :: bs => (.ok b, { p with signals := bs })
  | [] => (.ok false, p)

end Run

end Flowgraph
