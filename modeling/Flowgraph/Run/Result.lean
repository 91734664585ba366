import Flowgraph.Fault

namespace Flowgraph.Run

structure Result where
  exitCode : Int
  state : Value
  executed : List String
  milliseconds : Nat

namespace Result

def isSuccess (r : Result) : Bool := r.exitCode == 0

def ofParts (exitCode : Int) (state : Value) (executed : List String) (milliseconds : Int) :
    Except Report Result :=
  if milliseconds < 0 then .error ⟨"ValueError", "duration_ms must be non-negative", none⟩
  else .ok ⟨exitCode, state, executed, milliseconds.toNat⟩

def toValue (r : Result) : Value :=
  .ofEntries [(.str "exit_code", .int r.exitCode), (.str "state", r.state),
    (.str "nodes_executed", .ofList (r.executed.map .str)),
    (.str "duration_ms", .int r.milliseconds)]

end Result

end Flowgraph.Run
