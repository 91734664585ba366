import Flowgraph.Expr.Fault

namespace Flowgraph.Expr

inductive Extremum where
  | max
  | min
deriving DecidableEq

namespace Extremum

def name : Extremum → String
  | max => "max"
  | min => "min"

def ofName? : String → Option Extremum
  | "max" => some max
  | "min" => some min
  | _ => none

def test : Extremum → Comparison
  | max => .gt
  | min => .lt

def better (x : Extremum) (best v : Value) : Except CallFault Value := do
  let wins ← (Value.compareBy x.test v best).mapError .unordered
  return if wins then v else best

def apply (x : Extremum) : List Value → Except CallFault Value
  | [] => .error (.emptyExtremum x.name)
  | v :: vs => vs.foldlM x.better v

end Extremum

end Flowgraph.Expr
