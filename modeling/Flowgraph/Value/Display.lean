import Flowgraph.Json.Writer

namespace Flowgraph.Value

mutual

/-- The value as JSON can show it: missing members vanish, missing items become null. -/
def settled : Value → Value
  | .list _ vs => .list 0 (settledItems vs)
  | .tuple vs => .list 0 (settledItems vs)
  | .mapping _ es => .mapping 0 (settledEntries es)
  | v => v
termination_by structural v => v

def settledItems : List Value → List Value
  | [] => []
  | .undefined :: vs => .null :: settledItems vs
  | v :: vs => v.settled :: settledItems vs
termination_by structural vs => vs

def settledEntries : List (Key × Value) → List (Key × Value)
  | [] => []
  | (_, .undefined) :: es => settledEntries es
  | (k, v) :: es => (k, v.settled) :: settledEntries es
termination_by structural es => es

end

/-- A text stands for itself, a whole float loses its fraction, and containers become JSON. -/
def display : Value → Except Json.WriteError String
  | .str s => .ok s
  | .undefined => .ok "undefined"
  | .null => .ok "null"
  | .bool b => .ok (if b then "true" else "false")
  | .int i => String.ofList <$> Json.writeInt i
  | .float x => match Number.integral? x with
    | some i => .ok (toString i)
    | none => .ok (Number.floatText x)
  | .stamp d => .ok d.text
  | v@(.list ..) | v@(.tuple _) | v@(.mapping ..) => Json.writeText .compact v.settled
  | v => if v.isSpellable then .ok v.literal else .error .integer

end Flowgraph.Value
