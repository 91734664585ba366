import Flowgraph.Value.Equality

namespace Flowgraph

inductive Comparison where
  | lt
  | le
  | gt
  | ge
deriving DecidableEq

namespace Comparison

def symbol : Comparison → String
  | lt => "<"
  | le => "<="
  | gt => ">"
  | ge => ">="

def ofSymbol? : String → Option Comparison
  | "<" => some lt
  | "<=" => some le
  | ">" => some gt
  | ">=" => some ge
  | _ => none

def holds : Comparison → Ordering → Bool
  | lt, o => o == .lt
  | le, o => o != .gt
  | gt, o => o == .gt
  | ge, o => o != .lt

end Comparison

inductive Unordered where
  | types (op : Comparison) (left right : String)
  | dateWithTime
deriving DecidableEq

def Unordered.message : Unordered → String
  | types op l r =>
    "'" ++ op.symbol ++ "' not supported between instances of '" ++ l ++ "' and '" ++ r ++ "'"
  | dateWithTime => "can't compare datetime.datetime to datetime.date"

namespace Value

def subset (vs ws : List Value) : Bool := vs.all fun v ↦ ws.any (equal v)

def compareMembers (op : Comparison) (vs ws : List Value) : Bool :=
  match op with
  | .lt => vs.length < ws.length && subset vs ws
  | .le => subset vs ws
  | .gt => ws.length < vs.length && subset ws vs
  | .ge => subset ws vs

mutual

def compareBy (op : Comparison) : Value → Value → Except Unordered Bool
  | .str s, .str t => .ok (op.holds (compare s t))
  | .bytes o, .bytes p => .ok (op.holds (compare o p))
  | .stamp d, .stamp e =>
    if d.timed == e.timed then .ok (op.holds (compare d.text e.text)) else .error .dateWithTime
  | .list _ vs, .list _ ws => compareItems op vs ws
  | .tuple vs, .tuple ws => compareItems op vs ws
  | v, w => match v.toNum?, w.toNum?, v.members?, w.members? with
    | some a, some b, _, _ => .ok ((a.compare? b).any op.holds)
    | _, _, some vs, some ws => .ok (compareMembers op vs ws)
    | _, _, _, _ => .error (.types op v.typeName w.typeName)
termination_by structural v => v

def compareItems (op : Comparison) : List Value → List Value → Except Unordered Bool
  | [], [] => .ok (op.holds .eq)
  | [], _ :: _ => .ok (op.holds .lt)
  | _ :: _, [] => .ok (op.holds .gt)
  | v :: vs, w :: ws => if equal v w then compareItems op vs ws else compareBy op v w
termination_by structural vs => vs

end

/-- An ordering test that fails where either side is missing or the two have no order. -/
def safeCompare (op : Comparison) (v w : Value) : Bool :=
  !v.isNullish && !w.isNullish && (compareBy op v w).toOption.getD false

def looseCompare (v w : Value) : Ordering :=
  match compareBy .lt v w with
  | .error _ => .eq
  | .ok true => .lt
  | .ok false => match compareBy .gt v w with
    | .ok true => .gt
    | _ => .eq

end Value

end Flowgraph
