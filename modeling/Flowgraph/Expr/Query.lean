import Flowgraph.Expr.Fault

namespace Flowgraph.Expr

inductive QueryFault where
  | call (c : CallFault)
  | unknownOperator (name : String)
  | queryType (typeName : String)

def fallbackKeys : List String := ["id", "name", "type", "key"]

def matchesFields (pattern : Entries) : Value → Bool
  | .mapping _ es => pattern.all fun (k, v) ↦ (Entries.get es k).strictEqual v
  | _ => false

/-- Whether an item is a scalar, or has it as the named property or as one of the usual ones. -/
def matchesScalar (scalar property : Value) : Value → Bool
  | .mapping _ es =>
    let has (field : String) := (Entries.get es (.str field)).strictEqual scalar
    match property with
    | .str field => if field.isEmpty then fallbackKeys.any has else has field
    | _ => fallbackKeys.any has
  | v@(.str _) | v@(.int _) | v@(.float _) => v.strictEqual scalar
  | _ => false

def findMatches (criteria property item : Value) : Bool :=
  match criteria with
  | .mapping _ pattern => matchesFields pattern item
  | .list .. | .null | .undefined => false
  | _ => matchesScalar criteria property item

def find (list criteria property : Value) : Value :=
  match list with
  | .list _ vs => (vs.find? (findMatches criteria property)).getD .undefined
  | _ => .undefined

def first : Value → Value
  | .list _ (v :: _) => v
  | _ => .undefined

def last : Value → Value
  | .list _ vs => vs.getLast?.getD .undefined
  | _ => .undefined

inductive FilterOperator where
  | order (op : Comparison)
  | equal
  | unequal
deriving DecidableEq

def FilterOperator.ofName? : String → Option FilterOperator
  | "<" | "$lt" => some (.order .lt)
  | "<=" | "$lte" => some (.order .le)
  | ">" | "$gt" => some (.order .gt)
  | ">=" | "$gte" => some (.order .ge)
  | "!=" | "$ne" => some .unequal
  | "==" | "$eq" => some .equal
  | _ => none

def FilterOperator.holds : FilterOperator → Value → Value → Bool
  | order op, v, w => Value.safeCompare op v w
  | equal, v, w => v.strictEqual w
  | unequal, v, w => !v.strictEqual w

def FilterOperator.ofKey? : Key → Option FilterOperator
  | .str s => ofName? s
  | _ => none

def passesTests (field : Value) : List (Key × Value) → Except QueryFault Bool
  | [] => .ok true
  | (op, v) :: tests =>
    match FilterOperator.ofKey? op with
    | none => .error (.unknownOperator op.text)
    | some o => if o.holds field v then passesTests field tests else .ok false

def lookUp (item : Value) (path : Value) : Except CallFault Value :=
  match path with
  | .str p => (item.getPath p).mapError .path
  | v => .error (.pathType (match v with | .stamp _ => "datetime." ++ v.typeName | _ => v.typeName))

def passes (item : Value) : List (Key × Value) → Except QueryFault Bool
  | [] => .ok true
  | (path, condition) :: query =>
    match item with
    | .mapping .. => do
      let field ← (lookUp item path.toValue).mapError .call
      let holds ← match condition with
        | .mapping _ tests => passesTests field tests
        | v => .ok (field.strictEqual v)
      if holds then passes item query else return false
    | _ => .ok false

def passing (query : List (Key × Value)) : List Value → Except QueryFault (List Value)
  | [] => .ok []
  | v :: vs => do
    let holds ← passes v query
    let rest ← passing query vs
    return if holds then v :: rest else rest

def filter (list query : Value) : Except QueryFault Value :=
  match list, query with
  | .list _ vs, .mapping _ q => Value.ofList <$> passing q vs
  | .list .., q => .error (.queryType q.typeName)
  | _, _ => .ok (.ofList [])

end Flowgraph.Expr
