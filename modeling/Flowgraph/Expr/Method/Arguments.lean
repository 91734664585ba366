import Flowgraph.Expr.Methods

namespace Flowgraph.Expr.Method

def asInt? : Value → Option Int
  | .int i => some i
  | .bool b => some b.toNat
  | _ => none

def asSize? (v : Value) : Option Int := do
  let i ← asInt? v
  if -0x8000000000000000 ≤ i && i < 0x8000000000000000 then some i else none

/-- The place in a row of `length` that an index names, counted from the end if negative, and
brought into bounds. -/
def clampIndex (length : Nat) (i : Int) : Nat :=
  let j := if i < 0 then i + length else i
  min j.toNat length

def bound? (length default : Nat) : Option Value → Option Nat
  | none | some .null => some default
  | some v => (asInt? v).map (clampIndex length)

def iterate? : Value → Option (List Value)
  | .list _ vs | .tuple vs => some vs
  | .set _ ks => some (Key.toValues ks)
  | .mapping _ es => some (Value.viewItems .keys es)
  | .view kind _ es => some (Value.viewItems kind es)
  | .str s => some (s.toList.map fun c ↦ .str (String.singleton c))
  | .bytes o => some (o.map fun b ↦ .int b.toNat)
  | _ => none

end Flowgraph.Expr.Method
