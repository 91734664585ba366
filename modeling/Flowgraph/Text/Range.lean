namespace Flowgraph.Text

/-- The code points `first`, `first + step`, …, up to `last`. -/
structure CharRange where
  first : Nat
  last : Nat
  step : Nat

def CharRange.contains (r : CharRange) (n : Nat) : Bool :=
  r.first ≤ n && n ≤ r.last && (n - r.first) % r.step == 0

def inRanges (rs : List CharRange) (c : Char) : Bool :=
  rs.any (·.contains c.toNat)

end Flowgraph.Text
