namespace Flowgraph.Number

/-- A float taken apart: `finite s m e` is `m · 2 ^ e`, negated when `s` is set. -/
inductive Binary where
  | nan
  | infinite (negative : Bool)
  | finite (negative : Bool) (mantissa : Nat) (exponent : Int)

def leastFull : Nat := 0x10000000000000

/-- Takes a float apart. Its top bit is the sign, the eleven bits below that are the exponent, and
the other 52 are the fraction. -/
def Binary.ofFloat (x : Float) : Binary :=
  let bits := x.toBits.toNat
  let negative := bits / 0x8000000000000000 % 2 == 1
  let biased : Nat := bits / leastFull % 0x800
  let fraction := bits % leastFull
  if biased == 2047 then
    if fraction == 0 then .infinite negative else .nan
  else if biased == 0 then .finite negative fraction (-1074)
  else .finite negative (leastFull + fraction) (biased - 1075)

def compareScaled (a : Int) (e : Int) (b : Int) : Ordering :=
  compare (a * Nat.pow 2 e.toNat) (b * Nat.pow 2 (-e).toNat)

def compareFloatInt? (x : Float) (i : Int) : Option Ordering :=
  match Binary.ofFloat x with
  | .nan => none
  | .infinite negative => some (if negative then .lt else .gt)
  | .finite negative m e => some (compareScaled (if negative then -m else m) e i)

def compareFloat? (x y : Float) : Option Ordering :=
  if x < y then some .lt else if y < x then some .gt else if x == y then some .eq else none

def integral? (x : Float) : Option Int :=
  match Binary.ofFloat x with
  | .finite negative m e =>
    let size := m * Nat.pow 2 e.toNat
    let unit := Nat.pow 2 (-e).toNat
    if size % unit == 0 then some (if negative then -(size / unit : Nat) else (size / unit : Nat))
    else none
  | _ => none

def isFinite (x : Float) : Bool :=
  match Binary.ofFloat x with
  | .finite .. => true
  | _ => false

def ofInt? (i : Int) : Option Float :=
  let x := Float.ofInt i
  if isFinite x then some x else none

end Flowgraph.Number
