import Flowgraph.Number.Binary

namespace Flowgraph.Number

structure Decimal where
  digits : Nat
  scale : Int

def compareDecimal (a : Nat) (k : Int) (b : Nat) (e : Int) : Ordering :=
  compare (a * Nat.pow 10 k.toNat * Nat.pow 2 (-e).toNat)
    (b * Nat.pow 2 e.toNat * Nat.pow 10 (-k).toNat)

def magnitude (m : Nat) (e : Int) : Int :=
  let guess := (Nat.log2 m + e) * 1233 / 4096
  let above (p : Int) := compareDecimal 1 p m e == .gt
  if above (guess - 1) then guess - 1
  else if above guess then guess
  else if above (guess + 1) then guess + 1
  else guess + 2

/-- `m · 2 ^ e / 10 ^ k` rounded down, and whether twice the rest is below, at or above one. -/
def divideScaled (m : Nat) (e : Int) (k : Int) : Nat × Ordering :=
  let n := m * Nat.pow 2 e.toNat * Nat.pow 10 (-k).toNat
  let d := Nat.pow 10 k.toNat * Nat.pow 2 (-e).toNat
  (n / d, compare (2 * (n % d)) d)

def roundScaled (m : Nat) (e : Int) (k : Int) : Nat :=
  match divideScaled m e k with
  | (q, .lt) => q
  | (q, .eq) => if q % 2 == 0 then q else q + 1
  | (q, .gt) => q + 1

/-- Whether a decimal lies among the reals that round to the float `m · 2 ^ e`. The lower gap is
half as wide where `m` is the least mantissa of its exponent. -/
def readsBack (m : Nat) (e : Int) (d : Nat) (k : Int) : Bool :=
  let low := 4 * m - (if m == leastFull && e != -1074 then 1 else 2)
  let atLow := compareDecimal d k low (e - 2)
  let atHigh := compareDecimal d k (4 * m + 2) (e - 2)
  if m % 2 == 0 then atLow != .lt && atHigh != .gt else atLow == .gt && atHigh == .lt

/-- The decimal of `n` digits nearest to the float, if one of that length reads back. -/
def candidate? (m : Nat) (e : Int) (n : Nat) : Option Decimal :=
  let k := magnitude m e - n
  let near := roundScaled m e k
  let down := (divideScaled m e k).1
  let far := if near == down then down + 1 else down
  if readsBack m e near k then some ⟨near, k⟩
  else if readsBack m e far k then some ⟨far, k⟩
  else none

/-- The shortest decimal that reads back as the positive float `m · 2 ^ e`, nearest among those. -/
def shortest (m : Nat) (e : Int) : Decimal :=
  ((List.range' 1 17).findSome? (candidate? m e)).getD ⟨roundScaled m e 0, 0⟩

/-- The decimal digits of a number and the place of the point before or after the first of them,
closing zeros dropped: `(ds, p)` stands for `0.ds · 10 ^ p`. -/
def Decimal.spread (d : Decimal) : List Char × Int :=
  let ds := (toString d.digits).toList
  let kept := (ds.reverse.dropWhile (· == '0')).reverse
  (if kept.isEmpty then ['0'] else kept, ds.length + d.scale)

/-- How a float is written: from which exponents on the point moves, and whether a whole number
keeps a digit behind the point. -/
structure FloatFormat where
  leastPositional : Int
  firstExponential : Int
  keepFraction : Bool

def exponentText (x : Int) : String :=
  let size := toString x.natAbs
  (if x < 0 then "e-" else "e+") ++ (if size.length < 2 then "0" ++ size else size)

def FloatFormat.layOut (f : FloatFormat) (ds : List Char) (point : Int) : String :=
  if point - 1 < f.leastPositional || f.firstExponential ≤ point - 1 then
    let tail := ds.drop 1
    String.ofList (ds.take 1 ++ (if tail.isEmpty then [] else '.' :: tail)) ++
      exponentText (point - 1)
  else if point ≤ 0 then
    "0." ++ String.ofList (List.replicate (-point).toNat '0' ++ ds)
  else if ds.length ≤ point then
    String.ofList (ds ++ List.replicate (point - ds.length).toNat '0') ++
      (if f.keepFraction then ".0" else "")
  else
    String.ofList (ds.take point.toNat ++ '.' :: ds.drop point.toNat)

/-- Shortest digits, positional from `10 ^ -4` to below `10 ^ 16`, always with a fraction. -/
def plain : FloatFormat := ⟨-4, 16, true⟩

/-- Six digits, positional from `10 ^ -4` to below `10 ^ 6`, closing zeros dropped. -/
def general : FloatFormat := ⟨-4, 6, false⟩

def signed (negative : Bool) (s : String) : String := if negative then "-" ++ s else s

def floatText (x : Float) : String :=
  match Binary.ofFloat x with
  | .nan => "nan"
  | .infinite negative => signed negative "inf"
  | .finite negative 0 _ => signed negative "0.0"
  | .finite negative m e =>
    let (ds, point) := (shortest m e).spread
    signed negative (plain.layOut ds point)

def generalText (x : Float) : String :=
  match Binary.ofFloat x with
  | .nan => "nan"
  | .infinite negative => signed negative "inf"
  | .finite negative 0 _ => signed negative "0"
  | .finite negative m e =>
    let k := magnitude m e - 6
    let (ds, point) := Decimal.spread ⟨roundScaled m e k, k⟩
    signed negative (general.layOut ds point)

def hexText (x : Float) : String :=
  match Binary.ofFloat x with
  | .nan => "nan"
  | .infinite negative => signed negative "inf"
  | .finite negative 0 _ => signed negative "0x0.0p+0"
  | .finite negative m e =>
    let digits := Nat.toDigits 16 (m % leastFull)
    let fraction := String.ofList (List.replicate (13 - digits.length) '0' ++ digits)
    let lead := if m < leastFull then "0x0." else "0x1."
    let power := e + 52
    signed negative (lead ++ fraction ++ (if power < 0 then "p-" else "p+") ++
      toString power.natAbs)

def longestInteger : Nat := 4300

def longNumeralText (digits : Nat) : String :=
  "Exceeds the limit (4300 digits) for integer string conversion: value has " ++
    toString digits ++ " digits; use sys.set_int_max_str_digits() to increase the limit"

/-- The text of an integer, or its count of digits where that is beyond the longest numeral. -/
def integerText (i : Int) : Except Nat String :=
  let s := toString i.natAbs
  if s.length ≤ longestInteger then .ok (signed (i < 0) s) else .error s.length

def digitsValue (ds : List Char) : Nat :=
  ds.foldl (fun n c ↦ 10 * n + (c.toNat - '0'.toNat)) 0

def nearestFloat (digits : List Char) (scale : Int) : Float :=
  let ds := digits.dropWhile (· == '0')
  let point := ds.length + scale
  if ds.isEmpty || point < -400 then 0.0
  else if 400 < point then 1.0 / 0.0
  else Float.ofScientific (digitsValue ds) (scale < 0) scale.natAbs

end Flowgraph.Number
