import Flowgraph.Expr.Method.Arguments
import Flowgraph.Expr.Method.Text
import Flowgraph.Number.Decimal
import Flowgraph.Text.Utf8

namespace Flowgraph.Expr.Method

namespace Scalar

def bitLength (i : Int) : Nat := if i == 0 then 0 else Nat.log2 i.natAbs + 1

def bitCount (n : Nat) : Nat := (Nat.toDigits 2 n).count '1'

def octets? (i : Int) (length : Nat) : Option (List UInt8) :=
  if i < 0 || Nat.pow 256 length ≤ i.toNat then none
  else some ((List.range length).map fun k ↦ (i.toNat / Nat.pow 256 (length - 1 - k)).toUInt8)

def asOctet? (v : Value) : Option Nat := do
  let i ← asInt? v
  if 0 ≤ i && i < 256 then some i.toNat else none

def givenOctets? : Value → Option (List Nat)
  | .str _ => none
  | v => do (← iterate? v).mapM asOctet?

def ofOctets (os : List Nat) : Nat := os.foldl (fun n o ↦ 256 * n + o) 0

def fromBytes? : List Value → Option Nat
  | [v] | [v, .str "big"] => ofOctets <$> givenOctets? v
  | [v, .str "little"] => (fun os ↦ ofOctets os.reverse) <$> givenOctets? v
  | _ => none

def callInt (i : Int) (method : String) (args : List Value) : Option Value :=
  match method, args with
  | "bit_length", [] => some (.int (bitLength i))
  | "bit_count", [] => some (.int (bitCount i.natAbs))
  | "conjugate", [] => some (.int i)
  | "as_integer_ratio", [] => some (.tuple [.int i, .int 1])
  | "to_bytes", [] => (octets? i 1).map .bytes
  | "to_bytes", [n] => do
    let n ← asSize? n
    if n < 0 then none else return .bytes (← octets? i n.toNat)
  | "to_bytes", [n, .str order] => do
    let n ← asSize? n
    let os ← if n < 0 then none else octets? i n.toNat
    match order with
    | "big" => return .bytes os
    | "little" => return .bytes os.reverse
    | _ => none
  | "from_bytes", args => (fromBytes? args).map fun n ↦ .int n
  | _, _ => none

def callBool (b : Bool) (method : String) (args : List Value) : Option Value :=
  match method with
  | "from_bytes" => (fromBytes? args).map fun n ↦ .bool (n != 0)
  | _ => callInt b.toNat method args

def ratio? (x : Float) : Option (Int × Nat) :=
  match Number.Binary.ofFloat x with
  | .finite negative m e =>
    let n := m * Nat.pow 2 e.toNat
    let d := Nat.pow 2 (-e).toNat
    let g := Nat.gcd n d
    some (if negative then -(n / g : Nat) else (n / g : Nat), d / g)
  | _ => none

def callFloat (x : Float) (method : String) (args : List Value) : Option Value :=
  match method, args with
  | "is_integer", [] => some (.bool (Number.integral? x).isSome)
  | "hex", [] => some (.str (Number.hexText x))
  | "conjugate", [] => some (.float x)
  | "as_integer_ratio", [] => (ratio? x).map fun (n, d) ↦ .tuple [.int n, .int d]
  | _, _ => none

def decode? (os : List UInt8) (encoding onFault : String) : Option Value :=
  if os.isEmpty then some (.str "")
  else match Text.encodingName encoding with
  | "utf_8" | "utf8" | "u8" | "utf" =>
    if onFault == "strict" || onFault == "ignore" || onFault == "replace" then
      (Flowgraph.Text.decodeUtf8 os).toOption.map .str
    else none
  | "ascii" | "us_ascii" | "646" =>
    if os.all (·.toNat < 128) then some (.str (String.ofList (os.map fun o ↦ Char.ofNat o.toNat)))
    else none
  | "latin_1" | "latin1" | "iso_8859_1" | "iso8859_1" | "l1" | "latin" =>
    some (.str (String.ofList (os.map fun o ↦ Char.ofNat o.toNat)))
  | _ => none

def callBytes (os : List UInt8) (method : String) (args : List Value) : Option Value :=
  match method, args with
  | "decode", [] => decode? os "utf-8" "strict"
  | "decode", [.str e] => decode? os e "strict"
  | "decode", [.str e, .str f] => decode? os e f
  | "hex", [] => some (.str (String.join (os.map Flowgraph.Text.hexOctet)))
  | "hex", [.str mark] =>
    match mark.toList with
    | [c] =>
      if c.toNat < 128 then
        some (.str (String.intercalate mark (os.map Flowgraph.Text.hexOctet)))
      else none
    | _ => none
  | _, _ => none

def callStamp (d : Stamp) (method : String) (args : List Value) : Option Value :=
  match method, args with
  | "isoformat", [] =>
    some (.str (String.ofList (d.text.toList.map fun c ↦ if c == ' ' then 'T' else c)))
  | _, _ => none

def intMethods : List String :=
  ["as_integer_ratio", "bit_count", "bit_length", "conjugate", "from_bytes", "to_bytes"]

def floatMethods : List String :=
  ["as_integer_ratio", "conjugate", "fromhex", "hex", "is_integer"]

def bytesMethods : List String :=
  ["capitalize", "center", "count", "decode", "endswith", "expandtabs", "fromhex", "hex", "index",
   "isalnum", "isalpha", "isascii", "isdigit", "islower", "isspace", "istitle", "isupper", "join",
   "ljust", "lower", "lstrip", "maketrans", "partition", "removeprefix", "removesuffix",
   "replace", "rfind", "rindex", "rjust", "rpartition", "rsplit", "rstrip", "split",
   "splitlines", "startswith", "strip", "swapcase", "title", "translate", "upper", "zfill"]

def dateMethods : List String :=
  ["ctime", "fromisocalendar", "fromisoformat", "fromordinal", "fromtimestamp", "isocalendar",
   "isoformat", "isoweekday", "replace", "strftime", "timetuple", "today", "toordinal",
   "weekday"]

def timeMethods : List String :=
  ["astimezone", "combine", "date", "dst", "now", "strptime", "time", "timestamp", "timetz",
   "tzname", "utcfromtimestamp", "utcnow", "utcoffset", "utctimetuple"]

end Scalar

end Flowgraph.Expr.Method
