import Flowgraph.Number.Decimal
import Flowgraph.Text.Blank
import Flowgraph.Text.Digit
import Flowgraph.Value.Literal

namespace Flowgraph.Number

def joinDigits? (s : List Char) : Option (List Char) :=
  let double := (s.zip s.tail).any fun (a, b) ↦ a == '_' && b == '_'
  if s.head? == some '_' || s.getLast? == some '_' || double then none
  else some (s.filter (· != '_'))

def takeSign (s : List Char) : Bool × List Char :=
  match s with
  | '-' :: r => (true, r)
  | '+' :: r => (false, r)
  | _ => (false, s)

/-- Digits, a fraction and an exponent, of which the exponent and one of the others may lack. -/
def readPlainFloat? (s : List Char) : Option Float :=
  let whole := s.takeWhile Char.isDigit
  let r := s.drop whole.length
  let (fraction, r) := match r with
    | '.' :: t => let f := t.takeWhile Char.isDigit; (f, t.drop f.length)
    | _ => ([], r)
  if whole.isEmpty && fraction.isEmpty then none
  else
    let scaled (e : Int) := some (nearestFloat (whole ++ fraction) (e - fraction.length))
    match r with
    | [] => scaled 0
    | c :: t =>
      let (negative, ds) := takeSign t
      if (c == 'e' || c == 'E') && !ds.isEmpty && ds.all Char.isDigit then
        let n : Int := digitsValue ds
        scaled (if negative then -n else n)
      else none

def readUnsignedFloat? (s : List Char) : Option Float :=
  match String.ofList (s.map Char.toLower) with
  | "inf" | "infinity" => some (1.0 / 0.0)
  | "nan" => some (0.0 / 0.0)
  | _ => readPlainFloat? s

def plainDigit (c : Char) : Char :=
  match Text.decimalValue? c with
  | some d => Char.ofNat ('0'.toNat + d)
  | none => c

/-- The float that a text writes, with blanks around it, in digits of any script. -/
def readFloat? (text : List Char) : Option Float :=
  let (negative, s) := takeSign ((Text.trim text).map plainDigit)
  (readUnsignedFloat? s).map fun x ↦ if negative then -x else x

/-- A character as it stands in a numeral: blanks beyond ASCII are spaces, and digits of any script
ASCII digits. -/
def numeralChar (c : Char) : Char :=
  if c.toNat < 128 then c else if Text.isBlank c then ' ' else plainDigit c

def isSpace (c : Char) : Bool := c == ' ' || ('\t' ≤ c && c ≤ '\r')

def numeralChars (text : List Char) : List Char :=
  let s := (text.map numeralChar).dropWhile isSpace
  (s.reverse.dropWhile isSpace).reverse

def groupsDigits (s : List Char) : Bool :=
  s.head? != some '_' && s.getLast? != some '_' &&
    (s.zip s.tail).all fun (a, b) ↦ (b != '_' || a.isDigit) && (a != '_' || b.isDigit)

def readWhole? (text : List Char) : Option Int :=
  let (negative, s) := takeSign (numeralChars text)
  let ds := s.filter (· != '_')
  if groupsDigits s && !ds.isEmpty && ds.all Char.isDigit && ds.length ≤ longestInteger then
    let n : Int := digitsValue ds
    some (if negative then -n else n)
  else none

def readPointed? (text : List Char) : Option Float :=
  let (negative, s) := takeSign (numeralChars text)
  if groupsDigits s then
    (readPlainFloat? (s.filter (· != '_'))).map fun x ↦ if negative then -x else x
  else none

def digitValue? (c : Char) : Option Nat :=
  match Text.decimalValue? c with
  | some d => some d
  | none =>
    if 'a' ≤ c && c ≤ 'f' then some (c.toNat - 'a'.toNat + 10)
    else if 'A' ≤ c && c ≤ 'F' then some (c.toNat - 'A'.toNat + 10)
    else none

def dropBaseMark (base : Nat) (s : List Char) : List Char :=
  match base, s with
  | 2, '0' :: 'b' :: r | 2, '0' :: 'B' :: r => r
  | 8, '0' :: 'o' :: r | 8, '0' :: 'O' :: r => r
  | 16, '0' :: 'x' :: r | 16, '0' :: 'X' :: r => r
  | _, s => s

inductive NumeralFault where
  | malformed (base : Nat) (text : String)
  | tooLong (digits : Nat)

def NumeralFault.message : NumeralFault → String
  | malformed b s =>
    "invalid literal for int() with base " ++ toString b ++ ": " ++ Text.quoted s
  | tooLong n => longNumeralText n

def readInteger (base : Nat) (text : List Char) : Except NumeralFault Int :=
  let (negative, s) := takeSign (Text.trim text)
  let s := dropBaseMark base s
  let ds := (s.map digitValue?).takeWhile fun d ↦ d.any (· < base)
  if base == 10 && longestInteger < ds.length then .error (.tooLong ds.length)
  else if ds.isEmpty || ds.length < s.length then .error (.malformed base (String.ofList text))
  else
    let n : Int := ds.foldl (fun n d ↦ base * n + d.getD 0) 0
    .ok (if negative then -n else n)

end Flowgraph.Number
