import Flowgraph.Text.Range

namespace Flowgraph.Text

inductive Utf8Cause where
  | start
  | continuation
  | truncated
deriving DecidableEq

/-- The octets from `first`, `count` of them, that are no character. -/
structure Utf8Fault where
  cause : Utf8Cause
  first : Nat
  count : Nat
  octet : UInt8

def Utf8Cause.message : Utf8Cause → String
  | start => "invalid start byte"
  | continuation => "invalid continuation byte"
  | truncated => "unexpected end of data"

def hexOctet (o : UInt8) : String :=
  let ds := Nat.toDigits 16 o.toNat
  String.ofList (if ds.length < 2 then '0' :: ds else ds)

def Utf8Fault.message (f : Utf8Fault) : String :=
  "'utf-8' codec can't decode " ++
    (if f.count == 1 then "byte 0x" ++ hexOctet f.octet ++ " in position " ++ toString f.first
    else "bytes in position " ++ toString f.first ++ "-" ++ toString (f.first + f.count - 1)) ++
    ": " ++ f.cause.message

/-- The character of a code point; half of a pair of units becomes the replacement character. -/
def charOf (n : Nat) : Char := if 0xD800 ≤ n && n < 0xE000 then '\uFFFD' else Char.ofNat n

def isContinuation (o : UInt8) : Bool := 0x80 ≤ o.toNat && o.toNat < 0xC0

/-- Whether the second octet of a character may follow the first: no overlong form, no half of a
pair, nothing beyond the last code point. -/
def secondFits (first second : UInt8) : Bool :=
  isContinuation second &&
    !(first == 0xE0 && second.toNat < 0xA0) && !(first == 0xED && 0xA0 ≤ second.toNat) &&
    !(first == 0xF0 && second.toNat < 0x90) && !(first == 0xF4 && 0x90 ≤ second.toNat)

def sequenceLength? (o : UInt8) : Option Nat :=
  if o.toNat < 0x80 then some 1
  else if o.toNat < 0xC2 then none
  else if o.toNat < 0xE0 then some 2
  else if o.toNat < 0xF0 then some 3
  else if o.toNat < 0xF5 then some 4
  else none

/-- The count of octets at the front that can begin a character of the given length. -/
def fitting (first : UInt8) (length : Nat) (rest : List UInt8) : Nat :=
  match rest with
  | [] => 1
  | second :: tail =>
    if secondFits first second then
      2 + ((tail.take (length - 2)).takeWhile isContinuation).length
    else 1

def codePoint (first : UInt8) (length : Nat) (rest : List UInt8) : Nat :=
  let lead := match length with
    | 1 => first.toNat
    | 2 => first.toNat % 32
    | 3 => first.toNat % 16
    | _ => first.toNat % 8
  (rest.take (length - 1)).foldl (fun n o ↦ n * 64 + o.toNat % 64) lead

def decodeFrom (place : Nat) : List UInt8 → Except Utf8Fault (List Char)
  | [] => .ok []
  | o :: rest =>
    match sequenceLength? o with
    | none => .error ⟨.start, place, 1, o⟩
    | some 1 => (Char.ofNat o.toNat :: ·) <$> decodeFrom (place + 1) rest
    | some length =>
      let fit := fitting o length rest
      if fit == length then
        (Char.ofNat (codePoint o length rest) :: ·) <$>
          decodeFrom (place + length) (rest.drop (length - 1))
      else if fit == rest.length + 1 then .error ⟨.truncated, place, fit, o⟩
      else .error ⟨.continuation, place, fit, o⟩
termination_by os => os.length
decreasing_by
  · exact Nat.lt_succ_self rest.length
  · simp only [List.length_drop, List.length_cons]
    omega

def decodeUtf8 (os : List UInt8) : Except Utf8Fault String := String.ofList <$> decodeFrom 0 os

def unifyLineEnds : List Char → List Char
  | '\r' :: '\n' :: s => '\n' :: unifyLineEnds s
  | '\r' :: s => '\n' :: unifyLineEnds s
  | c :: s => c :: unifyLineEnds s
  | [] => []

end Flowgraph.Text
