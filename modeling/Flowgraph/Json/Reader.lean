import Flowgraph.Number.Decimal
import Flowgraph.Text.Utf8
import Flowgraph.Value.Basic

namespace Flowgraph.Json

inductive Cause where
  | byteOrderMark
  | value
  | propertyName
  | colon
  | comma
  | extraData
  | unterminatedString
  | controlCharacter
  | escape
  | unicodeEscape
  /-- An integer with more digits than the longest numeral. -/
  | longInteger (digits : Nat)
  | tooDeep
deriving DecidableEq

/-- What went wrong, and the count of characters from there to the end. -/
structure Failure where
  cause : Cause
  left : Nat

def isSpace (c : Char) : Bool := c == ' ' || c == '\t' || c == '\n' || c == '\r'

def skipSpace (s : List Char) : List Char := s.dropWhile isSpace

def fail (cause : Cause) (s : List Char) : Except Failure α := .error ⟨cause, s.length⟩

def hexValue? (c : Char) : Option Nat :=
  if '0' ≤ c && c ≤ '9' then some (c.toNat - 48)
  else if 'a' ≤ c && c ≤ 'f' then some (c.toNat - 87)
  else if 'A' ≤ c && c ≤ 'F' then some (c.toNat - 55)
  else none

def unit? : List Char → Option (Nat × List Char)
  | a :: b :: c :: d :: r => do
    let a ← hexValue? a
    let b ← hexValue? b
    let c ← hexValue? c
    let d ← hexValue? d
    if r.isEmpty then none else some (((a * 16 + b) * 16 + c) * 16 + d, r)
  | _ => none

def isHighUnit (n : Nat) : Bool := 0xD800 ≤ n && n < 0xDC00

def isLowUnit (n : Nat) : Bool := 0xDC00 ≤ n && n < 0xE000

def pairChar (high low : Nat) : Char :=
  Char.ofNat (0x10000 + (high - 0xD800) * 0x400 + (low - 0xDC00))

def simpleEscape? : Char → Option Char
  | '"' => some '"'
  | '\\' => some '\\'
  | '/' => some '/'
  | 'b' => some '\x08'
  | 'f' => some '\x0c'
  | 'n' => some '\n'
  | 'r' => some '\r'
  | 't' => some '\t'
  | _ => none

/-- The escape after a backslash: its character and the rest. `s` begins at the letter. -/
def readEscape (s : List Char) : Option (Char × List Char) ⊕ Cause :=
  match s with
  | [] => .inr .unterminatedString
  | 'u' :: r =>
    match unit? r with
    | none => .inr .unicodeEscape
    | some (high, r') =>
      if isHighUnit high then
        match r' with
        | '\\' :: 'u' :: r'' =>
          if r''.length ≤ 4 then .inl (some (Text.charOf high, r'))
          else match unit? r'' with
            | none => .inl none
            | some (low, r₃) =>
              if isLowUnit low then .inl (some (pairChar high low, r₃))
              else .inl (some (Text.charOf high, r'))
        | _ => .inl (some (Text.charOf high, r'))
      else .inl (some (Text.charOf high, r'))
  | c :: r =>
    match simpleEscape? c with
    | some d => .inl (some (d, r))
    | none => .inr .escape

/-- The rest of a string, up to its closing quote; `opening` is the text from the opening quote,
and `acc` holds what was read, in reverse. -/
def readString (opening : List Char) :
    Nat → List Char → List Char → Except Failure (String × List Char)
  | 0, _, _ => fail .unterminatedString opening
  | fuel + 1, acc, s =>
    match s with
    | [] => fail .unterminatedString opening
    | '"' :: r => .ok (String.ofList acc.reverse, r)
    | '\\' :: r =>
      match readEscape r with
      | .inl (some (c, r')) => readString opening fuel (c :: acc) r'
      | .inl none => fail .unicodeEscape (r.drop 6)
      | .inr .escape => fail .escape s
      | .inr .unicodeEscape => fail .unicodeEscape r
      | .inr _ => fail .unterminatedString opening
    | c :: r =>
      if c.toNat < 0x20 then fail .controlCharacter s else readString opening fuel (c :: acc) r

def fraction (s : List Char) : List Char × List Char :=
  match s with
  | '.' :: r =>
    let ds := r.takeWhile Char.isDigit
    if ds.isEmpty then ([], s) else (ds, r.drop ds.length)
  | _ => ([], s)

/-- The exponent of a number: a letter, an optional sign and digits, or nothing. -/
def exponent (s : List Char) : Option Int × List Char :=
  match s with
  | e :: r =>
    if e == 'e' || e == 'E' then
      let (negative, r') := match r with
        | '-' :: r' => (true, r')
        | '+' :: r' => (false, r')
        | _ => (false, r)
      let ds := r'.takeWhile Char.isDigit
      if ds.isEmpty then (none, s)
      else
        let n : Int := Number.digitsValue ds
        (some (if negative then -n else n), r'.drop ds.length)
    else (none, s)
  | [] => (none, s)

/-- A number without its sign, which begins at `s`; `start` is where it began with it. -/
def readMagnitude (start : List Char) (negative : Bool) (s : List Char) :
    Except Failure (Value × List Char) :=
  let whole := match s with
    | '0' :: _ => ['0']
    | _ => s.takeWhile Char.isDigit
  if whole.isEmpty then fail .value start
  else
    let (frac, r) := fraction (s.drop whole.length)
    let (power, r') := exponent r
    if frac.isEmpty && power.isNone then
      if Number.longestInteger < whole.length then
        fail (.longInteger whole.length) start
      else
        let n : Int := Number.digitsValue whole
        .ok (.int (if negative then -n else n), r')
    else
      let x := Number.nearestFloat (whole ++ frac) (power.getD 0 - frac.length)
      .ok (.float (if negative then -x else x), r')

def word? : List Char → List Char → Option (List Char)
  | [], s => some s
  | c :: w, d :: s => if c == d then word? w s else none
  | _ :: _, [] => none

def readWord (s : List Char) : Except Failure (Value × List Char) :=
  match word? "null".toList s with
  | some r => .ok (.null, r)
  | none => match word? "true".toList s with
    | some r => .ok (.bool true, r)
    | none => match word? "false".toList s with
      | some r => .ok (.bool false, r)
      | none => match word? "NaN".toList s with
        | some r => .ok (.float (0.0 / 0.0), r)
        | none => match word? "Infinity".toList s with
          | some r => .ok (.float (1.0 / 0.0), r)
          | none => fail .value s

def readNumber (s : List Char) : Except Failure (Value × List Char) :=
  match s with
  | '-' :: r =>
    match word? "Infinity".toList r with
    | some r' => .ok (.float (-1.0 / 0.0), r')
    | none => readMagnitude s true r
  | _ => readMagnitude s false s

mutual

/-- One value. `room` counts the brackets that may still be opened inside one another, and
`fuel` bounds the recursion; a fuel above twice the length of the text is enough. -/
def readValue (fuel room : Nat) (s : List Char) : Except Failure (Value × List Char) :=
  match fuel with
  | 0 => fail .value s
  | fuel + 1 =>
    match s with
    | '"' :: r => do
      let (t, r') ← readString s r.length.succ [] r
      return (.str t, r')
    | '\x7b' :: r =>
      match room with
      | 0 => fail .tooDeep s
      | room + 1 =>
        match skipSpace r with
        | '\x7d' :: r' => .ok (.ofEntries [], r')
        | r' => do
          let (es, r'') ← readEntries fuel room [] r'
          return (.ofEntries (Entries.ofList es), r'')
    | '[' :: r =>
      match room with
      | 0 => fail .tooDeep s
      | room + 1 =>
        match skipSpace r with
        | ']' :: r' => .ok (.ofList [], r')
        | r' => do
          let (vs, r'') ← readItems fuel room [] r'
          return (.ofList vs, r'')
    | c :: _ => if c == '-' || c.isDigit then readNumber s else readWord s
    | [] => fail .value s
termination_by structural fuel

/-- The items of a list from the first one on; `acc` holds those read, in reverse. -/
def readItems (fuel room : Nat) (acc : List Value) (s : List Char) :
    Except Failure (List Value × List Char) :=
  match fuel with
  | 0 => fail .value s
  | fuel + 1 => do
    let (v, r) ← readValue fuel room s
    match skipSpace r with
    | ']' :: r' => return ((v :: acc).reverse, r')
    | ',' :: r' => readItems fuel room (v :: acc) (skipSpace r')
    | r' => fail .comma r'
termination_by structural fuel

def readEntries (fuel room : Nat) (acc : List (Key × Value)) (s : List Char) :
    Except Failure (List (Key × Value) × List Char) :=
  match fuel with
  | 0 => fail .value s
  | fuel + 1 =>
    match s with
    | '"' :: r => do
      let (name, r₁) ← readString s r.length.succ [] r
      match skipSpace r₁ with
      | ':' :: r₂ => do
        let (v, r₃) ← readValue fuel room (skipSpace r₂)
        let acc := (Key.str name, v) :: acc
        match skipSpace r₃ with
        | '\x7d' :: r₄ => return (acc.reverse, r₄)
        | ',' :: r₄ => readEntries fuel room acc (skipSpace r₄)
        | r₄ => fail .comma r₄
      | r₂ => fail .colon r₂
    | _ => fail .propertyName s
termination_by structural fuel

end

structure Place where
  line : Nat
  column : Nat
  offset : Nat

def Place.ofOffset (text : List Char) (offset : Nat) : Place :=
  let before := text.take offset
  ⟨before.count '\n' + 1, (before.reverse.takeWhile (· != '\n')).length + 1, offset⟩

structure ReadError where
  cause : Cause
  place : Place

def standardRoom : Nat := 900

/-- Reads a whole text as one value, brackets inside one another up to `room` deep. -/
def read (room : Nat) (text : List Char) : Except ReadError Value :=
  let locate (e : Failure) : ReadError := ⟨e.cause, .ofOffset text (text.length - e.left)⟩
  match text with
  | '\uFEFF' :: _ => .error ⟨.byteOrderMark, .ofOffset text 0⟩
  | _ =>
    match readValue (2 * text.length + 2) room (skipSpace text) with
    | .error e => .error (locate e)
    | .ok (v, r) =>
      match skipSpace r with
      | [] => .ok v
      | r' => .error (locate ⟨.extraData, r'.length⟩)

def Cause.message : Cause → String
  | byteOrderMark => "Unexpected UTF-8 BOM (decode using utf-8-sig)"
  | value => "Expecting value"
  | propertyName => "Expecting property name enclosed in double quotes"
  | colon => "Expecting ':' delimiter"
  | comma => "Expecting ',' delimiter"
  | extraData => "Extra data"
  | unterminatedString => "Unterminated string starting at"
  | controlCharacter => "Invalid control character at"
  | escape => "Invalid \\escape"
  | unicodeEscape => "Invalid \\uXXXX escape"
  | longInteger digits => Number.longNumeralText digits
  | tooDeep => "maximum recursion depth exceeded"

def Cause.isForm : Cause → Bool
  | longInteger _ | tooDeep => false
  | _ => true

def ReadError.message (e : ReadError) : String :=
  if e.cause.isForm then
    e.cause.message ++ ": line " ++ toString e.place.line ++ " column " ++
      toString e.place.column ++ " (char " ++ toString e.place.offset ++ ")"
  else e.cause.message

end Flowgraph.Json
