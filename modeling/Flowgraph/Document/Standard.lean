import Flowgraph.Document.Check
import Flowgraph.Number.Decimal
import Flowgraph.Number.Numeral
import Flowgraph.Text.Blank
import Flowgraph.Text.Utf8

namespace Flowgraph.Document

def notText : String := "Input should be a valid string"

def checkString : Check String
  | .str s => .fits s
  | .bytes os =>
    match Text.decodeUtf8 os with
    | .ok s => .fits s
    | .error _ => .fault (notText ++ ", unable to parse raw data as a unicode string")
  | _ => .fault notText

def checkMinLength (length : Nat) (v : Value) : Checked String :=
  (checkString v).andThen fun s ↦
    if length ≤ s.length then .fits s
    else .fault ("String should have at least " ++ toString length ++
      (if length = 1 then " character" else " characters"))

def wordsText : List String → String
  | [] => ""
  | [w] => "'" ++ w ++ "'"
  | [w, x] => "'" ++ w ++ "' or '" ++ x ++ "'"
  | w :: ws => "'" ++ w ++ "', " ++ wordsText ws

def checkLiteral (words : List String) (v : Value) : Checked String :=
  let wrong := Checked.fault ("Input should be " ++ wordsText words)
  match v with
  | .str s => if s ∈ words then .fits s else wrong
  | _ => wrong

/-- What a check of other values makes of a text: octets that are no text cannot be read. -/
def checkWritten (wrong unreadable : String) (read? : String → Checked α) : Check α
  | .str s => read? s
  | .bytes os =>
    match Text.decodeUtf8 os with
    | .ok s => read? s
    | .error _ => .fault unreadable
  | _ => .fault wrong

inductive IntegerText where
  | value (i : Int)
  | tooLong
  | malformed

/-- The integer that a text writes: a sign, digits, and perhaps a point with zeros behind it. -/
def readInteger (s : String) : IntegerText :=
  let (negative, r) := Number.takeSign (Text.trim s.toList)
  let whole := r.takeWhile (· != '.')
  let fraction := r.drop whole.length
  if fraction.length == 1 || !fraction.tail.all (· == '0') then .malformed
  else match Number.joinDigits? whole with
    | none => .malformed
    | some ds =>
      if ds.isEmpty || !ds.all Char.isDigit then .malformed
      else if Number.longestInteger < ds.length then .tooLong
      else
        let n : Int := Number.digitsValue ds
        .value (if negative then -n else n)

def notInteger : String := "Input should be a valid integer"

def unreadableInteger : String := notInteger ++ ", unable to parse string as an integer"

def integerTooLong : String := "Unable to parse input string as an integer, exceeded maximum size"

def wordBound : Nat := 0x8000000000000000

def isWord (i : Int) : Bool := -wordBound ≤ i && i < wordBound

def checkInteger : Check Int
  | .int i => .fits i
  | .bool b => .fits b.toNat
  | .float x =>
    if !Number.isFinite x then .fault "Input should be a finite number"
    else match Number.integral? x with
      | none => .fault (notInteger ++ ", got a number with a fractional part")
      | some i => if i.natAbs < wordBound then .fits i else .fault integerTooLong
  | v => checkWritten notInteger unreadableInteger (fun s ↦
      match readInteger s with
      | .value i => .fits i
      | .tooLong => .fault integerTooLong
      | .malformed => .fault unreadableInteger) v

def readFloat? (s : String) : Option Float := do
  let t := Text.trim s.toList
  let t ← if t.contains '_' then Number.joinDigits? t else some t
  let (negative, r) := Number.takeSign t
  let x ← Number.readUnsignedFloat? r
  return if negative then -x else x

def notFloat : String := "Input should be a valid number"

def unreadableFloat : String := notFloat ++ ", unable to parse string as a number"

def checkFloat : Check Float
  | .float x => .fits x
  | .bool b => .fits (if b then 1.0 else 0.0)
  | .int i =>
    match Number.ofInt? i with
    | some x => .fits x
    | none => .fault notFloat
  | v => checkWritten notFloat unreadableFloat (fun s ↦
      match readFloat? s with
      | some x => .fits x
      | none => .fault unreadableFloat) v

def checkAtLeast (low : Float) (v : Value) : Checked Float :=
  (checkFloat v).andThen fun x ↦
    if low ≤ x then .fits x
    else .fault ("Input should be greater than or equal to " ++ Number.generalText low)

def notTruth : String := "Input should be a valid boolean"

def unclearTruth : String := notTruth ++ ", unable to interpret input"

/-- The truth value that an integer stands for; one beyond a machine word stands for none. -/
def truthOfInt (i : Int) : Checked Bool :=
  if i == 0 then .fits false
  else if i == 1 then .fits true
  else if isWord i then .fault unclearTruth
  else .fault notTruth

def trueWords : List String := ["1", "on", "t", "true", "y", "yes"]

def falseWords : List String := ["0", "off", "f", "false", "n", "no"]

def checkBool : Check Bool
  | .bool b => .fits b
  | .int i => truthOfInt i
  | .float x =>
    match Number.integral? x with
    | some i => truthOfInt i
    | none => .fault notTruth
  | v => checkWritten notTruth unclearTruth (fun s ↦
      let w := String.ofList (s.toList.map Char.toLower)
      if trueWords.contains w then .fits true
      else if falseWords.contains w then .fits false
      else .fault unclearTruth) v

def checkNullable (check : Check α) : Check (Option α)
  | .null => .fits none
  | v => some <$> check v

def Key.step : Key → String
  | .str s => s
  | .bool b => toString b.toNat
  | k => k.literal

def checkMapping : Check Entries
  | .mapping _ es => .fits es
  | _ => .fault "Input should be a valid dictionary"

def checkKey (k : Key) : Checked String :=
  ((checkString k.toValue).at "[key]").at (Key.step k)

def putNamed (name : String) (a : α) : List (String × α) → List (String × α)
  | [] => [(name, a)]
  | e :: es => if e.1 == name then (name, a) :: es else e :: putNamed name a es

def checkEntries (check : Check α) : Entries → Checked (List (String × α))
  | [] => .fits []
  | (k, v) :: es =>
    (fun k a rest ↦ (k, a) :: rest) <$> checkKey k <*> (check v).at (Key.step k) <*>
      checkEntries check es

/-- Entries with texts as keys; of entries under one text the last stays, where the first was. -/
def checkTable (check : Check α) : Check (List (String × α)) := fun v ↦
  (fun es ↦ es.foldl (fun table e ↦ putNamed e.1 e.2 table) []) <$>
    (checkMapping v).andThen (checkEntries check)

def checkList : Check (List Value)
  | .list _ vs | .tuple vs => .fits vs
  | .set _ ks => .fits (Key.toValues ks)
  | .view kind _ es => .fits (Value.viewItems kind es)
  | _ => .fault "Input should be a valid list"

def checkItemsFrom (check : Check α) (index : Nat) : List Value → Checked (List α)
  | [] => .fits []
  | v :: vs =>
    List.cons <$> (check v).at (toString index) <*> checkItemsFrom check (index + 1) vs

def checkItems (check : Check α) : Check (List α) := fun v ↦
  (checkList v).andThen (checkItemsFrom check 0)

def checkField (names : List String) (default : Option α) (check : Check α) (es : Entries) :
    Checked α :=
  match findField names es, default with
  | some (n, v), _ => (check v).at n
  | none, some a => .fits a
  | none, none => (Checked.fault "Field required").at (names.headD "")

def Fields.check {α : Type} : Fields α → Entries → Checked α
  | .made a => fun _ ↦ .fits a
  | .field front names default check =>
    fun es ↦ front.check es <*> checkField names default check es

def checkRecord (name : String) (fields : Fields α) : Check α
  | .mapping _ es => fields.check es
  | _ => .fault ("Input should be a valid dictionary or instance of " ++ name)

def tagged (variants : List (String × Check α)) (shown tag : String) (found : Option (Check α)) :
    Except String (String × Check α) :=
  match found with
  | some check => .ok (tag, check)
  | none => .error ("Input tag '" ++ tag ++ "' found using " ++ shown ++
      " does not match any of the expected tags: " ++
      String.intercalate ", " (variants.map fun e ↦ "'" ++ e.1 ++ "'"))

def variantOf (d : Discriminator) (variants : List (String × Check α)) (v : Value) :
    Except String (String × Check α) :=
  match d, v with
  | .key name, .mapping _ es =>
    match Entries.get? es (.str name) with
    | some (.str tag) => tagged variants ("'" ++ name ++ "'") tag (variants.lookup tag)
    | some v => tagged variants ("'" ++ name ++ "'") v.text none
    | none => .error ("Unable to extract tag using discriminator '" ++ name ++ "'")
  | .key _, _ => .error "Input should be a valid dictionary or object to extract fields from"
  | .function name tag?, v =>
    match tag? v with
    | some tag => tagged variants name tag (variants.lookup tag)
    | none => .error ("Unable to extract tag using discriminator " ++ name)

def checkUnion (d : Discriminator) (variants : List (String × Check α)) (v : Value) : Checked α :=
  match variantOf d variants v with
  | .ok (tag, check) => (check v).at tag
  | .error message => .fault message

def checkBefore (f : Value → Except String Value) (check : Check α) (v : Value) : Checked α :=
  match f v with
  | .ok w => check w
  | .error message => .fault ("Value error, " ++ message)

def Library.standard : Library where
  anything := .fits
  string := checkString
  minLength := checkMinLength
  literal := checkLiteral
  integer := checkInteger
  float := checkFloat
  atLeast := checkAtLeast
  truth := checkBool
  nullable := checkNullable
  list := checkItems
  table := checkTable
  record := checkRecord
  union := checkUnion
  before := checkBefore
  after f check v := f <$> check v
  depth := 254
  tooDeep := "Recursion error - cyclic reference detected"

end Flowgraph.Document
