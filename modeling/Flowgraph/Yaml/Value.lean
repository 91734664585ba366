import Flowgraph.Number.Numeral
import Flowgraph.Text.Base64
import Flowgraph.Text.Case
import Flowgraph.Yaml.Plain

namespace Flowgraph.Yaml

def valueFault (message : String) : Fault := .scalar "ValueError" message

def emptyNumeral : Fault := .scalar "IndexError" "string index out of range"

def integerIn (base : Nat) (s : List Char) : Except Fault Int :=
  (Number.readInteger base s).mapError fun e ↦ valueFault e.message

def unsigned (text : String) : Except Fault (Bool × List Char) :=
  match text.toList.filter (· != '_') with
  | [] => .error emptyNumeral
  | s => .ok (Number.takeSign s)

def readInt (text : String) : Except Fault Int := do
  let (negative, s) ← unsigned text
  let n ← match s with
    | [] => .error emptyNumeral
    | ['0'] => .ok 0
    | '0' :: 'b' :: r => integerIn 2 r
    | '0' :: 'x' :: r => integerIn 16 r
    | '0' :: _ => integerIn 8 s
    | _ =>
      (fun parts ↦ parts.foldl (fun (n d : Int) ↦ 60 * n + d) 0) <$>
        (Text.splitAt ':' s).mapM (integerIn 10)
  return if negative then -n else n

def floatIn (s : List Char) : Except Fault Float :=
  match Number.readFloat? s with
  | some x => .ok x
  | none => .error (valueFault
      ("could not convert string to float: " ++ Text.quoted (String.ofList s)))

def infinity : Float := 1.0 / 0.0

/-- The sum of the parts, the last first, each worth sixty times the one behind it; there may be so
many that their worth is beyond the largest float. -/
def sumSixties (parts : List Float) : Except Fault Float :=
  (·.1) <$> parts.reverse.foldlM (fun (sum, base) x ↦
    match Number.ofInt? base with
    | some b => .ok (sum + x * b, base * 60)
    | none => .error (.scalar "OverflowError" "int too large to convert to float"))
    (0.0, (1 : Int))

def readFloat (text : String) : Except Fault Float := do
  let (negative, s) ← unsigned (String.ofList (Text.toLower text.toList))
  let x ← match String.ofList s with
    | ".inf" => .ok infinity
    | ".nan" => .ok (0.0 / 0.0)
    | _ =>
      if s.contains ':' then (Text.splitAt ':' s).mapM floatIn >>= sumSixties else floatIn s
  return if negative then -x else x

def readTruth (text : String) : Except Fault Bool :=
  let w := String.ofList (Text.toLower text.toList)
  match truth? w with
  | some b => .ok b
  | none => .error (.scalar "KeyError" (Text.quoted w))

def dropLastBreak (s : List Char) : List Char := if s.getLast? == some '\n' then s.dropLast else s

def readStamp (text : String) : Except Fault Stamp :=
  match moment? (dropLastBreak text.toList) with
  | none => .error (.scalar "AttributeError" "'NoneType' object has no attribute 'groupdict'")
  | some m =>
    match m.misfit? with
    | some message => .error (valueFault message)
    | none => .ok m.toStamp

def scalarValue (kind : Kind) (text : String) (line : Nat) : Except Fault Value :=
  match kind with
  | .null => .ok .null
  | .bool => .bool <$> readTruth text
  | .int => .int <$> readInt text
  | .float => .float <$> readFloat text
  | .text => .ok (.str text)
  | .octets =>
    match Text.decodeBase64? text.toList with
    | some os => if text.toList.all (·.toNat < 128) then .ok (.bytes os)
        else .error (.malformed (some (line + 1)))
    | none => .error (.malformed (some (line + 1)))
  | .stamp => .stamp <$> readStamp text
  | _ => .error (.malformed (some (line + 1)))

/-- A value, or a fault with the rank that its place gives it. -/
inductive Attempt (α : Type) where
  | done (a : α)
  | failed (rank : Nat) (fault : Fault)

namespace Attempt

variable {α β : Type}

def apply (f : Attempt (α → β)) (a : Attempt α) : Attempt β :=
  match f, a with
  | .done f, .done a => .done (f a)
  | .done _, .failed n e => .failed n e
  | .failed n e, .done _ => .failed n e
  | .failed n e, .failed m e' => if m < n then .failed m e' else .failed n e

instance : Applicative Attempt where
  pure := .done
  seq f a := apply f (a ())

def ofExcept (rank : Nat) : Except Fault α → Attempt α
  | .ok a => .done a
  | .error e => .failed rank e

def toExcept : Attempt α → Except Fault α
  | .done a => .ok a
  | .failed _ e => .error e

end Attempt

def entryRank (depth : Nat) : Nat := 2 * depth + 1

def mergeRank (depth : Nat) : Nat := 2 * depth

def malformedAt {α : Type} (rank : Nat) (n : Node) : Attempt α :=
  .failed rank (.malformed (some (n.line + 1)))

/-- The text of a node that stands for a scalar: a mapping has the one of its default value. -/
def nodeText (stamps : Bool) : Node → Except Fault String
  | .scalar _ text _ => .ok text
  | .mapping _ _ entries line => defaultText entries line
  | n => .error (.malformed (some (n.line + 1)))
where
  defaultText : List (Node × Node) → Nat → Except Fault String
  | [], line => .error (.malformed (some (line + 1)))
  | (k, v) :: es, line =>
    if k.kind stamps == .default then nodeText stamps v else defaultText es line

def leafValue (stamps : Bool) (n : Node) : Except Fault Value := do
  match n.kind stamps with
  | .merge | .default | .unknown => throw (.malformed (some (n.line + 1)))
  | kind => scalarValue kind (← nodeText stamps n) n.line

def nodeKey (stamps : Bool) (n : Node) : Except Fault Key := do
  match n.kind stamps with
  | .default => return .str (← nodeText stamps n)
  | .sequence | .mapping | .set | .pairs => throw (.malformed (some (n.line + 1)))
  | _ =>
    match (← leafValue stamps n).toKey? with
    | some k => return k
    | none => throw (.malformed (some (n.line + 1)))

mutual

def value (stamps : Bool) (depth : Nat) (n : Node) : Attempt Value :=
  let misfit : Attempt Value := malformedAt (entryRank (depth + 1)) n
  match n with
  | .loop _ => .failed (entryRank depth) .tooDeep
  | .scalar .. =>
    match n.kind stamps with
    | .sequence | .mapping | .set | .pairs => misfit
    | _ => .ofExcept (entryRank depth) (leafValue stamps n)
  | .sequence number _ ns _ =>
    match n.kind stamps with
    | .sequence => .list number <$> values stamps (depth + 1) ns
    | .pairs => .list number <$> pairs stamps (depth + 1) ns
    | .mapping | .set => misfit
    | _ => .ofExcept (entryRank depth) (leafValue stamps n)
  | .mapping number _ es _ =>
    let (merged, own) := entries stamps (depth + 1) es
    let all := (fun ms os ↦ Entries.ofList (ms ++ os)) <$> merged <*> own
    match n.kind stamps with
    | .mapping => .mapping number <$> all
    | .set => (fun es ↦ .set number (es.map (·.1))) <$> all
    | .sequence | .pairs => misfit
    | _ => .ofExcept (entryRank depth) (leafValue stamps n)
termination_by structural n

def values (stamps : Bool) (depth : Nat) (ns : List Node) : Attempt (List Value) :=
  match ns with
  | [] => .done []
  | n :: ns => List.cons <$> value stamps depth n <*> values stamps depth ns
termination_by structural ns

def pairs (stamps : Bool) (depth : Nat) (ns : List Node) : Attempt (List Value) :=
  match ns with
  | [] => .done []
  | .mapping _ _ [(k, v)] _ :: ns =>
    (fun k v vs ↦ .tuple [k, v] :: vs) <$> value stamps depth k <*> value stamps depth v <*>
      pairs stamps depth ns
  | n :: _ => malformedAt (entryRank depth) n
termination_by structural ns

def entries (stamps : Bool) (depth : Nat) (es : List (Node × Node)) :
    Attempt Entries × Attempt Entries :=
  match es with
  | [] => (.done [], .done [])
  | (k, v) :: es =>
    let (merged, own) := entries stamps depth es
    if k.kind stamps == .merge then
      ((· ++ ·) <$> source stamps depth v <*> merged, own)
    else
      (merged, (fun k v es ↦ (k, v) :: es) <$> .ofExcept (entryRank depth) (nodeKey stamps k) <*>
        value stamps depth v <*> own)
termination_by structural es

def source (stamps : Bool) (depth : Nat) (n : Node) : Attempt Entries :=
  match n with
  | .mapping _ _ es _ =>
    let (merged, own) := entries stamps depth es
    (· ++ ·) <$> merged <*> own
  | .sequence _ _ ns _ => sources stamps depth ns
  | .loop _ => .done []
  | n => malformedAt (mergeRank depth) n
termination_by structural n

def sources (stamps : Bool) (depth : Nat) (ns : List Node) : Attempt Entries :=
  match ns with
  | [] => .done []
  | .mapping _ _ es _ :: ns =>
    let (merged, own) := entries stamps depth es
    (fun ms os rest ↦ rest ++ (ms ++ os)) <$> merged <*> own <*> sources stamps depth ns
  | .loop _ :: ns => sources stamps depth ns
  | n :: _ => malformedAt (mergeRank depth) n
termination_by structural ns

end

/-- The value of the document in a text; a text without a document has the value `null`. Dates and
times without a tag are texts unless `stamps`. -/
def read (room : Nat) (stamps : Bool) (text : List Char) : Except Fault Value := do
  match ← compose room text with
  | some n => (value stamps 0 n).toExcept
  | none => return .null

end Flowgraph.Yaml
