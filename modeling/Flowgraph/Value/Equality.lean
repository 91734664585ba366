import Flowgraph.Value.Basic

namespace Flowgraph.Value

/-- The members that a set, or the view of a mapping's keys or items, is compared by. -/
def members? : Value → Option (List Value)
  | .set _ ks => some (Key.toValues ks)
  | .view .keys _ es => some (viewItems .keys es)
  | .view .items _ es => some (viewItems .items es)
  | _ => none

mutual

/-- Structural equality: numbers and truth values by numeric value, mappings in any order. -/
def equal : Value → Value → Bool
  | .undefined, .undefined => true
  | .null, .null => true
  | .str s, .str t => s == t
  | .bytes o, .bytes p => o == p
  | .stamp d, .stamp e => d == e
  | .set _ ks, .set _ ls => ks.length == ls.length && ks.all fun k ↦ ls.any k.same
  | .tuple vs, .tuple ws => equalItems vs ws
  | .list _ vs, .list _ ws => equalItems vs ws
  | .mapping _ es, .mapping _ fs => es.length == fs.length && equalEntries es fs
  | .view .values m _, .view .values n _ => m == n && m != 0
  | .view .keys _ es, .set _ ls => es.length == ls.length && es.all fun e ↦ ls.any e.1.same
  | .view .keys _ es, .view .keys _ fs =>
    es.length == fs.length && es.all fun e ↦ Entries.contains fs e.1
  | .view .items _ es, .view .items _ fs => es.length == fs.length && equalEntries es fs
  | v, w => match v.toNum?, w.toNum? with
    | some a, some b => a.equal b
    | _, _ => false
termination_by structural v => v

def equalItems : List Value → List Value → Bool
  | [], [] => true
  | v :: vs, w :: ws => equal v w && equalItems vs ws
  | _, _ => false
termination_by structural vs => vs

/-- Every entry of the first mapping has an equal one under the same key of the second. -/
def equalEntries : List (Key × Value) → Entries → Bool
  | [], _ => true
  | (k, v) :: es, fs =>
    (match Entries.get? fs k with
    | some w => equal v w
    | none => false) && equalEntries es fs
termination_by structural es => es

end

/-- Equality without conversion: numbers by value, but no number equals a truth value, and other
values only equal values of their own type. -/
def strictEqual (v w : Value) : Bool :=
  match v, w with
  | .undefined, .undefined => true
  | .undefined, _ | _, .undefined => false
  | .bool a, .bool b => a == b
  | .bool _, _ | _, .bool _ => false
  | v, w =>
    if v.isNumber && w.isNumber then equal v w
    else v.typeName == w.typeName && equal v w

end Flowgraph.Value
