import Flowgraph.Expr.Method.Arguments
import Flowgraph.Value.Equality

namespace Flowgraph.Expr.Method

namespace Container

def indexOf? (vs : List Value) (v : Value) (bounds : List Value) : Option Value := do
  let start ← match bounds[0]? with
    | none => some 0
    | some b => (asInt? b).map (clampIndex vs.length)
  let stop ← match bounds[1]? with
    | none => some vs.length
    | some b => (asInt? b).map (clampIndex vs.length)
  if 2 < bounds.length then none
  let i ← ((vs.take stop).drop start).findIdx? fun w ↦ Value.equal w v
  return .int (start + i)

def countOf (vs : List Value) (v : Value) : Value := .int (vs.countP fun w ↦ Value.equal w v)

def change (mark : Nat) (contents : Contents) (answer : Value) : Reply :=
  if mark == 0 then ⟨.ok answer, []⟩
  else if h : contents.holds mark = false then ⟨.ok answer, [⟨mark, contents, h⟩]⟩
  else .refuse

def setItems (mark : Nat) (vs : List Value) (answer : Value := .null) : Reply :=
  change mark (.items vs) answer

def setEntries (mark : Nat) (es : Entries) (answer : Value := .null) : Reply :=
  change mark (.entries es) answer

def callList (next mark : Nat) (vs : List Value) (method : String) (args : List Value) : Reply :=
  match method, args with
  | "append", [v] => setItems mark (vs ++ [(v.adopt next).1])
  | "extend", [w] =>
    match iterate? w with
    | some ws => setItems mark (vs ++ (Value.adoptItems next ws).1)
    | none => .refuse
  | "insert", [i, v] =>
    match asSize? i with
    | some i => setItems mark (vs.insertIdx (clampIndex vs.length i) (v.adopt next).1)
    | none => .refuse
  | "pop", [] =>
    match vs.getLast? with
    | some v => setItems mark vs.dropLast v
    | none => .refuse
  | "pop", [i] =>
    match asSize? i with
    | some i =>
      let j := if i < 0 then i + vs.length else i
      if j < 0 then .refuse
      else match vs[j.toNat]? with
        | some v => setItems mark (vs.eraseIdx j.toNat) v
        | none => .refuse
    | none => .refuse
  | "remove", [v] =>
    match vs.findIdx? fun w ↦ Value.equal w v with
    | some i => setItems mark (vs.eraseIdx i)
    | none => .refuse
  | "reverse", [] => setItems mark vs.reverse
  | "clear", [] => setItems mark []
  | "copy", [] => ⟨.ok (.ofList vs), []⟩
  | "count", [v] => ⟨.ok (countOf vs v), []⟩
  | "index", v :: bounds => .ofOption (indexOf? vs v bounds)
  | _, _ => .refuse

/-- Puts pairs into a mapping up to the first that is none; `false` if there is such a one. -/
def insertPairs (es : Entries) : List Value → Entries × Bool
  | [] => (es, true)
  | p :: ps =>
    match iterate? p with
    | some [k, v] =>
      match k.toKey? with
      | some k => insertPairs (Entries.insert es k v) ps
      | none => (es, false)
    | _ => (es, false)

def update (next mark : Nat) (es : Entries) (other : Value) : Reply :=
  match other with
  | .mapping _ fs =>
    let (fs, _) := Value.adoptEntries next fs
    setEntries mark (Entries.insertAll es fs)
  | _ =>
    match iterate? other with
    | none => .refuse
    | some ps =>
      let (ps, _) := Value.adoptItems next ps
      let (es, done) := insertPairs es ps
      let reply := setEntries mark es
      if done then reply else { reply with answer := Reply.refuse.answer }

def callMapping (next mark : Nat) (es : Entries) (method : String) (args : List Value) : Reply :=
  match method, args with
  | "get", [k] => .ofOption (k.toKey?.map fun k ↦ (Entries.get? es k).getD .null)
  | "get", [k, v] => .ofOption (k.toKey?.map fun k ↦ (Entries.get? es k).getD v)
  | "keys", [] => ⟨.ok (.view .keys mark es), []⟩
  | "values", [] => ⟨.ok (.view .values mark es), []⟩
  | "items", [] => ⟨.ok (.view .items mark es), []⟩
  | "pop", k :: rest =>
    match k.toKey?, rest with
    | some k, [] =>
      match Entries.get? es k with
      | some v => setEntries mark (Entries.erase es k) v
      | none => .refuse
    | some k, [d] =>
      match Entries.get? es k with
      | some v => setEntries mark (Entries.erase es k) v
      | none => ⟨.ok d, []⟩
    | none, [_] => if es.isEmpty then .ofOption rest.head? else .refuse
    | _, _ => .refuse
  | "popitem", [] =>
    match es.getLast? with
    | some (k, v) => setEntries mark es.dropLast (.tuple [k.toValue, v])
    | none => .refuse
  | "setdefault", k :: rest =>
    if 1 < rest.length then .refuse
    else match k.toKey? with
      | none => .refuse
      | some k =>
        match Entries.get? es k with
        | some v => ⟨.ok v, []⟩
        | none =>
          let v := ((rest.headD .null).adopt next).1
          setEntries mark (Entries.insert es k v) v
  | "update", [] => ⟨.ok .null, []⟩
  | "update", [other] => update next mark es other
  | "clear", [] => setEntries mark []
  | "copy", [] => ⟨.ok (.ofEntries es), []⟩
  | "fromkeys", w :: rest =>
    if 1 < rest.length then .refuse
    else .ofOption do
      let ks ← (← iterate? w).mapM Value.toKey?
      return .ofEntries (Entries.ofList (ks.map (·, rest.headD .null)))
  | _, _ => .refuse

def callTuple (vs : List Value) (method : String) (args : List Value) : Reply :=
  match method, args with
  | "count", [v] => ⟨.ok (countOf vs v), []⟩
  | "index", v :: bounds => .ofOption (indexOf? vs v bounds)
  | _, _ => .refuse

/-- Sets and views of keys or items tell whether they share a member with something. -/
def callMembers (members : List Value) (method : String) (args : List Value) : Reply :=
  match method, args with
  | "isdisjoint", [w] => .ofOption do
      let ws ← iterate? w
      return .bool (!members.any fun v ↦ ws.any (Value.equal v))
  | _, _ => .refuse

def listMethods : List String :=
  ["append", "clear", "copy", "count", "extend", "index", "insert", "pop", "remove", "reverse"]

def mappingMethods : List String :=
  ["clear", "copy", "fromkeys", "get", "items", "keys", "pop", "popitem", "setdefault", "update",
   "values"]

def tupleMethods : List String := ["count", "index"]

def setMethods : List String :=
  ["add", "clear", "copy", "difference", "difference_update", "discard", "intersection",
   "intersection_update", "isdisjoint", "issubset", "issuperset", "pop", "remove",
   "symmetric_difference", "symmetric_difference_update", "union", "update"]

end Container

end Flowgraph.Expr.Method
