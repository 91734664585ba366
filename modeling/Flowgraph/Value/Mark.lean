import Flowgraph.Value.Basic

namespace Flowgraph

namespace Value

mutual

def holds (mark : Nat) : Value → Bool
  | .tuple vs => anyHolds mark vs
  | .list m vs => m == mark || anyHolds mark vs
  | .mapping m es => m == mark || anyMemberHolds mark es
  | .view _ m es => m == mark || anyMemberHolds mark es
  | .set m _ => m == mark
  | _ => false
termination_by structural v => v

def anyHolds (mark : Nat) : List Value → Bool
  | [] => false
  | v :: vs => v.holds mark || anyHolds mark vs
termination_by structural vs => vs

def anyMemberHolds (mark : Nat) : List (Key × Value) → Bool
  | [] => false
  | (_, v) :: es => v.holds mark || anyMemberHolds mark es
termination_by structural es => es

end

end Value

inductive Contents where
  | items (vs : List Value)
  | entries (es : Entries)
  | members (ks : List Key)

def Contents.holds (mark : Nat) : Contents → Bool
  | items vs => Value.anyHolds mark vs
  | entries es => Value.anyMemberHolds mark es
  | members _ => false

/-- New contents for the containers with a mark. As values are finite, none of these is put into
itself. -/
structure Edit where
  mark : Nat
  contents : Contents
  finite : contents.holds mark = false

namespace Value

mutual

def markBound : Value → Nat
  | .tuple vs => markBoundItems vs
  | .list m vs => max (m + 1) (markBoundItems vs)
  | .mapping m es => max (m + 1) (markBoundEntries es)
  | .view _ m es => max (m + 1) (markBoundEntries es)
  | .set m _ => m + 1
  | _ => 1
termination_by structural v => v

def markBoundItems : List Value → Nat
  | [] => 1
  | v :: vs => max v.markBound (markBoundItems vs)
termination_by structural vs => vs

def markBoundEntries : List (Key × Value) → Nat
  | [] => 1
  | (_, v) :: es => max v.markBound (markBoundEntries es)
termination_by structural es => es

end

mutual

/-- Gives every unmarked container a mark of its own, from `next` on, and returns the first mark
left over. -/
def adopt (next : Nat) : Value → Value × Nat
  | .tuple vs => let (vs, n) := adoptItems next vs; (.tuple vs, n)
  | .list 0 vs => let (vs, n) := adoptItems (next + 1) vs; (.list next vs, n)
  | .list (m + 1) vs => let (vs, n) := adoptItems next vs; (.list (m + 1) vs, n)
  | .mapping 0 es => let (es, n) := adoptEntries (next + 1) es; (.mapping next es, n)
  | .mapping (m + 1) es => let (es, n) := adoptEntries next es; (.mapping (m + 1) es, n)
  | .view kind m es => let (es, n) := adoptEntries next es; (.view kind m es, n)
  | .set 0 ks => (.set next ks, next + 1)
  | v => (v, next)
termination_by structural v => v

def adoptItems (next : Nat) : List Value → List Value × Nat
  | [] => ([], next)
  | v :: vs =>
    let (v, n) := v.adopt next
    let (vs, n) := adoptItems n vs
    (v :: vs, n)
termination_by structural vs => vs

def adoptEntries (next : Nat) : List (Key × Value) → List (Key × Value) × Nat
  | [] => ([], next)
  | (k, v) :: es =>
    let (v, n) := v.adopt next
    let (es, n) := adoptEntries n es
    ((k, v) :: es, n)
termination_by structural es => es

end

mutual

def edit (e : Edit) : Value → Value
  | .tuple vs => .tuple (editItems e vs)
  | .list m vs =>
    match e.contents with
    | .items ws => if m == e.mark && m != 0 then .list m ws else .list m (editItems e vs)
    | _ => .list m (editItems e vs)
  | .mapping m es =>
    match e.contents with
    | .entries fs => if m == e.mark && m != 0 then .mapping m fs else .mapping m (editEntries e es)
    | _ => .mapping m (editEntries e es)
  | .view kind m es =>
    match e.contents with
    | .entries fs =>
      if m == e.mark && m != 0 then .view kind m fs else .view kind m (editEntries e es)
    | _ => .view kind m (editEntries e es)
  | .set m ks =>
    match e.contents with
    | .members ls => if m == e.mark && m != 0 then .set m ls else .set m ks
    | _ => .set m ks
  | v => v
termination_by structural v => v

def editItems (e : Edit) : List Value → List Value
  | [] => []
  | v :: vs => v.edit e :: editItems e vs
termination_by structural vs => vs

def editEntries (e : Edit) : List (Key × Value) → List (Key × Value)
  | [] => []
  | (k, v) :: es => (k, v.edit e) :: editEntries e es
termination_by structural es => es

end

def edits (v : Value) (es : List Edit) : Value := es.foldl (fun v e ↦ v.edit e) v

@[simp] theorem edits_nil (v : Value) : v.edits [] = v := rfl

end Value

def Contents.markBound : Contents → Nat
  | items vs => Value.markBoundItems vs
  | entries es => Value.markBoundEntries es
  | members _ => 1

/-- The named values of a run, and a mark above all those given out. -/
structure State where
  entries : Entries
  next : Nat

namespace State

def ofEntries (es : Entries) : State :=
  let (es, n) := Value.adoptEntries (Value.markBoundEntries es) es
  ⟨es, n⟩

def get (s : State) (name : String) : Value := Entries.get s.entries name

def toValue (s : State) : Value := .mapping 0 s.entries

def set (s : State) (name : String) (v : Value) : State :=
  let (v, n) := v.adopt (max s.next v.markBound)
  ⟨Entries.insert s.entries name v, n⟩

def edit (s : State) (e : Edit) : State :=
  ⟨Value.editEntries e s.entries, max s.next (max (e.mark + 1) e.contents.markBound)⟩

def edits (s : State) (es : List Edit) : State := es.foldl edit s

@[simp] theorem edits_nil (s : State) : s.edits [] = s := rfl

end State

end Flowgraph
