import Flowgraph.Number.Binary

namespace Flowgraph

/-- A calendar date, with a time of day when `timed`, by its text. -/
structure Stamp where
  text : String
  timed : Bool
deriving DecidableEq

/-- What may stand as the key of a mapping or as a member of a set. -/
inductive Key where
  | undefined
  | null
  | bool (b : Bool)
  | int (i : Int)
  | float (x : Float)
  | str (s : String)
  | bytes (octets : List UInt8)
  | stamp (d : Stamp)
  | tuple (items : List Key)

inductive ViewKind where
  | keys
  | values
  | items
deriving DecidableEq

inductive Value where
  | undefined
  | null
  | bool (b : Bool)
  | int (i : Int)
  | float (x : Float)
  | str (s : String)
  | bytes (octets : List UInt8)
  | stamp (d : Stamp)
  | set (mark : Nat) (members : List Key)
  | tuple (items : List Value)
  | list (mark : Nat) (items : List Value)
  | mapping (mark : Nat) (entries : List (Key × Value))
  /-- The keys, values or items of the mapping that has the mark. -/
  | view (kind : ViewKind) (mark : Nat) (entries : List (Key × Value))

instance : Inhabited Value := ⟨.undefined⟩

abbrev Entries := List (Key × Value)

instance : Coe String Key := ⟨.str⟩

mutual

def Key.toValue : Key → Value
  | .undefined => .undefined
  | .null => .null
  | .bool b => .bool b
  | .int i => .int i
  | .float x => .float x
  | .str s => .str s
  | .bytes o => .bytes o
  | .stamp d => .stamp d
  | .tuple ks => .tuple (Key.toValues ks)

def Key.toValues : List Key → List Value
  | [] => []
  | k :: ks => k.toValue :: Key.toValues ks

end

mutual

def Value.toKey? : Value → Option Key
  | .undefined => some .undefined
  | .null => some .null
  | .bool b => some (.bool b)
  | .int i => some (.int i)
  | .float x => some (.float x)
  | .str s => some (.str s)
  | .bytes o => some (.bytes o)
  | .stamp d => some (.stamp d)
  | .tuple vs => (Value.toKeys? vs).map .tuple
  | _ => none

def Value.toKeys? : List Value → Option (List Key)
  | [] => some []
  | v :: vs => match v.toKey?, Value.toKeys? vs with
    | some k, some ks => some (k :: ks)
    | _, _ => none

end

/-- Numbers of the three kinds that compare with one another. -/
inductive Num where
  | int (i : Int)
  | float (x : Float)

def Num.compare? : Num → Num → Option Ordering
  | .int i, .int j => some (compare i j)
  | .float x, .int j => Number.compareFloatInt? x j
  | .int i, .float y => (Number.compareFloatInt? y i).map Ordering.swap
  | .float x, .float y => Number.compareFloat? x y

def Num.equal (a b : Num) : Bool := a.compare? b == some .eq

def Key.toNum? : Key → Option Num
  | .bool b => some (.int b.toNat)
  | .int i => some (.int i)
  | .float x => some (.float x)
  | _ => none

def Value.toNum? : Value → Option Num
  | .bool b => some (.int b.toNat)
  | .int i => some (.int i)
  | .float x => some (.float x)
  | _ => none

mutual

/-- Whether two keys are the same: numbers by value, so `1`, `1.0` and `true` are one key. -/
def Key.same : Key → Key → Bool
  | .undefined, .undefined => true
  | .null, .null => true
  | .str s, .str t => s == t
  | .bytes o, .bytes p => o == p
  | .stamp d, .stamp e => d == e
  | .tuple ks, .tuple ls => Key.sameList ks ls
  | k, l => match k.toNum?, l.toNum? with
    | some a, some b => a.equal b
    | _, _ => false
termination_by structural k => k

def Key.sameList : List Key → List Key → Bool
  | [], [] => true
  | k :: ks, l :: ls => k.same l && Key.sameList ks ls
  | _, _ => false
termination_by structural ks => ks

end

namespace Entries

def get? (es : Entries) (k : Key) : Option Value :=
  (es.find? fun e ↦ e.1.same k).map (·.2)

def get (es : Entries) (k : Key) : Value := (get? es k).getD .undefined

def contains (es : Entries) (k : Key) : Bool := es.any fun e ↦ e.1.same k

/-- Puts a value under a key: a key that is there keeps its place and its form. -/
def insert : Entries → Key → Value → Entries
  | [], k, v => [(k, v)]
  | e :: es, k, v => if e.1.same k then (e.1, v) :: es else e :: insert es k v

def erase (es : Entries) (k : Key) : Entries := es.filter fun e ↦ !e.1.same k

def ofList (es : Entries) : Entries := es.foldl (fun acc e ↦ insert acc e.1 e.2) []

def insertAll (es fs : Entries) : Entries := fs.foldl (fun acc e ↦ insert acc e.1 e.2) es

end Entries

namespace Value

def isNullish : Value → Bool
  | .undefined | .null => true
  | _ => false

def isNumber : Value → Bool
  | .int _ | .float _ => true
  | _ => false

def typeName : Value → String
  | .undefined => "Undefined"
  | .null => "NoneType"
  | .bool _ => "bool"
  | .int _ => "int"
  | .float _ => "float"
  | .str _ => "str"
  | .bytes _ => "bytes"
  | .stamp d => if d.timed then "datetime" else "date"
  | .set .. => "set"
  | .tuple _ => "tuple"
  | .list .. => "list"
  | .mapping .. => "dict"
  | .view .keys .. => "dict_keys"
  | .view .values .. => "dict_values"
  | .view .items .. => "dict_items"

def kindName : Value → String
  | .undefined => "undefined"
  | .null => "null"
  | v => v.typeName

def ofList (vs : List Value) : Value := .list 0 vs

def ofEntries (es : Entries) : Value := .mapping 0 es

def viewItems (kind : ViewKind) (es : Entries) : List Value :=
  match kind with
  | .keys => es.map (·.1.toValue)
  | .values => es.map (·.2)
  | .items => es.map fun e ↦ .tuple [e.1.toValue, e.2]

end Value

end Flowgraph
