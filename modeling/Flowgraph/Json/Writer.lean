import Flowgraph.Value.Literal

namespace Flowgraph.Json

structure Style where
  comma : List Char
  colon : List Char
  /-- The width of one level, if every item has a line of its own. -/
  indent : Option Nat
  /-- Whether a value that JSON lacks is written as a text. -/
  foreignAsText : Bool

def Style.compact : Style := ⟨[','], [':'], none, true⟩

def Style.request : Style := ⟨[',', ' '], [':', ' '], none, false⟩

def Style.indented : Style := ⟨[','], [':', ' '], some 2, true⟩

inductive WriteError where
  | foreign (typeName : String)
  | key (typeName : String)
  | integer
deriving DecidableEq

def WriteError.message : WriteError → String
  | foreign t => "Object of type " ++ t ++ " is not JSON serializable"
  | key t => "keys must be str, int, float, bool or None, not " ++ t
  | integer => "Exceeds the limit (4300 digits) for integer string conversion; " ++
      "use sys.set_int_max_str_digits() to increase the limit"

def escapedUnit (n : Nat) : List Char := '\\' :: 'u' :: Text.hexDigits 4 n

/-- A character inside a JSON string: all but printable ASCII is escaped, a character beyond the
first plane as two units. -/
def escapedChar (c : Char) : List Char :=
  if c == '"' || c == '\\' then ['\\', c]
  else if c == '\n' then ['\\', 'n']
  else if c == '\r' then ['\\', 'r']
  else if c == '\t' then ['\\', 't']
  else if c == '\x0c' then ['\\', 'f']
  else if c == '\x08' then ['\\', 'b']
  else if ' ' ≤ c && c ≤ '~' then [c]
  else if c.toNat < 0x10000 then escapedUnit c.toNat
  else
    let n := c.toNat - 0x10000
    escapedUnit (0xD800 + n / 0x400) ++ escapedUnit (0xDC00 + n % 0x400)

def writeString (s : String) : List Char := '"' :: s.toList.flatMap escapedChar ++ ['"']

def writeInt (i : Int) : Except WriteError (List Char) :=
  match Number.integerText i with
  | .ok s => .ok s.toList
  | .error _ => .error .integer

def floatText (x : Float) : List Char :=
  match Number.Binary.ofFloat x with
  | .nan => "NaN".toList
  | .infinite negative => (Number.signed negative "Infinity").toList
  | _ => (Number.floatText x).toList

def boolText (b : Bool) : List Char := if b then "true".toList else "false".toList

def keyText : Key → Except WriteError String
  | .str s => .ok s
  | .int i => String.ofList <$> writeInt i
  | .float x => .ok (String.ofList (floatText x))
  | .bool b => .ok (String.ofList (boolText b))
  | .null => .ok "null"
  | k => .error (.key k.toValue.typeName)

def Style.lineBreak (st : Style) (level : Nat) : List Char :=
  match st.indent with
  | none => []
  | some n => '\n' :: List.replicate (n * level) ' '

def Style.enclose (st : Style) (level : Nat) (opening closing : Char)
    (items : List (List Char)) : List Char :=
  if items.isEmpty then [opening, closing]
  else opening :: (st.lineBreak (level + 1) ++
    List.intercalate (st.comma ++ st.lineBreak (level + 1)) items ++
    st.lineBreak level ++ [closing])

mutual

def write (st : Style) (level : Nat) : Value → Except WriteError (List Char)
  | .null => .ok "null".toList
  | .bool b => .ok (boolText b)
  | .int i => writeInt i
  | .float x => .ok (floatText x)
  | .str s => .ok (writeString s)
  | .list _ vs => st.enclose level '[' ']' <$> writeItems st (level + 1) vs
  | .tuple vs => st.enclose level '[' ']' <$> writeItems st (level + 1) vs
  | .mapping _ es => st.enclose level '\x7b' '\x7d' <$> writeEntries st (level + 1) es
  | v =>
    if !st.foreignAsText then .error (.foreign v.typeName)
    else if v.isSpellable then .ok (writeString v.text)
    else .error .integer
termination_by structural v => v

def writeItems (st : Style) (level : Nat) : List Value → Except WriteError (List (List Char))
  | [] => .ok []
  | v :: vs => do return (← write st level v) :: (← writeItems st level vs)
termination_by structural vs => vs

def writeEntries (st : Style) (level : Nat) :
    List (Key × Value) → Except WriteError (List (List Char))
  | [] => .ok []
  | (k, v) :: es => do
    let name ← keyText k
    let text ← write st level v
    return (writeString name ++ st.colon ++ text) :: (← writeEntries st level es)
termination_by structural es => es

end

def writeText (st : Style) (v : Value) : Except WriteError String :=
  String.ofList <$> write st 0 v

end Flowgraph.Json
