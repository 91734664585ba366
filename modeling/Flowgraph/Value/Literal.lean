import Flowgraph.Number.Decimal
import Flowgraph.Text.Printable
import Flowgraph.Value.Basic

namespace Flowgraph

namespace Text

def hexDigits (width n : Nat) : List Char :=
  let ds := Nat.toDigits 16 n
  List.replicate (width - ds.length) '0' ++ ds

def quotedChar (quote c : Char) : List Char :=
  if c == quote || c == '\\' then ['\\', c]
  else if c == '\n' then ['\\', 'n']
  else if c == '\r' then ['\\', 'r']
  else if c == '\t' then ['\\', 't']
  else if isPrintable c then [c]
  else if c.toNat < 0x100 then '\\' :: 'x' :: hexDigits 2 c.toNat
  else if c.toNat < 0x10000 then '\\' :: 'u' :: hexDigits 4 c.toNat
  else '\\' :: 'U' :: hexDigits 8 c.toNat

def quoted (s : String) : String :=
  let cs := s.toList
  let quote := if cs.contains '\'' && !cs.contains '"' then '"' else '\''
  String.ofList (quote :: cs.flatMap (quotedChar quote) ++ [quote])

def quotedOctet (quote : Char) (o : UInt8) : List Char :=
  let c := Char.ofNat o.toNat
  if c == quote || c == '\\' then ['\\', c]
  else if c == '\n' then ['\\', 'n']
  else if c == '\r' then ['\\', 'r']
  else if c == '\t' then ['\\', 't']
  else if 0x20 ≤ o.toNat && o.toNat < 0x7F then [c]
  else '\\' :: 'x' :: hexDigits 2 o.toNat

def quotedOctets (os : List UInt8) : String :=
  let quote := if os.contains 39 && !os.contains 34 then '"' else '\''
  String.ofList ('b' :: quote :: os.flatMap (quotedOctet quote) ++ [quote])

def commaSeparated (parts : List String) : String := String.intercalate ", " parts

def inParentheses : List String → String
  | [s] => "(" ++ s ++ ",)"
  | ss => "(" ++ commaSeparated ss ++ ")"

end Text

def Stamp.literal (d : Stamp) : String :=
  let numbers := (d.text.toList.splitBy fun a b ↦ a.isDigit == b.isDigit).filterMap fun cs ↦
    if cs.head?.any Char.isDigit then some (toString (Number.digitsValue cs)) else none
  (if d.timed then "datetime.datetime(" else "datetime.date(") ++ Text.commaSeparated numbers ++
    ")"

def boolLiteral (b : Bool) : String := if b then "True" else "False"

mutual

def Key.literal : Key → String
  | .undefined => "UNDEFINED"
  | .null => "None"
  | .bool b => boolLiteral b
  | .int i => toString i
  | .float x => Number.floatText x
  | .str s => Text.quoted s
  | .bytes o => Text.quotedOctets o
  | .stamp d => d.literal
  | .tuple ks => Text.inParentheses (Key.literals ks)

def Key.literals : List Key → List String
  | [] => []
  | k :: ks => k.literal :: Key.literals ks

end

mutual

def Value.literal : Value → String
  | .undefined => "UNDEFINED"
  | .null => "None"
  | .bool b => boolLiteral b
  | .int i => toString i
  | .float x => Number.floatText x
  | .str s => Text.quoted s
  | .bytes o => Text.quotedOctets o
  | .stamp d => d.literal
  | .set _ [] => "set()"
  | .set _ ks => "\x7b" ++ Text.commaSeparated (Key.literals ks) ++ "\x7d"
  | .tuple vs => Text.inParentheses (Value.literals vs)
  | .list _ vs => "[" ++ Text.commaSeparated (Value.literals vs) ++ "]"
  | .mapping _ es => "\x7b" ++ Text.commaSeparated (Value.entryLiterals es) ++ "\x7d"
  | .view .keys _ es =>
    "dict_keys([" ++ Text.commaSeparated (es.map fun e ↦ e.1.literal) ++ "])"
  | .view .values _ es => "dict_values([" ++ Text.commaSeparated (Value.valueLiterals es) ++ "])"
  | .view .items _ es => "dict_items([" ++ Text.commaSeparated (Value.pairLiterals es) ++ "])"
termination_by structural v => v

def Value.literals : List Value → List String
  | [] => []
  | v :: vs => v.literal :: Value.literals vs
termination_by structural vs => vs

def Value.entryLiterals : List (Key × Value) → List String
  | [] => []
  | (k, v) :: es => (k.literal ++ ": " ++ v.literal) :: Value.entryLiterals es
termination_by structural es => es

def Value.valueLiterals : List (Key × Value) → List String
  | [] => []
  | (_, v) :: es => v.literal :: Value.valueLiterals es
termination_by structural es => es

def Value.pairLiterals : List (Key × Value) → List String
  | [] => []
  | (k, v) :: es => ("(" ++ k.literal ++ ", " ++ v.literal ++ ")") :: Value.pairLiterals es
termination_by structural es => es

end

mutual

def Key.isSpellable : Key → Bool
  | .int i => (Number.integerText i).isOk
  | .tuple ks => Key.areSpellable ks
  | _ => true
termination_by structural k => k

def Key.areSpellable : List Key → Bool
  | [] => true
  | k :: ks => k.isSpellable && Key.areSpellable ks
termination_by structural ks => ks

end

mutual

def Value.isSpellable : Value → Bool
  | .int i => (Number.integerText i).isOk
  | .set _ ks => Key.areSpellable ks
  | .tuple vs | .list _ vs => Value.areSpellable vs
  | .mapping _ es | .view .items _ es =>
    es.all (fun e ↦ e.1.isSpellable) && Value.areMembersSpellable es
  | .view .keys _ es => es.all fun e ↦ e.1.isSpellable
  | .view .values _ es => Value.areMembersSpellable es
  | _ => true
termination_by structural v => v

def Value.areSpellable : List Value → Bool
  | [] => true
  | v :: vs => v.isSpellable && Value.areSpellable vs
termination_by structural vs => vs

def Value.areMembersSpellable : List (Key × Value) → Bool
  | [] => true
  | (_, v) :: es => v.isSpellable && Value.areMembersSpellable es
termination_by structural es => es

end

def Key.text : Key → String
  | .str s => s
  | .undefined => "Undefined.UNDEFINED"
  | .stamp d => d.text
  | k => k.literal

def Value.text : Value → String
  | .str s => s
  | .undefined => "Undefined.UNDEFINED"
  | .stamp d => d.text
  | v => v.literal

end Flowgraph
