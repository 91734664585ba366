import Flowgraph.Expr.Basic
import Flowgraph.Expr.Token
import Flowgraph.Number.Decimal

namespace Flowgraph.Expr

def escaped (c : Char) : List Char := if c == '"' || c == '\\' then ['\\', c] else [c]

def inQuotes (s : String) : List Char := '"' :: (s.toList.flatMap escaped ++ ['"'])

def Literal.written : Literal → List Char
  | null => Keyword.null.text.toList
  | bool true => Keyword.true.text.toList
  | bool false => Keyword.false.text.toList
  | int n => (if n < 0 then ['-'] else []) ++ Nat.toDigits 10 n.natAbs
  | float x => (Number.floatText x).toList
  | str s => inQuotes s

mutual

def written : Expr → List Char
  | literal l => l.written
  | name n => n.toList
  | object ps => '\x7b' :: (writtenProperties ps ++ ['\x7d'])
  | member e p => '(' :: (e.written ++ ')' :: '.' :: p.toList)
  | index e i => '(' :: (e.written ++ ')' :: '[' :: (i.written ++ [']']))
  | call f as => f.toList ++ '(' :: (writtenRow as ++ [')'])
  | method e m as =>
    '(' :: (e.written ++ ')' :: '.' :: (m.toList ++ '(' :: (writtenRow as ++ [')'])))
termination_by structural e => e

def writtenRow : List Expr → List Char
  | [] => []
  | e :: es => e.written ++ (if es.isEmpty then [] else ',' :: writtenRow es)
termination_by structural es => es

def writtenProperties : List (String × Expr) → List Char
  | [] => []
  | (k, e) :: ps =>
    inQuotes k ++ ':' :: (e.written ++ (if ps.isEmpty then [] else ',' :: writtenProperties ps))
termination_by structural ps => ps

end

def write (e : Expr) : String := String.ofList e.written

end Flowgraph.Expr
