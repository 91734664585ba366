import Flowgraph.Value.Basic

namespace Flowgraph

namespace Expr

inductive Literal where
  | null
  | bool (b : Bool)
  | int (n : Int)
  | float (x : Float)
  | str (s : String)

def Literal.value : Literal → Value
  | null => .null
  | bool b => .bool b
  | int n => .int n
  | float x => .float x
  | str s => .str s

end Expr

inductive Expr where
  | literal (l : Expr.Literal)
  | name (n : String)
  | object (properties : List (String × Expr))
  | member (object : Expr) (property : String)
  | index (object : Expr) (index : Expr)
  | call (function : String) (arguments : List Expr)
  | method (object : Expr) (method : String) (arguments : List Expr)

namespace Expr

mutual

def height : Expr → Nat
  | literal _ | name _ => 1
  | object ps => heightProperties ps + 1
  | member e _ => e.height + 1
  | index e i => max e.height i.height + 1
  | call _ as => heightAll as + 1
  | method e _ as => max e.height (heightAll as) + 1
termination_by structural e => e

def heightAll : List Expr → Nat
  | [] => 0
  | e :: es => max e.height (heightAll es)
termination_by structural es => es

def heightProperties : List (String × Expr) → Nat
  | [] => 0
  | (_, e) :: ps => max e.height (heightProperties ps)
termination_by structural ps => ps

end

end Expr

end Flowgraph
