import Flowgraph.Condition.Basic
import Flowgraph.Journal

namespace Flowgraph

/-- The value at a path. A path with a call or an index is evaluated as an expression, and has no
value where that fails, with a warning. The edits are those that the evaluation made. -/
def resolvePath (runtime : Expr.Runtime) (path : String) : Act Journal (Value × List Edit) := do
  if !path.toList.contains '(' && !path.toList.contains '[' then
    let j ← Act.get
    let v ← Act.ofExcept ((j.state.toValue.getPath path).mapError .path)
    return (v, [])
  else
    match ← evaluate runtime path with
    | .ok r => return r
    | .error e => do
      note .warning ("Error evaluating path '" ++ path ++ "': " ++ e.message)
        [("path", .str path)]
      return (.undefined, [])

namespace Condition

structure Setting where
  table : ConditionTable
  traceLevel : Log.Level := .debug
  runtime : Expr.Runtime := .standard

def standardDepth : Nat := 450

def isPathLike (s : String) : Bool := s.toList.head?.any Expr.isNameStart

def yesNo (b : Bool) : String := if b then "True" else "False"

/-- The operand of a comparison: the value at the path that it names, else the operand itself. The
left value is brought up to date on the way. -/
def resolveOperand (runtime : Expr.Runtime) (left operand : Value) :
    Act Journal (Value × Value) := do
  match operand with
  | .str s =>
    if isPathLike s then
      let (v, edits) ← resolvePath runtime s
      let left := left.edits edits
      match v with
      | .undefined => return (left, operand)
      | v => return (left, v)
    else return (left, operand)
  | _ => return (left, operand)

def evalSimple (st : Setting) (path : String) (r : Relation) (operand : Value) :
    Act Journal Bool := do
  let (left, _) ← resolvePath st.runtime path
  let (left, right) ← resolveOperand st.runtime left operand
  let shownLeft ← display left
  let shownRight ← display right
  note st.traceLevel ("Evaluating condition: " ++ path ++ " = " ++ shownLeft ++ " " ++
    r.symbol ++ " " ++ shownRight)
  match r with
  | .equal => return left.strictEqual right
  | .unequal => return !left.strictEqual right
  | .order op =>
    if left.isNullish && right.isNumber then do
      note st.traceLevel ("Condition path '" ++ path ++ "' is " ++ shownLeft ++ "; '" ++
        r.symbol ++ " " ++ shownRight ++ "' is false")
      return false
    else return Value.safeCompare op left right
  | .unknown s => Act.fail (.unknownOperator s)

def evalUntil (st : Setting) (word : String) (stop : Bool) (f : Condition → Act Journal Bool)
    (index : Nat) : List Condition → Act Journal Bool
  | [] => pure !stop
  | c :: cs => do
    let b ← f c
    note st.traceLevel (word ++ "[" ++ toString index ++ "]: " ++ yesNo b)
    if b == stop then return stop else evalUntil st word stop f (index + 1) cs

/-- Evaluates a condition; conditions and names inside one another may be `depth` deep. -/
def eval (st : Setting) : Nat → Condition → Act Journal Bool
  | 0, _ => Act.fail .tooDeep
  | _ + 1, simple path r operand => evalSimple st path r operand
  | depth + 1, all cs => evalUntil st "AND" false (eval st depth) 0 cs
  | depth + 1, any cs => evalUntil st "OR" true (eval st depth) 0 cs
  | depth + 1, named n =>
    match st.table.lookup n with
    | some c => eval st depth c
    | none => Act.fail (.unknownCondition n (st.table.map (·.1)))

end Condition

end Flowgraph
