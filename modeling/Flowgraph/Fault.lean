import Flowgraph.Expr.Eval

namespace Flowgraph

/-- A failure told by others, such as the transport of a request. Failures of expressions carry
their source, where it is known. -/
structure Report where
  kind : String
  message : String
  expression : Option (Option String) := none

inductive Fault where
  | expression (e : Expr.Error)
  | path (f : PathFault)
  | text (e : Json.WriteError)
  | nodeNotFound (name : String) (available : List String)
  | unknownCondition (name : String) (available : List String)
  | unknownExecutor (type : String)
  | unknownOperator (symbol : String)
  | http (method url message : String) (status : Option Int)
  | reported (r : Report)
  | tooDeep

namespace Fault

def sortNames (names : List String) : List String := names.mergeSort (· ≤ ·)

def withAvailable (complaint : String) (available : List String) : String :=
  if available.isEmpty then complaint
  else complaint ++ " (available: " ++ String.intercalate ", " (sortNames available) ++ ")"

def message : Fault → String
  | expression e => e.message
  | path f => f.message
  | text e => e.message
  | nodeNotFound n available => withAvailable ("Node not found: " ++ n) available
  | unknownCondition n available => withAvailable ("Unknown condition: " ++ n) available
  | unknownExecutor t => "Unknown executor type: " ++ t
  | unknownOperator s => "Unknown operator: " ++ s
  | http method url m _ => "HTTP " ++ method ++ " " ++ url ++ " failed: " ++ m
  | reported r => r.message
  | tooDeep => "maximum recursion depth exceeded"

def kind : Fault → String
  | expression e => e.kind
  | path _ => "ValueError"
  | text .integer => "ValueError"
  | text _ => "TypeError"
  | nodeNotFound .. => "NodeNotFoundError"
  | unknownCondition .. => "UnknownConditionError"
  | unknownExecutor _ => "UnknownExecutorError"
  | unknownOperator _ => "UnknownOperatorError"
  | http .. => "HttpExecutorError"
  | reported r => r.kind
  | tooDeep => "RecursionError"

/-- The source of a failed expression, where the failure is one of the expression language. -/
def expression? : Fault → Option (Option String)
  | expression e => e.source?.map some
  | reported r => r.expression
  | _ => none

end Fault

end Flowgraph
