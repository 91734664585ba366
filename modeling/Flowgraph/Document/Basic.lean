import Flowgraph.Condition.Basic

namespace Flowgraph

abbrev Headers := List (String × String)

/-- A request: the endpoint is joined to the base URL of the document, and the response goes into
the run state under `mutate`. -/
structure Request where
  method : String
  endpoint : String
  body : Value := .null
  mutate : Option String := none
  headers : Headers := []

inductive Executor where
  | http (r : Request)
  | sleep (milliseconds : Float)
  | none
  | stop (code : Int)

def Executor.typeName : Executor → String
  | http _ => "http"
  | sleep _ => "sleep"
  | none => "none"
  | stop _ => "end"

/-- Without a condition an edge leads to `target`; with one, to `target` where it holds and to
`fallback`, if any, where it does not. -/
structure Edge where
  target : String
  condition : Option Condition := none
  fallback : Option String := none

structure Node where
  description : String := ""
  executor : Executor := .none
  edges : List Edge := []
  isEnd : Bool := false
  code : Option Int := none

/-- Executors that run once at the start, and before every decision. -/
structure Hooks where
  all : List (String × Executor) := []
  start : List (String × Executor) := []

structure Options where
  verbose : Bool := false
  baseUrl : String := ""
  headers : Headers := []

structure Graph where
  initialState : Entries := []
  options : Options := {}
  vars : Entries := []
  before : Hooks := {}
  conditions : ConditionTable := []
  nodes : List (String × Node)

def Graph.node? (g : Graph) (name : String) : Option Node := g.nodes.lookup name

end Flowgraph
