import Flowgraph.Value.Basic

namespace Flowgraph.Log

inductive Level where
  | debug
  | info
  | warning
  | error
  | critical
deriving DecidableEq

def Level.number : Level → Nat
  | debug => 10
  | info => 20
  | warning => 30
  | error => 40
  | critical => 50

def Level.name : Level → String
  | debug => "debug"
  | info => "info"
  | warning => "warning"
  | error => "error"
  | critical => "critical"

structure Entry where
  level : Level
  event : String
  fields : List (String × Value)

end Flowgraph.Log
