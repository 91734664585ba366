import Flowgraph.Value.Order

namespace Flowgraph

inductive Relation where
  | equal
  | unequal
  | order (op : Comparison)
  | unknown (symbol : String)
deriving DecidableEq

namespace Relation

def ofSymbol (s : String) : Relation :=
  match s with
  | "=" => equal
  | "!=" => unequal
  | _ => match Comparison.ofSymbol? s with
    | some op => order op
    | none => unknown s

def symbol : Relation → String
  | equal => "="
  | unequal => "!="
  | order op => op.symbol
  | unknown s => s

end Relation

inductive Condition where
  | simple (path : String) (relation : Relation) (operand : Value)
  | all (cs : List Condition)
  | any (cs : List Condition)
  | named (name : String)

abbrev ConditionTable := List (String × Condition)

namespace Condition

mutual

def references : Condition → List String
  | named n => [n]
  | all cs | any cs => referencesAll cs
  | simple .. => []
termination_by structural c => c

def referencesAll : List Condition → List String
  | [] => []
  | c :: cs => c.references ++ referencesAll cs
termination_by structural cs => cs

end

end Condition

end Flowgraph
