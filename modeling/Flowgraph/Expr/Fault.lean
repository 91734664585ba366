import Flowgraph.Value.Order
import Flowgraph.Value.Path

namespace Flowgraph.Expr

/-- The parameters of a function: those it needs, those it may be given. -/
structure Signature where
  name : String
  required : List String
  optional : Nat

def plural (n : Nat) (s : String) : String := if n == 1 then s else s ++ "s"

def enumerated : List String → String
  | [] => ""
  | [a] => "'" ++ a ++ "'"
  | [a, b] => "'" ++ a ++ "' and '" ++ b ++ "'"
  | names => String.join (names.dropLast.map fun n ↦ "'" ++ n ++ "', ") ++
      "and '" ++ names.getLastD "" ++ "'"

def Signature.misfit? (f : Signature) (given : Nat) : Option String :=
  let needed := f.required.length
  if given < needed then
    let missing := f.required.drop given
    some (f.name ++ "() missing " ++ toString missing.length ++ " required positional " ++
      plural missing.length "argument" ++ ": " ++ enumerated missing)
  else if needed + f.optional < given then
    let takes :=
      if f.optional == 0 then toString needed ++ " positional " ++ plural needed "argument"
      else "from " ++ toString needed ++ " to " ++ toString (needed + f.optional) ++
        " positional arguments"
    some (f.name ++ "() takes " ++ takes ++ " but " ++ toString given ++
      (if given == 1 then " was" else " were") ++ " given")
  else none

inductive CallFault where
  | arity (f : Signature) (given : Nat)
  | emptyExtremum (function : String)
  | unordered (u : Unordered)
  | path (f : PathFault)
  | pathType (typeName : String)
  | raised (message : String)

def CallFault.message : CallFault → String
  | arity f given => (f.misfit? given).getD ""
  | emptyExtremum f => f ++ "() arg is an empty sequence"
  | unordered u => u.message
  | path f => f.message
  | pathType t =>
    if t == "bytes" then "a bytes-like object is required, not 'str'"
    else "'" ++ t ++ "' object has no attribute 'split'"
  | raised message => message

inductive EvalFault where
  | unknownFunction (name : String)
  | methodOnNothing (method kind : String)
  | notAFunction (method kind : String)
  | call (name : String) (cause : CallFault)
  | unknownOperator (name : String)
  | queryType (typeName : String)

def EvalFault.namesExpression : EvalFault → Bool
  | unknownOperator _ | queryType _ => false
  | _ => true

def EvalFault.cause : EvalFault → String
  | unknownFunction f => "Unknown function: " ++ f
  | methodOnNothing m k => "Cannot call method '" ++ m ++ "' on " ++ k
  | notAFunction m k => "'" ++ m ++ "' is not a function on " ++ k
  | call f c => "Call to '" ++ f ++ "' failed: " ++ c.message
  | unknownOperator op => "Unknown filter operator: " ++ op
  | queryType t => "filter() expects a mapping query, got " ++ t

def evaluationText (complaint source : String) : String :=
  if source.isEmpty then complaint else complaint ++ " in expression: " ++ source

def EvalFault.message (f : EvalFault) (source : String) : String :=
  if f.namesExpression then evaluationText f.cause source else f.cause

end Flowgraph.Expr
