import Flowgraph.Expr.Basic
import Flowgraph.Expr.Extremum
import Flowgraph.Expr.Method
import Flowgraph.Expr.Nesting
import Flowgraph.Expr.Sort
import Flowgraph.Value.Display

namespace Flowgraph

namespace Expr

inductive Fault where
  | eval (f : EvalFault)
  /-- A number used as a key that is too long to be written. -/
  | text (e : Json.WriteError)

structure Outcome (α : Type) where
  result : Except Fault α
  edits : List Edit

namespace Outcome

variable {α β : Type}

protected def pure (a : α) : Outcome α := ⟨.ok a, []⟩

protected def fail (f : EvalFault) : Outcome α := ⟨.error (.eval f), []⟩

def andThen (o : Outcome α) (f : α → List Edit → Outcome β) : Outcome β :=
  match o.result with
  | .error e => ⟨.error e, o.edits⟩
  | .ok a =>
    let p := f a o.edits
    ⟨p.result, o.edits ++ p.edits⟩

def map (f : α → β) (o : Outcome α) : Outcome β := ⟨f <$> o.result, o.edits⟩

end Outcome

/-- The functions that are called as methods of their first argument. -/
inductive PathFunction where
  | find
  | filter
  | sort
  | first
  | last
deriving DecidableEq

namespace PathFunction

def ofName? : String → Option PathFunction
  | "find" => some find
  | "filter" => some filter
  | "sort" => some sort
  | "first" => some first
  | "last" => some last
  | _ => none

def signature : PathFunction → Signature
  | find => ⟨"find", ["array"], 2⟩
  | filter => ⟨"filter_items", ["array", "query"], 0⟩
  | sort => ⟨"sort_items", ["array", "key"], 1⟩
  | first => ⟨"first", ["array"], 0⟩
  | last => ⟨"last", ["array"], 0⟩

def apply (f : PathFunction) (args : List Value) : Except QueryFault Value :=
  if (f.signature.misfit? args.length).isSome then
    .error (.call (.arity f.signature args.length))
  else
    let arg (i : Nat) := args.getD i .undefined
    match f with
    | find => .ok (Expr.find (arg 0) (arg 1) (arg 2))
    | filter => Expr.filter (arg 0) (arg 1)
    | sort => (Expr.sort (arg 0) (arg 1) (args.getD 2 (.str "asc"))).mapError .call
    | first => .ok (Expr.first (arg 0))
    | last => .ok (Expr.last (arg 0))

end PathFunction

def QueryFault.toEvalFault (function : String) : QueryFault → EvalFault
  | call c => .call function c
  | unknownOperator op => .unknownOperator op
  | queryType t => .queryType t

def memberOf (v : Value) (property : String) : Value :=
  match v with
  | .list _ vs =>
    match property with
    | "first" => first v
    | "last" => last v
    | "length" => .int vs.length
    | _ => .undefined
  | .mapping _ es => Entries.get es (.str property)
  | .str s => if property == "length" then .int s.length else .undefined
  | _ => .undefined

def position? : Value → Option Int
  | .int i => some i
  | .float x => Number.integral? x
  | _ => none

/-- Index access: whole numbers for lists, texts and the texts of numbers for mappings. -/
def indexOf (v index : Value) : Except Fault Value :=
  match v with
  | .list _ vs =>
    match position? index with
    | some i => .ok (if 0 ≤ i then vs.getD i.toNat .undefined else .undefined)
    | none => .ok .undefined
  | .mapping _ es =>
    match index with
    | .str s => .ok (Entries.get es (.str s))
    | .int _ | .float _ =>
      (index.display.mapError Fault.text).map fun s ↦ Entries.get es (.str s)
    | _ => .ok .undefined
  | _ => .ok .undefined

def isWithheld (method : String) : Bool :=
  method.startsWith "_" || method == "format" || method == "format_map"

/-- Calls a method of a value. What it raises is the fault of the call, its edits stand. -/
def callMethod (methods : Methods) (s : State) (v : Value) (method : String) (args : List Value) :
    Outcome Value :=
  let reply := methods.call s.next v method args
  ⟨reply.answer.mapError fun message ↦ .eval (.call method (.raised message)), reply.edits⟩

mutual

def eval (methods : Methods) (s : State) : Expr → Outcome Value
  | .literal l => .pure l.value
  | .name n => .pure (s.get n)
  | .object ps => (evalProperties methods s ps).map fun es ↦ .ofEntries (Entries.ofList es)
  | .member e p => (eval methods s e).map fun v ↦ if v.isNullish then .undefined else memberOf v p
  | .index e i => (eval methods s e).andThen fun v edits ↦
      if v.isNullish then .pure .undefined
      else (eval methods (s.edits edits) i).andThen fun w edits ↦ ⟨indexOf (v.edits edits) w, []⟩
  | .call f as =>
    match Extremum.ofName? f with
    | none => .fail (.unknownFunction f)
    | some x => (evalAll methods s as).andThen fun vs _ ↦
        match x.apply vs with
        | .ok v => .pure v
        | .error c => .fail (.call f c)
  | .method e m as => (eval methods s e).andThen fun v edits ↦
      if v.isNullish then .fail (.methodOnNothing m v.kindName)
      else
        let s := s.edits edits
        match PathFunction.ofName? m with
        | some f => (evalAll methods s as).andThen fun vs edits ↦
            match f.apply (v.edits edits :: vs) with
            | .ok w => .pure w
            | .error c => .fail (c.toEvalFault m)
        | none =>
          if isWithheld m || !methods.has v m then .fail (.notAFunction m v.kindName)
          else (evalAll methods s as).andThen fun vs edits ↦
            callMethod methods (s.edits edits) (v.edits edits) m vs
termination_by structural e => e

def evalAll (methods : Methods) (s : State) : List Expr → Outcome (List Value)
  | [] => .pure []
  | e :: es => (eval methods s e).andThen fun v edits ↦
      (evalAll methods (s.edits edits) es).andThen fun vs edits ↦ .pure (v.edits edits :: vs)
termination_by structural es => es

def evalProperties (methods : Methods) (s : State) :
    List (String × Expr) → Outcome (List (Key × Value))
  | [] => .pure []
  | (k, e) :: ps => (eval methods s e).andThen fun v edits ↦
      (evalProperties methods (s.edits edits) ps).andThen fun es edits ↦
        .pure ((Key.str k, v.edits edits) :: es)
termination_by structural ps => ps

end

inductive Error where
  | invalid (e : SyntaxError) (source : String)
  | eval (f : EvalFault) (source : String)
  | text (e : Json.WriteError)
  | tooDeep

def Error.message : Error → String
  | invalid e source => e.message source
  | eval f source => f.message source
  | text e => e.message
  | tooDeep => "maximum recursion depth exceeded"

def Error.kind : Error → String
  | invalid e _ => e.cause.kind
  | eval .. => "ExpressionEvaluationError"
  | text .integer => "ValueError"
  | text _ => "TypeError"
  | tooDeep => "RecursionError"

def Error.source? : Error → Option String
  | invalid _ source => some source
  | eval f source => some (if f.namesExpression then source else "")
  | _ => none

/-- What an evaluation runs on: how deep brackets may be nested in a text, how deep expressions in
one another, and the methods that values have. -/
structure Runtime where
  brackets : Nat
  height : Nat
  methods : Methods

def Runtime.standard : Runtime := ⟨300, 480, Method.standard⟩

def evalText (runtime : Runtime) (s : State) (source : String) : Except Error Value × List Edit :=
  match parseWithin runtime.brackets source with
  | .error .tooDeep => (.error .tooDeep, [])
  | .error (.invalid e) => (.error (.invalid e source), [])
  | .ok e =>
    if runtime.height < e.height then (.error .tooDeep, [])
    else
      let o := eval runtime.methods s e
      match o.result with
      | .ok v => (.ok v, o.edits)
      | .error (.eval f) => (.error (.eval f source), o.edits)
      | .error (.text e) => (.error (.text e), o.edits)

end Expr

end Flowgraph
