import Flowgraph.Document.Basic

namespace Flowgraph

namespace Document

def record (fields : List (String × Value)) : Value :=
  .ofEntries (fields.map fun (n, v) ↦ (.str n, v))

def textValue? (s : Option String) : Value :=
  match s with
  | some s => .str s
  | none => .null

def intValue? (i : Option Int) : Value :=
  match i with
  | some i => .int i
  | none => .null

def headersValue (hs : Headers) : Value := record (hs.map fun (n, s) ↦ (n, .str s))

end Document

open Document

def Executor.toValue (x : Executor) : Value :=
  let type := ("type", Value.str x.typeName)
  match x with
  | http r => record [type, ("method", .str r.method), ("endpoint", .str r.endpoint),
      ("body", r.body), ("mutate", textValue? r.mutate), ("headers", headersValue r.headers)]
  | sleep ms => record [type, ("value", .float ms)]
  | none => record [type]
  | stop code => record [type, ("code", .int code)]

mutual

def Condition.toValue : Condition → Value
  | .named n => .str n
  | .simple path r operand =>
    record [("path", .str path), ("operator", .str r.symbol), ("value", operand)]
  | .all cs => record [("and", .ofList (Condition.toValues cs))]
  | .any cs => record [("or", .ofList (Condition.toValues cs))]
termination_by structural c => c

def Condition.toValues : List Condition → List Value
  | [] => []
  | c :: cs => c.toValue :: Condition.toValues cs
termination_by structural cs => cs

end

def Edge.toValue (e : Edge) : Value :=
  record [("to", .str e.target), ("condition", (e.condition.map Condition.toValue).getD .null),
    ("fallback", textValue? e.fallback)]

def Node.toValue (n : Node) : Value :=
  record [("description", .str n.description), ("executor", n.executor.toValue),
    ("edges", .ofList (n.edges.map Edge.toValue)),
    ("type", if n.isEnd then .str "end" else .null), ("code", intValue? n.code)]

def hooksValue (hs : List (String × Executor)) : Value :=
  record (hs.map fun (n, x) ↦ (n, record [("executor", x.toValue)]))

def Hooks.toValue (h : Hooks) : Value :=
  record [("all", hooksValue h.all), ("start", hooksValue h.start)]

def Options.toValue (o : Options) : Value :=
  record [("verbose", .bool o.verbose),
    ("http", record [("base_url", .str o.baseUrl), ("headers", headersValue o.headers)])]

def Graph.toValue (g : Graph) : Value :=
  record [("initialState", .ofEntries g.initialState), ("config", g.options.toValue),
    ("variables", .ofEntries g.vars), ("before", g.before.toValue),
    ("conditions", record (g.conditions.map fun (n, c) ↦ (n, c.toValue))),
    ("graph", record (g.nodes.map fun (n, x) ↦ (n, x.toValue)))]

end Flowgraph
