import Flowgraph.Run.Executor
import Flowgraph.Run.Result

namespace Flowgraph

namespace Value

mutual

def firstView? : Value → Option ViewKind
  | .tuple vs | .list _ vs => firstViewOfItems? vs
  | .mapping _ es => firstViewOfEntries? es
  | .view kind _ _ => some kind
  | _ => none
termination_by structural v => v

def firstViewOfItems? : List Value → Option ViewKind
  | [] => none
  | v :: vs => (v.firstView?).or (firstViewOfItems? vs)
termination_by structural vs => vs

def firstViewOfEntries? : List (Key × Value) → Option ViewKind
  | [] => none
  | (_, v) :: es => (v.firstView?).or (firstViewOfEntries? es)
termination_by structural es => es

end

end Value

namespace Run

def conditionSetting (s : Setup) (g : Graph) : Condition.Setting :=
  ⟨g.conditions, s.traceLevel, s.runtime⟩

/-- The node that an edge leads to, if any. The hooks run before each decision. -/
def follow (s : Setup) (g : Graph) (e : Edge) : Act Progress (Option String) := do
  match e.condition with
  | none => return some e.target
  | some c =>
    runHooks s .all g.before.all
    let holds ← onJournal (c.eval (conditionSetting s g) s.depth)
    let target := if holds then some e.target else e.fallback
    let shown := match target with
      | some t => if t.isEmpty then "no fallback" else t
      | none => "no fallback"
    trace s ("Edge condition result: " ++ Condition.yesNo holds ++ " -> " ++ shown)
    return target

def targets (s : Setup) (g : Graph) : List Edge → Act Progress (List String)
  | [] => pure []
  | e :: es => do
    let t ← follow s g e
    return t.toList ++ (← targets s g es)

/-- Runs the executor of a node and finds the nodes that come next; none if the run was stopped. -/
def advance (s : Setup) (g : Graph) (name : String) (n : Node) :
    Act Progress (Option (List String)) := do
  let move : Act Progress (Option (List String)) := do
    let _ ← runExecutor s n.executor name
    let p ← Act.get
    if p.running then some <$> targets s g n.edges else return none
  match ← move.attempt with
  | .ok r => return r
  | .error f => do
    onJournal (note .error ("Error executing node " ++ name))
    Act.fail f

def enter (s : Setup) (name : String) (n : Node) : Act Progress Unit := do
  Act.modify fun p ↦
    { p with journal := { p.journal with node := some name }, executed := p.executed ++ [name] }
  trace s ("Executing node: " ++ name)
  if !n.description.isEmpty then trace s ("Description: " ++ n.description)

/-- Visits a node and answers the nodes that come next; none if the run ends here. -/
def visit (s : Setup) (g : Graph) (name : String) : Act Progress (Option (List String)) := do
  match g.node? name with
  | none => Act.fail (.nodeNotFound name (g.nodes.map (·.1)))
  | some n =>
    enter s name n
    if n.isEnd then
      let code := n.code.getD 0
      Act.modify fun p ↦ { p with exitCode := code }
      trace s ("Reached end node, stopping with exit code " ++ toString code)
      return none
    else
      match ← advance s g name n with
      | none => return none
      | some [] =>
        trace s "No next nodes found, continuing with remaining queue"
        return some []
      | some ts =>
        trace s ("Next nodes: " ++ String.intercalate ", " ts)
        return some ts

inductive Ending where
  | emptied
  | stopped
  | unfinished
deriving DecidableEq

def loop (s : Setup) (g : Graph) (visits : Nat) (agenda : List String) : Act Progress Ending := do
  let p ← Act.get
  if !p.running then return .stopped
  match agenda, visits with
  | [], _ => return .emptied
  | _, 0 => return .unfinished
  | name :: rest, visits + 1 =>
    match ← visit s g name with
    | none => return .stopped
    | some ts => loop s g visits (ts ++ rest)
termination_by structural visits

def copyState : Act Progress Value := do
  let state := (← Act.get).journal.state.toValue
  match state.firstView? with
  | none => return state
  | some k => Act.fail (.reported
      ⟨"TypeError", "cannot pickle '" ++ (Value.view k 0 []).typeName ++ "' object", none⟩)

def startNode (s : Setup) (start : Option String) : String :=
  match start with
  | some n => if n.isEmpty then s.settings.startNode else n
  | none => s.settings.startNode

/-- Runs a graph from a node, for at most `visits` visits of nodes; no result means that the run is
not over by then, or never because it has come to a pause without end. -/
def execute (s : Setup) (g : Graph) (visits : Nat) (start : Option String) :
    Act Progress (Option Result) := do
  let first := startNode s start
  Act.modify fun p ↦ { p with running := true, executed := [] }
  trace s ("Starting graph execution at '" ++ first ++ "'")
  let body : Act Progress Ending := do
    runHooks s .start g.before.start
    loop s g visits [first]
  let outcome ← body.attempt
  if outcome matches .ok .unfinished then return none
  if (← Act.get).hangs s then return none
  Act.modify fun p ↦ { p with running := false }
  trace s ("Graph execution finished in " ++ toString s.elapsed ++ "ms with exit code " ++
    toString (← Act.get).exitCode)
  Act.modify fun p ↦ { p with journal := { p.journal with node := none } }
  let _ ← Act.ofExcept outcome
  let p ← Act.get
  return some ⟨p.exitCode, ← copyState, p.executed, s.elapsed⟩

end Run

end Flowgraph
