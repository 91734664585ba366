import Flowgraph.Run.Http

namespace Flowgraph

def Executor.types : List String := ["http", "sleep", "none", "end"]

namespace Run

def guarded (type label : String) (m : Act Progress α) : Act Progress α := do
  match ← m.attempt with
  | .ok a => return a
  | .error f =>
    match f.expression? with
    | some source =>
      onJournal (note .error (type ++ " executor failed: invalid expression")
        [("node", .str label), ("expression", (source.map Value.str).getD .null)])
    | none =>
      onJournal (note .error (type ++ " executor failed: " ++ f.kind)
        [("node", .str label), ("error", .str f.message)])
    Act.fail f

def runSleep (s : Setup) (milliseconds : Float) (label : String) : Act Progress Unit := do
  trace s ("Sleeping for " ++ Number.generalText milliseconds ++ "ms") [("node", .str label)]
  Act.modify fun p ↦ { p with pauses := p.pauses ++ [milliseconds / 1000.0] }

def runStop (s : Setup) (code : Int) (label : String) : Act Progress Unit := do
  Act.modify fun p ↦ { p with exitCode := code, running := false }
  trace s ("End executor for " ++ label ++ " with exit code " ++ toString code)

/-- Carries out what has no value. A stop may come meanwhile. -/
def attended (s : Setup) (m : Act Progress Unit) : Act Progress Value := do
  m
  heed s (← nextSignal)
  return .null

def perform (s : Setup) (x : Executor) (label : String) : Act Progress Value :=
  match x with
  | .http r => runRequest s r label
  | .sleep ms => attended s (runSleep s ms label)
  | .none => attended s (trace s ("No-op executor for " ++ label))
  | .stop code => attended s (runStop s code label)

def runExecutor (s : Setup) (x : Executor) (label : String) : Act Progress Value :=
  guarded x.typeName label (perform s x label)

inductive HookKind where
  | start
  | all
deriving DecidableEq

def HookKind.name : HookKind → String
  | start => "start"
  | all => "all"

def runHook (s : Setup) (kind : HookKind) (name : String) (x : Executor) : Act Progress Unit := do
  trace s ("Executing " ++ kind.name ++ " before hook: " ++ name)
  match ← (runExecutor s x ("before:" ++ kind.name ++ ":" ++ name)).attempt with
  | .ok _ => pure ()
  | .error f => onJournal (note .warning
      ("Error in " ++ kind.name ++ " before hook " ++ name ++ ": " ++ f.message)
      [("hook", .str name)])

def runEachHook (s : Setup) (kind : HookKind) : List (String × Executor) → Act Progress Unit
  | [] => pure ()
  | (name, x) :: hs => do
    runHook s kind name x
    runEachHook s kind hs

def runHooks (s : Setup) (kind : HookKind) (hooks : List (String × Executor)) :
    Act Progress Unit := do
  if hooks.isEmpty then return
  trace s ("Executing before hooks (" ++ kind.name ++ ")")
  runEachHook s kind hooks

end Run

end Flowgraph
