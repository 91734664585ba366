import Flowgraph.Environment.Basic
import Flowgraph.Json.Writer
import Flowgraph.Log.Entry
import Flowgraph.Text.Case

namespace Flowgraph.Log

/-- How the log is written, and from which level on. -/
structure Configuration where
  json : Bool
  level : Nat
deriving DecidableEq

def numberOfName? (name : String) : Option Nat :=
  match name with
  | "CRITICAL" | "FATAL" => some 50
  | "ERROR" => some 40
  | "WARNING" | "WARN" => some 30
  | "INFO" => some 20
  | "DEBUG" => some 10
  | "NOTSET" => some 0
  | _ => none

def levelOf (env : Environment) : Nat :=
  let name := (env.get? "GRAPHRUN_LOG_LEVEL").getD "INFO"
  (numberOfName? (String.ofList (Text.toUpper name.toList))).getD 20

def Configuration.of (env : Environment) (forceJson : Bool) (level : Option Nat) :
    Configuration :=
  let format := (env.get? "GRAPHRUN_LOG_FORMAT").getD ""
  { json := forceJson || String.ofList (Text.toLower format.toList) == "json"
    level := level.getD (levelOf env) }

abbrev Fields := List (String × Value)

def setField : Fields → String → Value → Fields
  | [], n, v => [(n, v)]
  | f :: fs, n, v => if f.1 == n then (n, v) :: fs else f :: setField fs n v

def setFields (fs gs : Fields) : Fields := gs.foldl (fun fs g ↦ setField fs g.1 g.2) fs

inductive Event where
  | entry (logger : String) (e : Entry)
  /-- Fields come to be part of every entry that follows. -/
  | bind (fields : Fields)
  | clear

mutual

/-- A value as JSON can show it: what JSON does not know becomes its literal text. -/
def plain : Value → Value
  | .tuple vs => .ofList (plainItems vs)
  | .list _ vs => .ofList (plainItems vs)
  | .mapping _ es => .ofEntries (plainEntries es)
  | .null => .null
  | .bool b => .bool b
  | .int i => .int i
  | .float x => .float x
  | .str s => .str s
  | v => .str v.literal
termination_by structural v => v

def plainItems : List Value → List Value
  | [] => []
  | v :: vs => plain v :: plainItems vs
termination_by structural vs => vs

def plainEntries : List (Key × Value) → List (Key × Value)
  | [] => []
  | (k, v) :: es => (k, plain v) :: plainEntries es
termination_by structural es => es

end

def jsonLine (logger : String) (e : Entry) : Value :=
  let fs := setFields [("event", .str e.event)] e.fields
  let fs := setFields fs [("level", .str e.level.name), ("logger", .str logger)]
  plain (.ofEntries (fs.map fun (n, v) ↦ (.str n, v)))

def padEnd (width : Nat) (s : String) : String :=
  s ++ String.ofList (List.replicate (width - s.length) ' ')

/-- Whether a text has to be quoted to be told apart from what stands around it. -/
def needsQuotes (s : String) : Bool :=
  s.toList.any fun c ↦ [' ', '\t', '=', '\r', '\n', '"', '\''].contains c

def fieldText (v : Value) : String :=
  match v with
  | .str s => if needsQuotes s then v.literal else s
  | v => v.literal

/-- An entry for the console: its level, its event, its logger and its fields by name. -/
def consoleLine (logger : String) (e : Entry) : String :=
  let fs := e.fields.filter fun f ↦ f.1 != "level" && f.1 != "logger" && f.1 != "event"
  let fs := fs.mergeSort fun f g ↦ f.1 ≤ g.1
  "[" ++ padEnd 9 e.level.name ++ "] " ++ padEnd 30 e.event ++ " [" ++ logger ++ "]" ++
    String.join (fs.map fun (n, v) ↦ " " ++ n ++ "=" ++ fieldText v)

inductive Line where
  | json (v : Value)
  | console (s : String)

def lines (c : Configuration) (bound : Fields) : List Event → List Line
  | [] => []
  | .bind fs :: es => lines c (setFields bound fs) es
  | .clear :: es => lines c [] es
  | .entry logger e :: es =>
    if e.level.number < c.level then lines c bound es
    else
      let e := { e with fields := setFields bound e.fields }
      (if c.json then .json (jsonLine logger e) else .console (consoleLine logger e)) ::
        lines c bound es

end Flowgraph.Log
