import Flowgraph.Command.Arguments
import Flowgraph.Document.Reference
import Flowgraph.Document.Text
import Flowgraph.Environment.File
import Flowgraph.Family
import Flowgraph.Log.Line
import Flowgraph.Run.Loop
import Flowgraph.Settings.Load

namespace Flowgraph.Command

structure World where
  env : Environment
  files : Files
  folder : String
  input : String
  replies : List Run.Reply
  visits : Nat

inductive Exit where
  | code (n : Int)
  | escaped (r : Report)
  | unfinished

structure Session where
  env : Environment
  level : Nat := Log.Level.info.number
  log : List Log.Entry := []
  output : String := ""
  errors : String := ""
  configured : List (Bool × Nat) := []
  requests : List Run.Outgoing := []

abbrev Step := ExceptT Exit (StateM Session)

def logAll (es : List Log.Entry) : Step Unit :=
  modify fun s ↦ { s with log := s.log ++ es.filter fun e ↦ s.level ≤ e.level.number }

def logOne (level : Log.Level) (event : String) (fields : List (String × Value) := []) :
    Step Unit :=
  logAll [⟨level, event, fields⟩]

def print (line : String) : Step Unit :=
  modify fun s ↦ { s with output := s.output ++ line ++ "\n" }

def printError (line : String) : Step Unit :=
  modify fun s ↦ { s with errors := s.errors ++ line ++ "\n" }

def giveUp {α : Type} (complaint : String) : Step α := do
  printError ("Error: " ++ complaint)
  throw (.code 1)

/-- Adds the variables of a file to the environment. Only a file that is named has to exist. -/
def loadEnvironment (w : World) (file : Option String) : Step Unit := do
  let named := file.filter fun f ↦ !f.isEmpty
  let path := match named with
    | some f => Text.plainPath f
    | none => w.folder ++ "/.env"
  match w.files path with
  | .octets os =>
    match Text.ofOctets os with
    | .error e => throw (.escaped ⟨"UnicodeDecodeError", e.message, none⟩)
    | .ok content =>
      for line in Environment.malformedLines content do
        logOne .warning ("python-dotenv could not parse statement starting at line " ++
          toString line)
      modify fun s ↦ { s with env := s.env.addFile content }
      logOne .info ("Loaded environment variables from: " ++ path)
  | _ => if named.isSome then giveUp ("Environment file not found: " ++ path)

def complaintLines (c : Settings.Complaint) : List String :=
  let field := match c.field with
    | some f => if f.isEmpty then [] else ["  Field: " ++ f]
    | none => []
  let value := match c.value with
    | .null => []
    | v => ["  Value: " ++ v.text]
  field ++ value

def loadSettings (w : World) (file : Option String) : Step Settings := do
  let s ← get
  let (log, r) := Settings.load s.env w.files w.folder (file.filter fun f ↦ !f.isEmpty)
  logAll log
  match r with
  | .ok settings => return settings
  | .error (.complaint c) =>
    giveUp (String.intercalate "\n" (c.message :: complaintLines c))
  | .error f => throw (.escaped ⟨f.kind, f.message, none⟩)

/-- The level of the log: silence comes before talk, and that before the settings. -/
def logLevel (settings : Settings) (verbose : Nat) (quiet : Bool) : Log.Level :=
  if quiet then .error
  else match verbose with
    | 0 => settings.verbosity
    | 1 => .info
    | _ => .debug

def configure (forceJson : Bool) (level : Log.Level) : Step Unit :=
  modify fun s ↦
    { s with level := level.number, configured := s.configured ++ [(forceJson, level.number)] }

/-- Notes and prints why a run failed, if that is a failure of the runner's own. -/
def failRun {α : Type} (kind message : String) : Step α := do
  if Family.isOwn kind then
    logOne .error ("Execution failed: " ++ message)
    giveUp message
  else throw (.escaped ⟨kind, message, none⟩)

def readInput (w : World) : Step String := do
  let content := String.ofList (Text.unifyLineEnds w.input.toList)
  if Document.isEmptyText content then giveUp "No configuration content provided via stdin"
  logOne .info ("Config content received: " ++ toString content.length ++ " bytes")
  return content

def inputName : String := "-"

def loadGraph (w : World) (source : Option String) (fromInput : Bool) : Step Graph := do
  let loaded ← match source with
    | some file =>
      if fromInput || file == inputName then fromText else do
        logOne .info ("Configuration: " ++ file)
        pure (Document.Reader.standard.loadFile w.files file)
    | none => fromText
  match loaded with
  | .ok g => return g
  | .error f => failRun f.kind f.message
where
  fromText : Step (Except Document.Fault Graph) := do
    logOne .info "Reading configuration from stdin"
    let (log, r) := Document.Reader.standard.loadText none (← readInput w)
    logAll log
    return r

def execute (w : World) (settings : Settings) (g : Graph) (start : Option String) :
    Step Run.Result := do
  let s ← get
  let setup : Run.Setup := { options := g.options, settings, secret := s.env.get? }
  let (r, p) := Run.execute setup g w.visits start (.ofGraph g w.replies [])
  logAll p.journal.log
  modify fun s ↦ { s with requests := p.requests }
  match r with
  | .ok (some result) => return result
  | .ok none => throw .unfinished
  | .error f => failRun f.kind f.message

def run (w : World) (a : Arguments) (source start envFile : Option String) (fromInput : Bool)
    (verbose : Nat) (jsonLogs : Bool) : Step Unit := do
  loadEnvironment w envFile
  let settings ← loadSettings w a.settingsFile
  configure jsonLogs (logLevel settings verbose a.quiet)
  let g ← loadGraph w source fromInput
  match start with
  | some n => if !n.isEmpty then logOne .info ("Starting from node: " ++ n)
  | none => pure ()
  let result ← execute w settings g start
  logOne .info ("Graph execution completed with exit code " ++ toString result.exitCode)
    [("duration_ms", .int result.milliseconds), ("nodes", .int result.executed.length)]
  if verbose != 0 then
    match Json.writeText .indented result.state with
    | .ok text => print text
    | .error e => throw (.escaped ⟨(Fault.text e).kind, e.message, none⟩)
  throw (.code result.exitCode)

def edgeCount (g : Graph) : Nat := g.nodes.foldl (fun n e ↦ n + e.2.edges.length) 0

def validate (w : World) (a : Arguments) (file : String) : Step Unit := do
  let settings ← loadSettings w a.settingsFile
  configure false (logLevel settings 0 a.quiet)
  match Document.Reader.standard.loadFile w.files file with
  | .error f =>
    match f with
    | .refused r => giveUp r.message
    | f => throw (.escaped ⟨f.kind, f.message, none⟩)
  | .ok g =>
    print ("Valid graph: " ++ toString g.nodes.length ++ " nodes, " ++ toString (edgeCount g) ++
      " edges")
    for d in g.dangling settings.startNode do
      printError ("Warning: " ++ d.message)

def version : String := "1.0.0"

def perform (w : World) (args : List String) : Step Unit := do
  match readArguments args with
  | .error e => do
    printError ("Error: " ++ e.message)
    throw (.code 2)
  | .ok a =>
    match a.task with
    | .run source start envFile fromInput verbose jsonLogs =>
      run w a source start envFile fromInput verbose jsonLogs
    | .validate file => validate w a file
    | .version => print ("graphrun, version " ++ version)
    | .help => print "Usage: graphrun [OPTIONS] COMMAND [ARGS]..."

structure Outcome where
  exitCode : Int
  session : Session
  escaped : Option Report := none

def outcome? (w : World) (args : List String) : Option Outcome :=
  match (perform w args).run.run { env := w.env } with
  | (.ok (), s) => some ⟨0, s, none⟩
  | (.error (.code n), s) => some ⟨n, s, none⟩
  | (.error (.escaped r), s) => some ⟨1, s, some r⟩
  | (.error .unfinished, _) => none

end Flowgraph.Command
