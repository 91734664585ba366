import Flowgraph.Document.Standard
import Flowgraph.Environment.Basic
import Flowgraph.Files
import Flowgraph.Settings.Basic
import Flowgraph.Text.Case
import Flowgraph.Yaml.Value

namespace Flowgraph.Settings

open Document

structure Complaint where
  message : String
  field : Option String := none
  value : Value := .null

inductive Fault where
  | complaint (c : Complaint)
  | misfits (first : Misfit) (others : List Misfit) (merged : Entries)
  | notText (e : Text.Utf8Fault)
  | isFolder (path : String)
  | badKey
  | scalar (kind message : String)
  | tooDeep

def Fault.message : Fault → String
  | complaint c => c.message
  | misfits m ms _ => String.intercalate "; " ((m :: ms).map Misfit.text)
  | notText e => e.message
  | isFolder path => "[Errno 21] Is a directory: " ++ Text.quoted path
  | badKey => "keywords must be strings"
  | scalar _ m => m
  | tooDeep => "maximum recursion depth exceeded"

def Fault.kind : Fault → String
  | complaint _ => "ConfigError"
  | misfits .. => "ValidationError"
  | notText _ => "UnicodeDecodeError"
  | isFolder _ => "IsADirectoryError"
  | badKey => "TypeError"
  | scalar k _ => k
  | tooDeep => "RecursionError"

def longestTimeout : Float := 3600.0

def checkTimeout (v : Value) : Checked Float :=
  (checkFloat v).andThen fun x ↦
    if !(x ≤ longestTimeout) then .fault "Input should be less than or equal to 3600"
    else if !(0.0 < x) then .fault "Input should be greater than 0"
    else .fits x

def checkPasses (v : Value) : Checked Nat :=
  (checkInteger v).andThen fun i ↦
    if i < 1 then .fault "Input should be greater than or equal to 1" else .fits i.toNat

def verbosityOfName? (name : String) : Option Log.Level :=
  [Log.Level.error, .warning, .info, .debug].find? (·.name == name)

def checkVerbosity (v : Value) : Checked Log.Level :=
  let wrong := Checked.fault "Input should be 'error', 'warning', 'info' or 'debug'"
  match v with
  | .str s =>
    match verbosityOfName? s with
    | some l => .fits l
    | none => wrong
  | _ => wrong

def check (es : Entries) : Checked Settings :=
  Fields.made (fun timeout maxPasses startNode verbosity ↦
      { timeout, maxPasses, startNode, verbosity })
    |>.optional [timeoutName] 30.0 checkTimeout
    |>.optional [maxPassesName] 1000 checkPasses
    |>.optional [startNodeName] "start" (checkMinLength 1)
    |>.optional [verbosityName] .info checkVerbosity
    |>.check es

def variableLead : String := "graphrun_"

/-- The settings in the environment, whose names may be in letters of either case. -/
def ofEnvironment (env : Environment) : Entries :=
  let lower := env.map fun (n, v) ↦ (String.ofList (Text.toLower n.toList), v)
  names.filterMap fun n ↦
    (lower.reverse.lookup (variableLead ++ n)).map fun v ↦ (Key.str n, Value.str v)

def ofFile (path : String) (os : List UInt8) : List Log.Entry × Except Fault Entries :=
  match Text.ofOctets os with
  | .error e => ([], .error (.notText e))
  | .ok content =>
    match Yaml.read Yaml.standardRoom true content.toList with
    | .error (.malformed _) =>
      ([], .error (.complaint
        { message := "Invalid YAML in " ++ path ++ ": " ++ Yaml.malformedText }))
    | .error (.scalar kind message) => ([], .error (.scalar kind message))
    | .error .tooDeep => ([], .error .tooDeep)
    | .ok .null =>
      ([⟨.warning, "Settings file " ++ path ++ " is empty, using defaults.", []⟩], .ok [])
    | .ok (.mapping _ es) => ([], .ok es)
    | .ok v =>
      ([], .error (.complaint
        { message := "Settings file " ++ path ++ " must contain a mapping"
          value := .str v.typeName }))

def build (given : Entries) (env : Environment) (files : Files) (path : String) :
    List Log.Entry × Except Fault Settings :=
  let (log, fromFile) : List Log.Entry × Except Fault Entries := match files path with
    | .octets os => ofFile path os
    | .folder => ([], .error (.isFolder path))
    | _ => ([], .ok [])
  let settings := fromFile.bind fun es ↦
    if es.all fun e ↦ e.1 matches .str _ then
      let merged := Entries.insertAll (Entries.insertAll es (ofEnvironment env)) given
      match check merged with
      | .fits s => .ok s
      | .misfits m ms => .error (.misfits m ms merged)
    else .error .badKey
  (log, settings)

def defaultFile (folder : String) : String := folder ++ "/graphrun.yaml"

def Fault.asComplaint : Fault → Fault
  | misfits m _ merged => .complaint
      { message := "Invalid settings: " ++ m.message
        field := String.intercalate "." m.place
        value := Entries.get merged (.str (m.place.headD "")) }
  | f => f

/-- Loads settings, from the given file or else from the one in the working folder, if any. -/
def load (env : Environment) (files : Files) (folder : String) (path : Option String) :
    List Log.Entry × Except Fault Settings :=
  let run (path : String) : List Log.Entry × Except Fault Settings :=
    let (log, r) := build [] env files path
    (log, r.mapError Fault.asComplaint)
  match path with
  | none => run (defaultFile folder)
  | some p =>
    let p := Text.plainPath p
    if (files p).isThere then run p
    else ([], .error (.complaint
      { message := "Settings file not found: " ++ p, value := .str p }))

end Flowgraph.Settings
