import Flowgraph.Document.Schema
import Flowgraph.Document.Standard
import Flowgraph.Files
import Flowgraph.Json.Reader
import Flowgraph.Log.Entry
import Flowgraph.Yaml.Value

namespace Flowgraph.Document

inductive Format where
  | json
  | yaml
deriving DecidableEq

def suffixes : List (String × Format) := [(".json", .json), (".yaml", .yaml), (".yml", .yaml)]

def Format.ofSuffix? (suffix : String) : Option Format :=
  suffixes.lookup (String.ofList (Text.toLower suffix.toList))

inductive Cause where
  | empty
  | json (c : Json.Cause)
  | yaml (message : String)
  /-- The document is a value of another type than a mapping. -/
  | notMapping (type : String)
  | misfits (ms : List Misfit)
  | suffix (s : String)
  /-- The file cannot be read, for a reason that the system gives. -/
  | unreadable (reason : String)

def Cause.message : Cause → String
  | empty => "Empty graph document"
  | json c => "JSON syntax error: " ++ c.message
  | yaml m => "YAML syntax error: " ++ m
  | notMapping t => "Graph document must be an object (dict), got " ++ t
  | misfits ms => "Schema validation failed: " ++ String.intercalate "; " (ms.map Misfit.text)
  | suffix s => "Unsupported file extension '" ++ s ++ "' (expected one of: " ++
      String.intercalate ", " (suffixes.map (·.1)) ++ ")"
  | unreadable reason => "Cannot read graph file: " ++ reason

/-- A cause, with the file and the line where it lies if they are known. -/
structure Refusal where
  cause : Cause
  file : Option String := none
  line : Option Nat := none

def placeText (file : Option String) (line : Option Nat) : String :=
  match file, line with
  | none, none => ""
  | none, some n => " at line " ++ toString n
  | some f, none => " in " ++ f
  | some f, some n => " in " ++ f ++ ":" ++ toString n

def Refusal.message (r : Refusal) : String := r.cause.message ++ placeText r.file r.line

inductive Fault where
  | refused (r : Refusal)
  | badName
  | notText (e : Text.Utf8Fault)
  | raised (kind message : String)
  | tooDeep

def Fault.message : Fault → String
  | refused r => r.message
  | badName => "embedded null byte"
  | notText e => e.message
  | raised _ m => m
  | tooDeep => "maximum recursion depth exceeded"

def Fault.kind : Fault → String
  | refused _ => "GraphParseError"
  | badName => "ValueError"
  | notText _ => "UnicodeDecodeError"
  | raised k _ => k
  | tooDeep => "RecursionError"

/-- What reading a YAML text ends in, if not in a document. -/
inductive YamlFault where
  /-- The text is no document, perhaps because of a line. -/
  | malformed (message : String) (line : Option Nat)
  | raised (kind message : String)
  | tooDeep

/-- What documents are read with, and what graphs are made of them with. A document can hold more than
values do, such as a list that contains itself, and so can what is made of it. -/
structure Reader (δ γ : Type) where
  ofValue : Value → δ
  room : Nat
  readYaml : String → Except YamlFault δ
  otherType? : δ → Option String
  check : δ → Checked γ

def refuse {α : Type} (cause : Cause) (line : Option Nat := none) : Except Fault α :=
  .error (.refused { cause, line })

def isEmptyText (content : String) : Bool := content.toList.all Text.isBlank

def accept {γ : Type} (a : Checked γ) : Except Fault γ :=
  match a.toExcept with
  | .ok g => .ok g
  | .error ms => refuse (.misfits ms)

def readGraph (L : Library) (v : Value) : Except Fault Graph := accept (checkGraph L v)

def ofYaml : Except Yaml.Fault Value → Except YamlFault Value
  | .ok v => .ok v
  | .error (.malformed line) => .error (.malformed Yaml.malformedText line)
  | .error (.scalar kind message) => .error (.raised kind message)
  | .error .tooDeep => .error .tooDeep

def Reader.standard : Reader Value Graph where
  ofValue v := v
  room := Json.standardRoom
  readYaml content := ofYaml (Yaml.read Yaml.standardRoom false content.toList)
  otherType? v := if v matches .mapping .. then none else some v.typeName
  check := checkGraph .standard

namespace Reader

variable {δ γ : Type} (r : Reader δ γ)

def ensureMapping (d : δ) : Except Fault δ :=
  match r.otherType? d with
  | none => .ok d
  | some type => refuse (.notMapping type)

def readJson (content : String) : Except Fault δ := do
  if isEmptyText content then refuse .empty
  else match Json.read r.room content.toList with
    | .ok v => r.ensureMapping (r.ofValue v)
    | .error e =>
      match e.cause with
      | .longInteger _ => throw (.raised "ValueError" e.message)
      | .tooDeep => throw .tooDeep
      | c => refuse (.json c) (some e.place.line)

def parseYaml (content : String) : Except Fault δ := do
  if isEmptyText content then refuse .empty
  else match r.readYaml content with
    | .ok d => r.ensureMapping d
    | .error (.malformed message line) => refuse (.yaml message) line
    | .error (.raised kind message) => throw (.raised kind message)
    | .error .tooDeep => throw .tooDeep

/-- Reads a text in a format; without one, as JSON if it is that, and else as YAML. -/
def readText (format : Option Format) (content : String) : List Log.Entry × Except Fault δ :=
  match format with
  | some .json => ([], r.readJson content)
  | some .yaml => ([], r.parseYaml content)
  | none =>
    match r.readJson content with
    | .error (.refused e) =>
      ([⟨.debug, "Not a JSON document, trying YAML: " ++ e.message, []⟩], r.parseYaml content)
    | d => ([], d)

def loadText (format : Option Format) (content : String) : List Log.Entry × Except Fault γ :=
  let (log, d) := r.readText format content
  (log, d.bind fun d ↦ accept (r.check d))

end Reader

def Fault.inFile (file : String) : Fault → Fault
  | refused r => .refused { r with file := some file }
  | e => e

def Reader.loadFile {δ γ : Type} (r : Reader δ γ) (files : Files) (path : String) :
    Except Fault γ :=
  let file := Text.plainPath path
  match Format.ofSuffix? (Text.suffix path) with
  | none => .error (Fault.inFile file (.refused { cause := .suffix (Text.suffix path) }))
  | some format =>
    if path.toList.contains '\x00' then .error .badName
    else match (files file).read with
      | .error reason => .error (Fault.inFile file (.refused { cause := .unreadable reason }))
      | .ok os =>
        match Text.ofOctets os with
        | .error e => .error (.notText e)
        | .ok content => (r.loadText (some format) content).2.mapError (Fault.inFile file)

end Flowgraph.Document
