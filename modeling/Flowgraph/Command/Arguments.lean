namespace Flowgraph.Command

/-- An option by its names; one that takes no value may be given many times. -/
structure OptionForm where
  key : String
  names : List String
  takesValue : Bool := false

inductive UsageFault where
  | noSuchOption (name : String)
  | needsValue (name : String)
  | takesNoValue (name : String)
  | missingCommand
  | noSuchCommand (name : String)
  | missingArgument (name : String)
  | extraArguments (first : String) (others : List String)
deriving DecidableEq

def UsageFault.message : UsageFault → String
  | noSuchOption n => "No such option: " ++ n
  | needsValue n => "Option '" ++ n ++ "' requires an argument."
  | takesNoValue n => "Option '" ++ n ++ "' does not take a value."
  | missingCommand => "Missing command."
  | noSuchCommand n => "No such command '" ++ n ++ "'."
  | missingArgument n => "Missing argument '" ++ n ++ "'."
  | extraArguments a [] => "Got unexpected extra argument (" ++ a ++ ")"
  | extraArguments a as =>
    "Got unexpected extra arguments (" ++ String.intercalate " " (a :: as) ++ ")"

/-- The options in arguments by their keys, with the values of those that take one. -/
abbrev Given := List (String × String)

/-- The options that one argument gives, and one whose value is the next argument. -/
structure Reading where
  given : Given := []
  pending : Option OptionForm := none

def findForm? (forms : List OptionForm) (name : String) : Option OptionForm :=
  forms.find? (·.names.contains name)

/-- Reads letters behind a dash, each an option; one that takes a value takes the rest. -/
def readLetters (forms : List OptionForm) : List Char → Except UsageFault Reading
  | [] => .ok {}
  | c :: cs =>
    let name := String.ofList ['-', c]
    match findForm? forms name with
    | none => .error (.noSuchOption name)
    | some f =>
      if f.takesValue then
        if cs.isEmpty then .ok { pending := some f }
        else .ok { given := [(f.key, String.ofList cs)] }
      else (readLetters forms cs).map fun r ↦ { r with given := (f.key, "") :: r.given }

def readOption (forms : List OptionForm) (arg : String) : Except UsageFault Reading :=
  let cs := arg.toList
  let name := cs.takeWhile (· != '=')
  let value := cs.drop (name.length + 1)
  let hasValue := name.length < cs.length
  match cs with
  | '-' :: '-' :: _ =>
    match findForm? forms (String.ofList name) with
    | none => .error (.noSuchOption (String.ofList name))
    | some f =>
      if f.takesValue then
        if hasValue then .ok { given := [(f.key, String.ofList value)] }
        else .ok { pending := some f }
      else if hasValue then .error (.takesNoValue (String.ofList name))
      else .ok { given := [(f.key, "")] }
  | _ => readLetters forms cs.tail

/-- What arguments give: options, and the arguments that are none. -/
structure Split where
  given : Given := []
  others : List String := []

def isOption (arg : String) : Bool :=
  match arg.toList with
  | '-' :: _ :: _ => true
  | _ => false

/-- Reads arguments from left to right, up to two dashes, or, unless `mixed`, up to the first that
is no option. -/
def split (forms : List OptionForm) (mixed : Bool) : List String → Except UsageFault Split
  | [] => .ok {}
  | "--" :: args => .ok { others := args }
  | arg :: args =>
    if isOption arg then
      match readOption forms arg with
      | .error e => .error e
      | .ok ⟨given, none⟩ =>
        (split forms mixed args).map fun s ↦ { s with given := given ++ s.given }
      | .ok ⟨given, some f⟩ =>
        match args with
        | [] => .error (.needsValue (f.names.getLastD ""))
        | value :: args =>
          (split forms mixed args).map fun s ↦
            { s with given := given ++ (f.key, value) :: s.given }
    else if mixed then
      (split forms mixed args).map fun s ↦ { s with others := arg :: s.others }
    else .ok { others := arg :: args }

namespace Given

def value? (g : Given) (key : String) : Option String := g.reverse.lookup key

def count (g : Given) (key : String) : Nat := (g.filter (·.1 == key)).length

def has (g : Given) (key : String) : Bool := g.any (·.1 == key)

end Given

inductive Task where
  | run (source start envFile : Option String) (fromInput : Bool) (verbose : Nat) (jsonLogs : Bool)
  | validate (file : String)
  | version
  | help

structure Arguments where
  settingsFile : Option String := none
  quiet : Bool := false
  task : Task

def helpForm : OptionForm := ⟨"help", ["--help"], false⟩

def mainForms : List OptionForm :=
  [⟨"settings", ["-s", "--settings"], true⟩, ⟨"quiet", ["-q", "--quiet"], false⟩,
    ⟨"version", ["--version"], false⟩, helpForm]

def runForms : List OptionForm :=
  [⟨"start", ["--start"], true⟩, ⟨"env", ["--env"], true⟩, ⟨"stdin", ["--stdin"], false⟩,
    ⟨"verbose", ["-v", "--verbose"], false⟩, ⟨"json-logs", ["--json-logs"], false⟩, helpForm]

def readRun (args : List String) : Except UsageFault Task := do
  let s ← split runForms true args
  if Given.has s.given "help" then return .help
  match s.others with
  | _ :: a :: as => throw (.extraArguments a as)
  | others =>
    return .run others.head? (Given.value? s.given "start") (Given.value? s.given "env")
      (Given.has s.given "stdin") (Given.count s.given "verbose") (Given.has s.given "json-logs")

def readValidate (args : List String) : Except UsageFault Task := do
  let s ← split [helpForm] true args
  if Given.has s.given "help" then return .help
  match s.others with
  | [] => throw (.missingArgument "FILE")
  | [file] => return .validate file
  | _ :: a :: as => throw (.extraArguments a as)

def readArguments (args : List String) : Except UsageFault Arguments := do
  let s ← split mainForms false args
  let task ← if Given.has s.given "version" then pure Task.version
    else if Given.has s.given "help" || args.isEmpty then pure Task.help
    else match s.others with
      | [] => throw .missingCommand
      | "run" :: args => readRun args
      | "validate" :: args => readValidate args
      | name :: _ => throw (.noSuchCommand name)
  return ⟨Given.value? s.given "settings", Given.has s.given "quiet", task⟩

end Flowgraph.Command
