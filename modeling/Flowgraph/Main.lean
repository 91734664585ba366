import Flowgraph.Command.Basic

open Flowgraph Command

def readEnvironment : IO Environment := do
  let octets ← IO.FS.readBinFile "/proc/self/environ"
  let entries := octets.toList.splitOn 0
  return entries.filterMap fun os ↦
    match Text.decodeUtf8 os with
    | .error _ => none
    | .ok s =>
      let name := s.toList.takeWhile (· != '=')
      if name.isEmpty then none
      else some (String.ofList name, String.ofList (s.toList.drop (name.length + 1)))

def readStored (path : String) : IO Stored := do
  let place := (← IO.currentDir) / path
  if ← place.isDir then return .folder
  try
    return .octets (← IO.FS.readBinFile place).toList
  catch _ => return .nothing

/-- The files that arguments may name, and those that are read without being named. -/
def readFiles (folder : String) (args : List String) : IO Files := do
  let values := args.map fun a ↦ String.ofList ((a.toList.dropWhile (· != '=')).drop 1)
  let letters := args.map fun a ↦ String.ofList (a.toList.drop 2)
  let paths := ((args ++ values ++ letters).filter fun a ↦ !a.isEmpty).map Text.plainPath
  let paths := (folder ++ "/.env") :: Settings.defaultFile folder :: paths
  let stored ← paths.mapM fun p ↦ do return (p, ← readStored p)
  return fun path ↦ (stored.lookup path).getD .nothing

def readInput (args : List String) : IO String := do
  match readArguments args with
  | .ok ⟨_, _, .run source _ _ fromInput _ _⟩ =>
    if fromInput || source.all (· == inputName) then (← IO.getStdin).readToEnd else return ""
  | _ => return ""

def main (args : List String) : IO UInt32 := do
  let folder := (← IO.currentDir).toString
  let env ← readEnvironment
  let w : World :=
    { env, files := ← readFiles folder args, folder, input := ← readInput args, replies := []
      visits := 1000000 }
  match outcome? w args with
  | none =>
    IO.eprintln "Error: the run takes too many visits"
    return 1
  | some o =>
    let s := o.session
    let configuration := Log.Configuration.of s.env (s.configured.any (·.1)) none
    for l in Log.lines { configuration with level := 0 } [] (s.log.map (.entry "graphrun")) do
      match l with
      | .console text => IO.eprintln text
      | .json v => IO.eprintln ((Json.writeText .compact v).toOption.getD "")
    IO.print s.output
    IO.eprint s.errors
    if let some r := o.escaped then IO.eprintln (r.kind ++ ": " ++ r.message)
    return (o.exitCode % 256).toNat.toUInt32
