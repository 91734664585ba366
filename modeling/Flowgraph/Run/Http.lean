import Flowgraph.Run.Progress

namespace Flowgraph.Run

def nextReply : Act Progress Reply := fun p ↦
  match p.replies with
  | r :: rs => (.ok r, { p with replies := rs })
  | [] => (.ok { response := .refused "no response left" }, p)

def interpolateHeaders (s : Setup) : Headers → Act Progress Headers
  | [] => pure []
  | (n, v) :: hs => do
    let v ← onJournal (Template.interpolate s.source v)
    return (n, v) :: (← interpolateHeaders s hs)

def prepare (s : Setup) (r : Request) : Act Progress Outgoing := do
  let url ← onJournal (Template.interpolate s.source (s.options.baseUrl ++ r.endpoint))
  let hasBody := !(r.body matches .null)
  let body ← onJournal (Template.interpolateValue s.source r.body)
  let headers ← interpolateHeaders s (joinHeaders s.options.headers r.headers hasBody)
  let request (body : Option String) : Outgoing :=
    ⟨r.method, url, headers, body, s.settings.timeout⟩
  if hasBody then
    match Json.writeText .request body with
    | .ok text => return request (some text)
    | .error e => Act.fail (.http r.method url
        ("Request body is not JSON serializable: " ++ e.message) none)
  else return request none

def send (s : Setup) (o : Outgoing) : Act Progress Response := do
  Act.modify fun p ↦ { p with requests := p.requests ++ [o] }
  let reply ← nextReply
  heed s reply.stops
  return reply.response

def noteStatus (o : Outgoing) (label : String) (status : Int) : Act Progress Unit :=
  if status < 200 || 300 ≤ status then
    onJournal (note .warning
      ("HTTP " ++ o.method ++ " " ++ o.url ++ " returned status " ++ toString status)
      [("node", .str label), ("status", .int status)])
  else pure ()

def receive (s : Setup) (o : Outgoing) (label : String) (status : Int) (body : String) :
    Act Progress Value := do
  noteStatus o label status
  match readBody s.room body with
  | .ok v => return v
  | .error (.json ⟨.tooDeep, _⟩) => Act.fail .tooDeep
  | .error e => Act.fail (.http o.method o.url ("Response is not valid JSON: " ++ e.message)
      (some status))

def payloadText (v : Value) : Act Progress String :=
  Act.ofExcept ((Json.writeText .request v).mapError .text)

def traceBody (s : Setup) (o : Outgoing) (label : String) : Act Progress Unit :=
  match o.body with
  | some text => trace s ("Body: " ++ text) [("node", .str label)]
  | none => pure ()

def store (r : Request) (payload : Value) : Act Progress Unit :=
  match r.mutate with
  | some name =>
    if name.isEmpty then pure ()
    else Act.modify fun p ↦
      { p with journal := { p.journal with state := p.journal.state.set name payload } }
  | none => pure ()

/-- Sends the request of an executor and puts the response under its name in the run state. -/
def runRequest (s : Setup) (r : Request) (label : String) : Act Progress Value := do
  let o ← prepare s r
  trace s ("HTTP " ++ o.method ++ " " ++ o.url) [("node", .str label)]
  traceBody s o label
  match ← send s o with
  | .timedOut => Act.fail (.http o.method o.url
      ("Request timed out after " ++ Number.generalText s.settings.timeout ++ "s") none)
  | .refused message => Act.fail (.http o.method o.url ("Client error: " ++ message) none)
  | .failed report => Act.fail (.reported report)
  | .received status body =>
    let payload ← receive s o label status body
    trace s ("Response: " ++ (← payloadText payload)) [("node", .str label)]
    store r payload
    return payload

end Flowgraph.Run
