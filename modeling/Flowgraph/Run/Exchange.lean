import Flowgraph.Document.Basic
import Flowgraph.Fault
import Flowgraph.Json.Reader
import Flowgraph.Text.Blank
import Flowgraph.Text.Case

namespace Flowgraph.Run

/-- A request as it is sent, with the seconds that it may take. -/
structure Outgoing where
  method : String
  url : String
  headers : Headers
  body : Option String
  timeout : Float

inductive Response where
  | received (status : Int) (body : String)
  | refused (message : String)
  | timedOut
  | failed (r : Report)

/-- A response, and whether the run was told to stop while it was awaited. -/
structure Reply where
  response : Response
  stops : Bool := false

inductive BodyFault where
  | empty
  | json (e : Json.ReadError)

def BodyFault.message : BodyFault → String
  | empty => "empty body"
  | json e => e.message

def readBody (room : Nat) (body : String) : Except BodyFault Value :=
  if body.toList.all Text.isBlank then .error .empty
  else (Json.read room body.toList).mapError .json

def contentType : String := "Content-Type"

def isContentType (name : String) : Bool :=
  String.ofList (Text.toLower name.toList) == "content-type"

def setHeader : Headers → String → String → Headers
  | [], n, v => [(n, v)]
  | h :: hs, n, v => if h.1 == n then (n, v) :: hs else h :: setHeader hs n v

/-- The headers of a request: its own come before those that all requests share. The type of the
body is told if and only if there is a body. -/
def joinHeaders (shared own : Headers) (hasBody : Bool) : Headers :=
  let hs := own.foldl (fun hs h ↦ setHeader hs h.1 h.2) shared
  if !hasBody then hs.filter fun h ↦ !isContentType h.1
  else if hs.any fun h ↦ isContentType h.1 then hs
  else hs ++ [(contentType, "application/json")]

end Flowgraph.Run
