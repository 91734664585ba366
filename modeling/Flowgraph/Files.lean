import Flowgraph.Text.FileName
import Flowgraph.Text.Utf8

namespace Flowgraph

inductive Stored where
  | octets (os : List UInt8)
  | folder
  | nothing
  | beneathFile

namespace Stored

def isThere : Stored → Bool
  | octets _ | folder => true
  | _ => false

def read : Stored → Except String (List UInt8)
  | octets os => .ok os
  | folder => .error "Is a directory"
  | nothing => .error "No such file or directory"
  | beneathFile => .error "Not a directory"

end Stored

/-- The files that a program sees, by their plain paths. -/
abbrev Files := String → Stored

def Text.ofOctets (os : List UInt8) : Except Text.Utf8Fault String :=
  (fun s ↦ String.ofList (Text.unifyLineEnds s.toList)) <$> Text.decodeUtf8 os

end Flowgraph
