import Flowgraph.Text.Digit
import Flowgraph.Value.Literal

namespace Flowgraph

/-- A segment of digits that no index can be read from. -/
inductive PathFault where
  | notDecimal (segment : String)
  | longIndex (digits : Nat)
deriving DecidableEq

def PathFault.message : PathFault → String
  | notDecimal s => "invalid literal for int() with base 10: " ++ Text.quoted s
  | longIndex n => Number.longNumeralText n

namespace Text

/-- The parts of a text between the occurrences of a character; always at least one. -/
def splitAt (sep : Char) : List Char → List (List Char)
  | [] => [[]]
  | c :: cs =>
    if c == sep then [] :: splitAt sep cs
    else match splitAt sep cs with
      | p :: ps => (c :: p) :: ps
      | [] => [[c]]

end Text

namespace Value

def segmentIndex (segment : List Char) : Except PathFault Nat :=
  match segment.mapM Text.decimalValue? with
  | none => .error (.notDecimal (String.ofList segment))
  | some ds =>
    if Number.longestInteger < ds.length then .error (.longIndex ds.length)
    else .ok (ds.foldl (10 * · + ·) 0)

/-- One step of a path: a member of a mapping, or an item of a list by its index. -/
def step (v : Value) (segment : List Char) : Except PathFault Value :=
  match v with
  | .mapping _ es => .ok (Entries.get es (.str (String.ofList segment)))
  | .list _ vs =>
    if !segment.isEmpty && segment.all Text.isDigit then
      (fun i ↦ vs.getD i .undefined) <$> segmentIndex segment
    else .ok .undefined
  | _ => .ok .undefined

def getPath (v : Value) (path : String) : Except PathFault Value :=
  (Text.splitAt '.' path.toList).foldlM step v

end Value

end Flowgraph
