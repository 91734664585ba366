import Flowgraph.Text.Blank

namespace Flowgraph.Template

def closeSpan : Nat → List Char → Option (List Char × List Char)
  | 0, s => some ([], s)
  | _ + 1, [] => none
  | depth + 1, c :: s =>
    let after := if c == '\x7b' then depth + 2 else if c == '\x7d' then depth else depth + 1
    (closeSpan after s).map fun (inner, rest) ↦ (c :: inner, rest)

def spanEnd? (text : List Char) (start : Nat) : Option Nat :=
  (closeSpan 2 (text.drop (start + 2))).map fun (inner, _) ↦ start + 2 + inner.length

/-- The expression of a span: what lies between the braces, without blanks at its ends. -/
def spanSource (inner : List Char) : String :=
  String.ofList (Text.trim (inner.take (inner.length - 2)))

end Flowgraph.Template
