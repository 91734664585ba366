import Flowgraph.Text.Range

namespace Flowgraph.Yaml

inductive Fault where
  | malformed (line : Option Nat)
  /-- A tagged scalar that does not have the form its tag asks for. -/
  | scalar (kind message : String)
  | tooDeep

def malformedText : String := "the text is not well-formed YAML"

/-- What is left of a text, and where that begins. Lines and columns are counted from zero. -/
structure Cursor where
  rest : List Char
  index : Nat := 0
  line : Nat := 0
  column : Nat := 0

def endMark : Char := '\x00'

def isBreak (c : Char) : Bool :=
  c == '\n' || c == '\r' || c == '\x85' || c == '\u2028' || c == '\u2029'

def isEndOrBreak (c : Char) : Bool := c == endMark || isBreak c

def isEndOrSpace (c : Char) : Bool := isEndOrBreak c || c == ' '

def isGap (c : Char) : Bool := isEndOrSpace c || c == '\t'

def isWordChar (c : Char) : Bool := c.isAlphanum || c == '-' || c == '_'

namespace Cursor

def peek (c : Cursor) (n : Nat := 0) : Char := c.rest.getD n endMark

def atEnd (c : Cursor) : Bool := c.rest.isEmpty

def next (c : Cursor) : Cursor :=
  match c.rest with
  | [] => c
  | a :: r =>
    let breaks := a == '\n' || a == '\x85' || a == '\u2028' || a == '\u2029' ||
      (a == '\r' && r.head? != some '\n')
    { rest := r
      index := c.index + 1
      line := if breaks then c.line + 1 else c.line
      column := if breaks then 0 else if a == '\uFEFF' then c.column else c.column + 1 }

def forward (c : Cursor) : Nat → Cursor
  | 0 => c
  | n + 1 => c.next.forward n

/-- The longest run of characters from here on that satisfy a test, and the place behind it. -/
def span (c : Cursor) (p : Char → Bool) : List Char × Cursor :=
  let run := c.rest.takeWhile p
  (run, c.forward run.length)

def skip (c : Cursor) (p : Char → Bool) : Cursor := (c.span p).2

def lineBreak (c : Cursor) : List Char × Cursor :=
  match c.rest with
  | '\r' :: '\n' :: _ => (['\n'], c.forward 2)
  | a :: _ =>
    if a == '\n' || a == '\r' || a == '\x85' then (['\n'], c.next)
    else if a == '\u2028' || a == '\u2029' then ([a], c.next)
    else ([], c)
  | [] => ([], c)

def atSeparator (c : Cursor) : Bool :=
  (c.rest.take 3 == ['-', '-', '-'] || c.rest.take 3 == ['.', '.', '.']) && isGap (c.peek 3)

end Cursor

end Flowgraph.Yaml
