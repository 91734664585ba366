import Flowgraph.Value.Literal

namespace Flowgraph.Document

/-- A fault with its place, the outermost step first. -/
structure Misfit where
  place : List String
  message : String

def Misfit.text (m : Misfit) : String := String.intercalate "." m.place ++ ": " ++ m.message

/-- What a check made of a value, or all that is wrong with it. -/
inductive Checked (α : Type) where
  | fits (a : α)
  | misfits (first : Misfit) (others : List Misfit)

namespace Checked

variable {α β : Type}

def fault (message : String) : Checked α := .misfits ⟨[], message⟩ []

def apply (f : Checked (α → β)) (a : Checked α) : Checked β :=
  match f, a with
  | .fits f, .fits a => .fits (f a)
  | .fits _, .misfits m ms => .misfits m ms
  | .misfits m ms, .fits _ => .misfits m ms
  | .misfits m ms, .misfits n ns => .misfits m (ms ++ n :: ns)

instance : Applicative Checked where
  pure := .fits
  seq f a := apply f (a ())

def «at» (step : String) (a : Checked α) : Checked α :=
  let move (m : Misfit) : Misfit := { m with place := step :: m.place }
  match a with
  | .fits a => .fits a
  | .misfits m ms => .misfits (move m) (ms.map move)

def andThen (a : Checked α) (f : α → Checked β) : Checked β :=
  match a with
  | .fits a => f a
  | .misfits m ms => .misfits m ms

def toExcept : Checked α → Except (List Misfit) α
  | .fits a => .ok a
  | .misfits m ms => .error (m :: ms)

end Checked

abbrev Check (α : Type) := Value → Checked α

/-- What tells of which variant of a union a value is. -/
inductive Discriminator where
  | key (name : String)
  | function (name : String) (tag? : Value → Option String)

def Discriminator.tag? : Discriminator → Value → Option String
  | key name, .mapping _ es =>
    match Entries.get? es (.str name) with
    | some (.str tag) => some tag
    | _ => none
  | key _, _ => none
  | function _ tag?, v => tag? v

/-- The fields of a record, in order, and what is made of them. A field has one name or more, of
which the first that is there counts, and perhaps a value for when none is. -/
inductive Fields : Type → Type 1 where
  | made {α : Type} (a : α) : Fields α
  | field {α β : Type} (front : Fields (α → β)) (names : List String) (default : Option α)
    (check : Check α) : Fields β

namespace Fields

variable {α β : Type}

def required (front : Fields (α → β)) (names : List String) (check : Check α) : Fields β :=
  front.field names none check

def optional (front : Fields (α → β)) (names : List String) (default : α) (check : Check α) :
    Fields β :=
  front.field names (some default) check

end Fields

def findField (names : List String) (es : Entries) : Option (String × Value) :=
  names.findSome? fun n ↦ (Entries.get? es (.str n)).map (n, ·)

/-- What raw values are checked with: a check for each kind of value that a schema can ask for. -/
structure Library where
  anything : Check Value
  string : Check String
  minLength (length : Nat) : Check String
  literal (words : List String) : Check String
  integer : Check Int
  float : Check Float
  atLeast (low : Float) : Check Float
  truth : Check Bool
  nullable {α : Type} (check : Check α) : Check (Option α)
  list {α : Type} (check : Check α) : Check (List α)
  table {α : Type} (check : Check α) : Check (List (String × α))
  record {α : Type} (name : String) (fields : Fields α) : Check α
  union {α : Type} (d : Discriminator) (variants : List (String × Check α)) : Check α
  /-- Checks what a function makes of a value; the function may refuse it. -/
  before {α : Type} (f : Value → Except String Value) (check : Check α) : Check α
  after {α β : Type} (f : α → β) (check : Check α) : Check β
  /-- How deep records of kinds that contain one another may nest. -/
  depth : Nat
  tooDeep : String

end Flowgraph.Document
