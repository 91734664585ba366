import Flowgraph.Value.Mark

namespace Flowgraph.Expr

/-- What a method answers, or the message of what it raises, and the containers it has changed in
either case. -/
structure Reply where
  answer : Except String Value
  edits : List Edit := []

namespace Reply

def refuse : Reply := ⟨.error "refused", []⟩

def ofOption : Option Value → Reply
  | some v => ⟨.ok v, []⟩
  | none => refuse

end Reply

/-- The methods that values have by their type, as the language provides them: which can be called
on a value, and what a call comes to. Marks from `next` on are free for what a call puts into a
container. -/
structure Methods where
  has : Value → String → Bool
  call (next : Nat) (v : Value) (method : String) (args : List Value) : Reply

end Flowgraph.Expr
