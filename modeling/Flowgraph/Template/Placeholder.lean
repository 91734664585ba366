import Flowgraph.Expr.Token

namespace Flowgraph.Template

/-- A character that stands for itself, or a placeholder by its name. -/
inductive Piece where
  | char (c : Char)
  | hole (name : List Char)

def placeholder? (opening text : List Char) : Option (List Char × List Char) :=
  if opening.isPrefixOf text then
    let r := text.drop opening.length
    let name := r.takeWhile Expr.isNameChar
    match r.drop name.length with
    | '\x7d' :: rest => if name.head?.any Expr.isNameStart then some (name, rest) else none
    | _ => none
  else none

theorem length_of_placeholder? {opening text name rest : List Char}
    (h : placeholder? opening text = some (name, rest)) : rest.length < text.length := by
  unfold placeholder? at h
  split at h
  · dsimp only at h
    split at h
    · next r hr =>
      have hl := congrArg List.length hr
      simp only [List.length_drop, List.length_cons] at hl
      split at h
      · obtain ⟨-, rfl⟩ := Prod.mk.inj (Option.some.inj h)
        omega
      · simp at h
    · simp at h
  · simp at h

def pieces (opening text : List Char) : List Piece :=
  match text with
  | [] => []
  | c :: s =>
    match h : placeholder? opening (c :: s) with
    | some (name, rest) =>
      have := length_of_placeholder? h
      .hole name :: pieces opening rest
    | none => .char c :: pieces opening s
termination_by text.length
decreasing_by
  · assumption
  · exact Nat.lt_succ_self s.length

def holeText (opening name : List Char) : List Char := opening ++ name ++ ['\x7d']

end Flowgraph.Template
