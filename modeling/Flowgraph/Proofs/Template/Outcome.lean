import Flowgraph.Proofs.Template.Balanced
import Flowgraph.Proofs.Template.Demands
import Flowgraph.Run.Progress

namespace Flowgraph

open Act

namespace Template

/-- In the run state `s` an action answers `a`, if it answers, and leaves the run state. -/
def Answers {α : Type} (s : State) (m : Act Journal α) (a : α) : Prop :=
  ∀ ⦃j k : Journal⦄ ⦃b : α⦄, j.state = s → m j = (.ok b, k) → b = a ∧ k.state = s

section

variable {α β : Type} {s : State} {m : Act Journal α} {f : α → Act Journal β} {a : α} {b : β}

theorem Answers.bind (hm : Answers s m a) (hf : Answers s (f a) b) : Answers s (m >>= f) b := by
  intro j k c hj h
  obtain ⟨a', t, hm', hf'⟩ := bind_eq_ok.1 h
  obtain ⟨rfl, ht⟩ := hm hj hm'
  exact hf ht hf'

end

/-- Pieces with some of their placeholders filled. The others stand as they are. -/
def filledPieces (opening : List Char) (text? : String → Option String) : List Piece → List Char
  | [] => []
  | .char c :: ps => c :: filledPieces opening text? ps
  | .hole name :: ps =>
    ((text? (String.ofList name)).map String.toList).getD (holeText opening name) ++
      filledPieces opening text? ps

theorem eq_of_placeholder? {opening text name rest : List Char}
    (h : placeholder? opening text = some (name, rest)) : text = holeText opening name ++ rest := by
  unfold placeholder? at h
  split_ifs at h with hopening
  obtain ⟨r, rfl⟩ := List.isPrefixOf_iff_prefix.1 hopening
  rw [List.drop_left] at h
  dsimp only at h
  have hr := List.prefix_iff_eq_append.1 (List.takeWhile_prefix Expr.isNameChar (l := r))
  split at h
  · next hrest =>
    split_ifs at h
    cases h
    rw [hrest] at hr
    rw [holeText, List.append_assoc, List.append_assoc]
    exact congrArg _ hr.symm
  · contradiction

/-- A text comes from another by filling `n` spans, one after the other, each with the text of the
value that one of the evaluations has given for its expression. -/
inductive Fills (xs : List Evaluation) : ℕ → List Char → List Char → Prop
  | refl (text : List Char) : Fills xs 0 text text
  | fill {x : Evaluation} {v : Value} {shown : String} {n : ℕ}
      {before inner after text : List Char} (hx : x ∈ xs)
      (hspan : closeSpan 2 (inner ++ after) = some (inner, after))
      (hsource : x.source = spanSource inner)
      (hvalue : (Expr.evalText x.runtime x.state x.source).1 = .ok v)
      (hshown : v.display = .ok shown)
      (hrest : Fills xs n (before ++ shown.toList ++ after) text) :
      Fills xs (n + 1) (before ++ '\x7b' :: '\x7b' :: (inner ++ after)) text

theorem Fills.mono {xs ys : List Evaluation} {n : ℕ} {text text' : List Char}
    (h : Fills xs n text text') (hxs : ∀ x ∈ xs, x ∈ ys) : Fills ys n text text' := by
  induction h with
  | refl text => exact .refl _
  | fill hx hspan hsource hvalue hshown _ ih =>
    exact .fill (hxs _ hx) hspan hsource hvalue hshown ih

def almanac : Graph where
  initialState := [(.str "d", .mapping 0 [(.stamp ⟨"2024-01-01", false⟩, .int 1)])]
  nodes := []

end Template

end Flowgraph
