import Mathlib.Data.List.Infix

namespace Flowgraph

/-- A reading of `s` leaves a suffix of it, or fails with a fault whose culprit stands in `s`. -/
structure Reads {ε α : Type} (Culprit : ε → List Char → Prop) (rest : α → List Char)
    (s : List Char) (r : Except ε α) : Prop where
  left : ∀ a, r = .ok a → rest a <:+ s
  culprit : ∀ e, r = .error e → ∃ u, u <:+: s ∧ Culprit e u

section

variable {ε α β : Type} {Culprit : ε → List Char → Prop} {rest : α → List Char}
  {rest' : β → List Char} {s t u : List Char} {r : Except ε α} {f : α → Except ε β} {a : α} {e : ε}

theorem reads_ok (h : rest a <:+ s) : Reads Culprit rest s (.ok a) where
  left := by
    rintro b ⟨⟩
    exact h
  culprit := by rintro e ⟨⟩

theorem reads_error (hu : u <:+: s) (h : Culprit e u) : Reads Culprit rest s (.error e) where
  left := by rintro b ⟨⟩
  culprit := by
    rintro e' ⟨⟩
    exact ⟨u, hu, h⟩

theorem Reads.of_suffix (h : Reads Culprit rest s r) (hs : s <:+ t) : Reads Culprit rest t r where
  left a ha := (h.left a ha).trans hs
  culprit e he := by
    obtain ⟨u, hu, hculprit⟩ := h.culprit e he
    exact ⟨u, hu.trans hs.isInfix, hculprit⟩

theorem Reads.bind (h : Reads Culprit rest s r) (hf : ∀ a, Reads Culprit rest' (rest a) (f a)) :
    Reads Culprit rest' s (r >>= f) := by
  cases r with
  | ok a => exact (hf a).of_suffix (h.left a rfl)
  | error e =>
    obtain ⟨u, hu, hculprit⟩ := h.culprit e rfl
    exact reads_error hu hculprit

theorem suffix_of_cons {c : Char} (h : c :: s <:+ t) : s <:+ t := (List.suffix_cons c s).trans h

end

end Flowgraph
