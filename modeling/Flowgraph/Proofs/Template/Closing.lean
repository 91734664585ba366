import Flowgraph.Proofs.Template.Filling

namespace Flowgraph.Template

open Flowgraph.Expr

/-- A search that has braces to close goes past a paired text and closes one of them. -/
theorem exists_of_closeSpan {depth : ℕ} {s inner rest : List Char}
    (h : closeSpan (depth + 1) s = some (inner, rest)) :
    ∃ a b, inner = a ++ '\x7d' :: b ∧ Paired a ∧ closeSpan depth (b ++ rest) = some (b, rest) := by
  induction hn : s.length using Nat.strong_induction_on generalizing depth s inner with
  | _ n ih =>
    subst hn
    match s, h with
    | c :: s, h =>
      by_cases ho : c = '\x7b'
      · -- One more brace has to be closed, so the search does what is stated twice.
        subst ho
        rw [closeSpan_open] at h
        obtain ⟨⟨inner, rest⟩, h, ⟨⟩⟩ := Option.map_eq_some_iff.1 h
        have hs := congrArg List.length (eq_of_closeSpan h)
        obtain ⟨a, t, rfl, ha, ht⟩ := ih s.length (Nat.lt_succ_self _) h rfl
        simp only [List.length_append, List.length_cons] at hs
        obtain ⟨b, u, rfl, hb, hu⟩ := ih (t ++ rest).length (by simp; omega) ht rfl
        exact ⟨'\x7b' :: (a ++ '\x7d' :: b), u, by simp, .group ha hb, hu⟩
      · by_cases hc : c = '\x7d'
        · subst hc
          rw [closeSpan_close] at h
          obtain ⟨⟨inner, rest⟩, h, ⟨⟩⟩ := Option.map_eq_some_iff.1 h
          refine ⟨[], inner, rfl, .nil, ?_⟩
          rwa [← eq_of_closeSpan h]
        · rw [closeSpan_plain ho hc] at h
          obtain ⟨⟨inner, rest⟩, h, ⟨⟩⟩ := Option.map_eq_some_iff.1 h
          obtain ⟨a, b, rfl, ha, hb⟩ := ih s.length (Nat.lt_succ_self _) h rfl
          exact ⟨c :: a, b, rfl, .plain ho hc ha, hb⟩

/-- A span ends with the second brace that is closed and not opened in it. -/
theorem closeSpan_eq_some_iff {s inner rest : List Char} :
    closeSpan 2 s = some (inner, rest) ↔
      ∃ a b, Paired a ∧ Paired b ∧ inner = a ++ '\x7d' :: (b ++ ['\x7d']) ∧ s = inner ++ rest := by
  constructor
  · intro h
    obtain ⟨a, t, rfl, ha, ht⟩ := exists_of_closeSpan h
    obtain ⟨b, u, rfl, hb, hu⟩ := exists_of_closeSpan ht
    rw [closeSpan_zero] at hu
    cases hu
    exact ⟨a, b, ha, hb, rfl, eq_of_closeSpan h⟩
  · rintro ⟨a, b, ha, hb, rfl, rfl⟩
    simp only [List.append_assoc, List.cons_append, List.nil_append]
    rw [closeSpan_append ha, closeSpan_close, closeSpan_append hb, closeSpan_close, closeSpan_zero]
    simp

/-- A paired text closes no brace but those that it opens. -/
theorem not_paired {a b : List Char} (ha : Paired a) : ¬ Paired (a ++ '\x7d' :: b) := by
  intro h
  have hnone := closeSpan_append h 0 []
  rw [List.append_nil, closeSpan_append ha, closeSpan_close, closeSpan_zero] at hnone
  simp [closeSpan] at hnone

/-- The last two characters of a span whose closing braces stand apart. -/
theorem span_concat (a b : List Char) (c : Char) :
    a ++ '\x7d' :: (b ++ [c] ++ ['\x7d']) = a ++ '\x7d' :: b ++ [c, '\x7d'] := by
  simp

/-- From the first offset to the second stands a span. Its last brace closes the first of those at
its front, and the brace between `a` and `b` the second. -/
structure IsSpan (text : List Char) (start stop : ℕ) (a b : List Char) : Prop where
  cut : (text.take stop).drop start = '\x7b' :: '\x7b' :: (a ++ '\x7d' :: (b ++ ['\x7d']))
  stop_le : stop ≤ text.length
  left : Paired a
  right : Paired b

section

variable {text a b : List Char} {start stop : ℕ}

theorem spanEnd?_eq_some_iff (hopen : ['\x7b', '\x7b'] <+: text.drop start) :
    spanEnd? text start = some stop ↔ ∃ a b, IsSpan text start stop a b := by
  obtain ⟨s, hs⟩ := hopen
  have hdrop : text.drop (start + 2) = s := by
    rw [← List.drop_drop, ← hs]
    rfl
  unfold spanEnd?
  rw [hdrop]
  constructor
  · intro h
    obtain ⟨⟨inner, rest⟩, hspan, rfl⟩ := Option.map_eq_some_iff.1 h
    obtain ⟨a, b, ha, hb, rfl, rfl⟩ := closeSpan_eq_some_iff.1 hspan
    have hlength := congrArg List.length hs
    simp only [List.length_append, List.length_cons, List.length_drop, List.length_nil] at hlength
    refine ⟨a, b, ?_, ?_, ha, hb⟩
    · rw [List.drop_take, ← hs, ← List.append_assoc]
      exact List.take_left' (by simp; omega)
    · simp
      omega
  · rintro ⟨a, b, hcut, hstop, ha, hb⟩
    have hlength := congrArg List.length hcut
    simp only [List.length_append, List.length_cons, List.length_drop, List.length_take,
      List.length_nil] at hlength
    have hrest : text.drop start = (text.take stop).drop start ++ text.drop stop := by
      rw [← List.drop_append_of_le_length (by rw [List.length_take]; omega), List.take_append_drop]
    rw [hcut, ← hs] at hrest
    obtain rfl : s = a ++ '\x7d' :: (b ++ ['\x7d']) ++ text.drop stop := by
      simpa using hrest
    rw [closeSpan_eq_some_iff.2 ⟨a, b, ha, hb, rfl, rfl⟩, Option.map_some, Option.some_inj]
    simp only [List.length_append, List.length_cons, List.length_nil]
    omega

theorem IsSpan.stop_eq (h : IsSpan text start stop a b) :
    stop = start + (a.length + b.length + 4) := by
  have hlength := congrArg List.length h.cut
  have hstop := h.stop_le
  simp only [List.length_append, List.length_cons, List.length_drop, List.length_take,
    List.length_nil] at hlength
  omega

/-- A part of a span, by its distances from the front. -/
theorem IsSpan.slice (h : IsSpan text start stop a b) {i j : ℕ} (hj : start + j ≤ stop) :
    (text.take (start + j)).drop (start + i) =
      (('\x7b' :: '\x7b' :: (a ++ '\x7d' :: (b ++ ['\x7d']))).take j).drop i := by
  rw [← h.cut]
  simp only [List.drop_take, List.drop_drop, List.take_take]
  congr 1
  omega

/-- What remains of a span without two characters at either end. -/
theorem IsSpan.inner_eq (h : IsSpan text start stop a b) :
    (text.take (stop - 2)).drop (start + 2) =
      (a ++ '\x7d' :: (b ++ ['\x7d'])).take (a.length + b.length) := by
  have hstop := h.stop_eq
  have hinner : stop - 2 = start + (a.length + b.length + 2) := by omega
  rw [hinner, h.slice (by omega)]
  rfl

theorem IsSpan.inner_eq_iff (h : IsSpan text start stop a b) :
    (text.take (stop - 2)).drop (start + 2) = a ↔ b = [] := by
  rw [h.inner_eq]
  constructor
  · intro ha
    have hlength := congrArg List.length ha
    simpa using hlength
  · rintro rfl
    simp

theorem IsSpan.closing_eq_iff (h : IsSpan text start stop a b) :
    (text.take stop).drop (stop - 2) = ['\x7d', '\x7d'] ↔ b = [] ∨ b.getLast? = some '\x7d' := by
  obtain rfl := h.stop_eq
  have hend : (text.take (start + (a.length + b.length + 4))).drop
      (start + (a.length + b.length + 4) - 2) =
        (a ++ '\x7d' :: (b ++ ['\x7d'])).drop (a.length + b.length) := by
    have hdrop : start + (a.length + b.length + 4) - 2 = start + (a.length + b.length + 2) := by
      omega
    rw [hdrop, h.slice le_rfl, List.take_of_length_le (by simp; omega)]
    rfl
  rw [hend]
  obtain rfl | ⟨b, c, rfl⟩ := List.eq_nil_or_concat' b
  · simp
  · rw [span_concat, List.drop_left' (by simp)]
    simp

/-- If an expression whose strings have no braces is cut out, its closing braces stand together. -/
theorem IsSpan.right_eq_nil (h : IsSpan text start stop a b)
    (hsource : Braceless (trimmed ((text.take (stop - 2)).drop (start + 2)))) : b = [] := by
  have hpaired := hsource.balanced.paired
  rw [h.inner_eq] at hpaired
  obtain rfl | ⟨b, c, rfl⟩ := List.eq_nil_or_concat' b
  · rfl
  · refine absurd ?_ (not_paired (b := b) h.left)
    rwa [span_concat, List.take_left' (by simp)] at hpaired

/-- The last brace of a span closes the first of the two at its front, and the second is closed
somewhere before. Two characters less at either end leave the text before both closing braces just
if these stand together, and the two characters at the end are braces just if they stand together or
there is another brace between. They stand together if an expression without braces in strings is
cut out, and where such an expression stands between two braces on either side, the span ends with
these. -/
theorem spanEnd?_closing (hopen : ['\x7b', '\x7b'] <+: text.drop start)
    (hstop : spanEnd? text start = some stop) :
    (∃ a b, IsSpan text start stop a b ∧
      ((text.take (stop - 2)).drop (start + 2) = a ↔ b = []) ∧
      ((text.take stop).drop (stop - 2) = ['\x7d', '\x7d'] ↔
        b = [] ∨ b.getLast? = some '\x7d') ∧
      (Braceless (trimmed ((text.take (stop - 2)).drop (start + 2))) → b = [])) ∧
    ∀ inner, Braceless (trimmed inner) →
      '\x7b' :: '\x7b' :: (inner ++ ['\x7d', '\x7d']) <+: text.drop start →
      stop = start + inner.length + 4 := by
  obtain ⟨a, b, h⟩ := (spanEnd?_eq_some_iff hopen).1 hstop
  refine ⟨⟨a, b, h, h.inner_eq_iff, h.closing_eq_iff, h.right_eq_nil⟩, fun inner hinner hfront ↦ ?_⟩
  obtain ⟨rest, hrest⟩ := hfront
  have hdrop : text.drop (start + 2) = inner ++ '\x7d' :: '\x7d' :: rest := by
    rw [← List.drop_drop, ← hrest]
    simp
  unfold spanEnd? at hstop
  rw [hdrop, closeSpan_of_balanced hinner.balanced, Option.map_some, Option.some_inj] at hstop
  simp only [List.length_append, List.length_cons, List.length_nil] at hstop
  omega

end

def boxed : List Char := "a \x7b\x7b \x7bk: 1\x7d \x7d\x7d b".toList

theorem spanEnd?_closing_boxed :
    ['\x7b', '\x7b'] <+: boxed.drop 2 ∧ spanEnd? boxed 2 = some 14 ∧
      IsSpan boxed 2 14 " \x7bk: 1\x7d ".toList [] := by
  have hopen : ['\x7b', '\x7b'] <+: boxed.drop 2 := by decide
  have hstop : spanEnd? boxed 2 = some 14 := by decide
  obtain ⟨⟨a, b, h, hinner, -, hsource⟩, -⟩ := spanEnd?_closing hopen hstop
  have hobject : Braceless "\x7bk: 1\x7d" :=
    ⟨.object [("k", .literal (.int 1))],
      [⟨.mark .openBrace, 0⟩, ⟨.identifier "k", 1⟩, ⟨.mark .colon, 2⟩, ⟨.number "1", 4⟩,
        ⟨.mark .closeBrace, 5⟩], by cbv, by cbv, by simp⟩
  obtain rfl := hsource hobject
  obtain rfl := hinner.2 rfl
  exact ⟨hopen, hstop, h⟩

def stray : String := "\x7b\x7b '\x7d' \x7d"

/-- The span does not end with two closing braces, and is filled all the same. -/
theorem spanEnd?_stray :
    ['\x7b', '\x7b'] <+: stray.toList.drop 0 ∧ spanEnd? stray.toList 0 = some 8 ∧
      (stray.toList.take 8).drop (8 - 2) ≠ ['\x7d', '\x7d'] ∧
      (interpolate ⟨fun _ ↦ none, 1, .standard⟩ stray { state := ⟨[], 1⟩ }).1 = .ok "\x7d" := by
  refine ⟨by decide, by decide, by decide, by cbv⟩

end Flowgraph.Template
