import Flowgraph.Proofs.Template.Closing
import Mathlib.Order.Bounds.Basic

namespace Flowgraph.Template

def surplus (s : List Char) : ℤ := s.count '\x7d' - s.count '\x7b'

@[simp] theorem surplus_nil : surplus [] = 0 := rfl

/-- The depth of a search after one more character. -/
theorem surplus_cons_eq_iff (depth : ℕ) (c : Char) (s : List Char) :
    surplus (c :: s) = ↑(depth + 1) ↔ surplus s =
      ↑(if c == '\x7b' then depth + 2 else if c == '\x7d' then depth else depth + 1) := by
  by_cases ho : c = '\x7b'
  · subst ho
    simp [surplus]
    omega
  · by_cases hc : c = '\x7d'
    · subst hc
      simp [surplus]
      omega
    · simp [surplus, ho, hc]

theorem surplus_take_of_closeSpan_none {depth : ℕ} {s : List Char}
    (h : closeSpan depth s = none) (n : ℕ) : surplus (s.take n) ≠ depth := by
  fun_induction closeSpan depth s generalizing n with
  | case1 s => cases h
  | case2 depth =>
    rw [List.take_nil, surplus_nil]
    omega
  | case3 depth c s after ih =>
    cases n with
    | zero =>
      rw [List.take_zero, surplus_nil]
      omega
    | succ n =>
      rw [List.take_succ_cons, ne_eq, surplus_cons_eq_iff]
      exact ih (Option.map_eq_none_iff.1 h) n

/-- A search stops as soon as the braces it has to close are closed. -/
theorem isLeast_of_closeSpan {depth : ℕ} {s inner rest : List Char}
    (h : closeSpan depth s = some (inner, rest)) :
    IsLeast {n | surplus (s.take n) = depth} inner.length := by
  fun_induction closeSpan depth s generalizing inner with
  | case1 s =>
    cases h
    exact ⟨rfl, fun n _ ↦ Nat.zero_le n⟩
  | case2 depth => cases h
  | case3 depth c s after =>
    rename_i ih
    obtain ⟨⟨inner, rest⟩, hs, ⟨⟩⟩ := Option.map_eq_some_iff.1 h
    obtain ⟨hmem, hle⟩ := ih hs
    refine ⟨(surplus_cons_eq_iff depth c _).2 hmem, fun n hn ↦ ?_⟩
    cases n with
    | zero =>
      rw [Set.mem_ofPred_eq, List.take_zero, surplus_nil] at hn
      omega
    | succ n => exact Nat.succ_le_succ (hle ((surplus_cons_eq_iff depth c _).1 hn))

/-- Where a text has closed two more braces than it has opened, counted from behind the two at an
offset. -/
def closings (text : List Char) (start : ℕ) : Set ℕ :=
  {stop | start + 2 < stop ∧ surplus ((text.take stop).drop (start + 2)) = 2}

section

variable {text inner rest : List Char} {start stop : ℕ}

theorem mem_closings_iff :
    stop ∈ closings text start ↔
      ∃ n, stop = start + 2 + n ∧ surplus ((text.drop (start + 2)).take n) = 2 := by
  have hdrop : (text.take stop).drop (start + 2) =
      (text.drop (start + 2)).take (stop - (start + 2)) := List.drop_take
  rw [closings, Set.mem_ofPred_eq, hdrop]
  constructor
  · rintro ⟨hlt, h⟩
    exact ⟨stop - (start + 2), by omega, h⟩
  · rintro ⟨n, rfl, h⟩
    have hpos : n ≠ 0 := by
      rintro rfl
      simp at h
    rw [Nat.add_sub_cancel_left]
    exact ⟨by omega, h⟩

theorem isLeast_closings (h : closeSpan 2 (text.drop (start + 2)) = some (inner, rest)) :
    IsLeast (closings text start) (start + 2 + inner.length) := by
  obtain ⟨hmem, hle⟩ := isLeast_of_closeSpan h
  refine ⟨mem_closings_iff.2 ⟨_, rfl, hmem⟩, fun stop hstop ↦ ?_⟩
  obtain ⟨n, rfl, hn⟩ := mem_closings_iff.1 hstop
  exact Nat.add_le_add_left (hle hn) _

theorem closings_eq_empty (h : closeSpan 2 (text.drop (start + 2)) = none) :
    closings text start = ∅ := by
  refine Set.eq_empty_of_forall_notMem fun stop hstop ↦ ?_
  obtain ⟨n, rfl, hn⟩ := mem_closings_iff.1 hstop
  exact surplus_take_of_closeSpan_none h n hn

theorem closeSpan_of_spanEnd? (h : spanEnd? text start = some stop) :
    ∃ inner, closeSpan 2 (text.drop (start + 2)) = some (inner, text.drop stop) ∧
      stop = start + 2 + inner.length := by
  obtain ⟨⟨inner, rest⟩, hspan, rfl⟩ := Option.map_eq_some_iff.1 h
  obtain rfl : rest = text.drop (start + 2 + inner.length) := by
    rw [← List.drop_drop, eq_of_closeSpan hspan, List.drop_left]
  exact ⟨inner, hspan, rfl⟩

theorem spanEnd?_of_closeSpan (h : closeSpan 2 (text.drop (start + 2)) = some (inner, rest)) :
    spanEnd? text start = some (start + 2 + inner.length) := by
  rw [spanEnd?, h]
  rfl

theorem two_le_length_of_closeSpan (h : closeSpan 2 text = some (inner, rest)) :
    2 ≤ inner.length := by
  obtain ⟨a, b, -, -, rfl, -⟩ := closeSpan_eq_some_iff.1 h
  simp
  omega

theorem getLast?_of_closeSpan (h : closeSpan 2 text = some (inner, rest)) :
    inner.getLast? = some '\x7d' := by
  obtain ⟨a, b, -, -, rfl, -⟩ := closeSpan_eq_some_iff.1 h
  rw [← List.cons_append, ← List.append_assoc]
  exact List.getLast?_concat

/-- A search does not look behind the braces that it closes. -/
theorem closeSpan_behind (h : closeSpan 2 text = some (inner, rest)) (behind : List Char) :
    closeSpan 2 (inner ++ behind) = some (inner, behind) := by
  obtain ⟨a, b, ha, hb, hinner, -⟩ := closeSpan_eq_some_iff.1 h
  exact closeSpan_eq_some_iff.2 ⟨a, b, ha, hb, hinner, rfl⟩

/-- What stands behind the end of a span has no part in where the end is. -/
theorem spanEnd?_behind (h : spanEnd? text start = some stop) (behind : List Char) :
    spanEnd? (text.take stop ++ behind) start = some stop := by
  obtain ⟨inner, hspan, rfl⟩ := closeSpan_of_spanEnd? h
  have htext := eq_of_closeSpan hspan
  have hlength := congrArg List.length htext
  simp only [List.length_append, List.length_drop] at hlength
  have hinner := two_le_length_of_closeSpan hspan
  have hdrop : (text.take (start + 2 + inner.length) ++ behind).drop (start + 2) =
      inner ++ behind := by
    rw [List.drop_append_of_le_length (by rw [List.length_take]; omega), List.drop_take,
      Nat.add_sub_cancel_left, htext, List.take_left]
  apply spanEnd?_of_closeSpan
  rw [hdrop]
  exact closeSpan_behind hspan behind

/-- The expression of a span lies between its first two and its last two characters. -/
theorem spanSource_eq (h : closeSpan 2 (text.drop (start + 2)) = some (inner, rest)) :
    spanSource inner = String.ofList
      (Text.trim ((text.take (start + 2 + inner.length - 2)).drop (start + 2))) := by
  have hlength := two_le_length_of_closeSpan h
  have hsub : start + 2 + inner.length - 2 - (start + 2) = inner.length - 2 := by omega
  rw [spanSource, List.drop_take, hsub, eq_of_closeSpan h,
    List.take_append_of_le_length (Nat.sub_le _ _)]

end

/-- The end of a span is the least offset up to which two more braces are closed than opened, and a
span has no end just if there is no such offset. Two characters or more stand between the braces at
the front and the end, the last of them a closing brace, so the expression of the span can be cut
out; and the end is the same whatever stands behind it. -/
theorem spanEnd?_isLeast (text : List Char) (start : ℕ) :
    (∀ stop, spanEnd? text start = some stop ↔ IsLeast (closings text start) stop) ∧
    (spanEnd? text start = none ↔ closings text start = ∅) ∧
    ∀ stop, spanEnd? text start = some stop →
      start + 4 ≤ stop ∧ stop ≤ text.length ∧ text[stop - 1]? = some '\x7d' ∧
      (∀ behind, spanEnd? (text.take stop ++ behind) start = some stop) ∧
      ∃ inner, closeSpan 2 (text.drop (start + 2)) = some (inner, text.drop stop) ∧
        spanSource inner =
          String.ofList (Text.trim ((text.take (stop - 2)).drop (start + 2))) := by
  have hsome (stop : ℕ) (h : spanEnd? text start = some stop) :
      IsLeast (closings text start) stop := by
    obtain ⟨inner, hspan, rfl⟩ := closeSpan_of_spanEnd? h
    exact isLeast_closings hspan
  refine ⟨fun stop ↦ ⟨hsome stop, fun h ↦ ?_⟩, ⟨fun h ↦ ?_, fun h ↦ ?_⟩, fun stop h ↦ ?_⟩
  · cases hend : spanEnd? text start with
    | none =>
      rw [closings_eq_empty (Option.map_eq_none_iff.1 hend)] at h
      exact absurd h.1 (Set.notMem_empty stop)
    | some found => rw [(hsome found hend).unique h]
  · exact closings_eq_empty (Option.map_eq_none_iff.1 h)
  · rw [Option.eq_none_iff_forall_ne_some]
    intro stop hstop
    exact Set.notMem_empty stop (h ▸ (hsome stop hstop).1)
  · obtain ⟨inner, hspan, rfl⟩ := closeSpan_of_spanEnd? h
    have htext := eq_of_closeSpan hspan
    have hlength := congrArg List.length htext
    simp only [List.length_append, List.length_drop] at hlength
    have hinner := two_le_length_of_closeSpan hspan
    refine ⟨by omega, by omega, ?_, spanEnd?_behind h, inner, hspan, spanSource_eq hspan⟩
    have hlast : start + 2 + inner.length - 1 = start + 2 + (inner.length - 1) := by omega
    rw [hlast, ← List.getElem?_drop, htext, List.getElem?_append_left (by omega),
      ← List.getLast?_eq_getElem?]
    exact getLast?_of_closeSpan hspan

/-- A span with braces in its expression, and with more text behind it. -/
theorem spanEnd?_isLeast_boxed :
    IsLeast (closings boxed 2) 14 ∧ boxed[13]? = some '\x7d' ∧
      ∀ behind, spanEnd? (boxed.take 14 ++ behind) 2 = some 14 := by
  have h : spanEnd? boxed 2 = some 14 := by decide
  obtain ⟨hleast, -, hstop⟩ := spanEnd?_isLeast boxed 2
  obtain ⟨-, -, hbrace, hbehind, -⟩ := hstop 14 h
  exact ⟨(hleast 14).1 h, hbrace, hbehind⟩

end Flowgraph.Template
