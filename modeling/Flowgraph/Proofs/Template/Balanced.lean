import Flowgraph.Proofs.Expr.Grammar
import Flowgraph.Proofs.Expr.Spelling
import Flowgraph.Template.Span

namespace Flowgraph.Template

open Flowgraph.Expr

section

variable {α : Type} {o c : α}

/-- Rows in which each `o` has its `c` behind it, and no `o` stands right behind another. -/
inductive Balanced (o c : α) : List α → Prop
  | nil : Balanced o c []
  | plain {a : α} {s : List α} : a ≠ o → a ≠ c → Balanced o c s → Balanced o c (a :: s)
  | group {s t : List α} : Balanced o c s → s.head? ≠ some o → Balanced o c t →
      Balanced o c (o :: (s ++ c :: t))

theorem Balanced.append {s t : List α} (hs : Balanced o c s) (ht : Balanced o c t) :
    Balanced o c (s ++ t) := by
  induction hs with
  | nil => exact ht
  | plain ho hc _ ih => exact .plain ho hc ih
  | group hs hh _ _ ih =>
    rw [List.cons_append, List.append_assoc, List.cons_append]
    exact .group hs hh ih

theorem Balanced.of_forall {s : List α} (h : ∀ a ∈ s, a ≠ o ∧ a ≠ c) : Balanced o c s := by
  induction s with
  | nil => exact .nil
  | cons a s ih =>
    obtain ⟨ha, hs⟩ := List.forall_mem_cons.1 h
    exact .plain ha.1 ha.2 (ih hs)

end

def Plain (s : List Char) : Prop := ∀ c ∈ s, c ≠ '\x7b' ∧ c ≠ '\x7d'

instance (s : List Char) : Decidable (Plain s) := List.decidableBAll _ s

theorem plain_nil : Plain [] := List.forall_mem_nil _

theorem plain_cons {c : Char} {s : List Char} :
    Plain (c :: s) ↔ (c ≠ '\x7b' ∧ c ≠ '\x7d') ∧ Plain s := List.forall_mem_cons

abbrev BalancedText : List Char → Prop := Balanced '\x7b' '\x7d'

theorem Plain.balanced {s : List Char} (h : Plain s) : BalancedText s := .of_forall h

theorem Plain.head? {s : List Char} (h : Plain s) : s.head? ≠ some '\x7b' := by
  intro hs
  obtain ⟨t, rfl⟩ := List.head?_eq_some_iff.1 hs
  exact (plain_cons.1 h).1.1 rfl

/-- Texts in which each opening brace has its closing brace behind it. -/
inductive Paired : List Char → Prop
  | nil : Paired []
  | plain {c : Char} {s : List Char} : c ≠ '\x7b' → c ≠ '\x7d' → Paired s → Paired (c :: s)
  | group {s t : List Char} : Paired s → Paired t → Paired ('\x7b' :: (s ++ '\x7d' :: t))

theorem Balanced.paired {s : List Char} (h : BalancedText s) : Paired s := by
  induction h with
  | nil => exact .nil
  | plain ho hc _ ih => exact .plain ho hc ih
  | group _ _ _ ihs iht => exact .group ihs iht

theorem eq_of_closeSpan {depth : ℕ} {s inner after : List Char}
    (h : closeSpan depth s = some (inner, after)) : s = inner ++ after := by
  revert inner
  fun_induction closeSpan depth s with
  | case1 s =>
    rintro inner ⟨⟩
    rfl
  | case2 depth => rintro inner ⟨⟩
  | case3 depth c s next =>
    rename_i ih
    intro inner h
    obtain ⟨⟨inner', after'⟩, h', ⟨⟩⟩ := Option.map_eq_some_iff.1 h
    rw [ih h', List.cons_append]

theorem closeSpan_zero (s : List Char) : closeSpan 0 s = some ([], s) := by
  cases s <;> rfl

theorem closeSpan_open (depth : ℕ) (s : List Char) :
    closeSpan (depth + 1) ('\x7b' :: s) =
      (closeSpan (depth + 2) s).map fun (inner, rest) ↦ ('\x7b' :: inner, rest) := rfl

theorem closeSpan_close (depth : ℕ) (s : List Char) :
    closeSpan (depth + 1) ('\x7d' :: s) =
      (closeSpan depth s).map fun (inner, rest) ↦ ('\x7d' :: inner, rest) := rfl

theorem closeSpan_plain {c : Char} (ho : c ≠ '\x7b') (hc : c ≠ '\x7d') (depth : ℕ)
    (s : List Char) :
    closeSpan (depth + 1) (c :: s) =
      (closeSpan (depth + 1) s).map fun (inner, rest) ↦ (c :: inner, rest) := by
  rw [closeSpan]
  simp only [beq_iff_eq, if_neg ho, if_neg hc]

theorem closeSpan_append {s : List Char} (h : Paired s) (depth : ℕ) (t : List Char) :
    closeSpan (depth + 1) (s ++ t) =
      (closeSpan (depth + 1) t).map fun (inner, rest) ↦ (s ++ inner, rest) := by
  induction h generalizing depth t with
  | nil => simp
  | plain ho hc _ ih =>
    rw [List.cons_append, closeSpan_plain ho hc, ih, Option.map_map]
    rfl
  | @group s u _ _ ihs ihu =>
    rw [List.cons_append, List.append_assoc, List.cons_append, closeSpan_open, ihs,
      closeSpan_close, ihu]
    simp only [Option.map_map]
    congr 1
    funext ⟨inner, rest⟩
    simp

/-- A span ends behind the two braces that follow its balanced text. -/
theorem closeSpan_of_balanced {s : List Char} (h : BalancedText s) (t : List Char) :
    closeSpan 2 (s ++ '\x7d' :: '\x7d' :: t) = some (s ++ ['\x7d', '\x7d'], t) := by
  rw [closeSpan_append h.paired, closeSpan_close, closeSpan_close, closeSpan_zero]
  rfl

theorem not_brace_of_eq_true {p : Char → Bool} {c : Char} (hc : p c = true)
    (hopen : p '\x7b' = false) (hclose : p '\x7d' = false) : c ≠ '\x7b' ∧ c ≠ '\x7d' := by
  refine ⟨?_, ?_⟩
  · rintro rfl
    rw [hopen] at hc
    cases hc
  · rintro rfl
    rw [hclose] at hc
    cases hc

theorem not_brace_of_isBlank {c : Char} (h : Text.isBlank c = true) : c ≠ '\x7b' ∧ c ≠ '\x7d' :=
  not_brace_of_eq_true h (by decide) (by decide)

theorem plain_of_scanString {quote : Char} {w cs r : List Char} {n : ℕ} (hq : isQuote quote = true)
    (h : scanString quote w = some (cs, n, r)) (hcs : Plain cs) (hr : Plain r) : Plain w := by
  fun_induction scanString quote w generalizing cs n with
  | case1 => cases h
  | case2 c s hc =>
    cases h
    rw [beq_iff_eq] at hc
    exact plain_cons.2 ⟨hc ▸ not_brace_of_eq_true hq (by decide) (by decide), hr⟩
  | case3 => cases h
  | case4 c hc hb d s ih =>
    obtain ⟨⟨ds, k, t⟩, hd, he⟩ := Option.map_eq_some_iff.1 h
    cases he
    obtain ⟨hd', hds⟩ := plain_cons.1 hcs
    have hplain := not_brace_of_eq_true (p := (· == '\\')) hb (by decide) (by decide)
    exact plain_cons.2 ⟨hplain, plain_cons.2 ⟨hd', ih hd hds⟩⟩
  | case5 c s hc hb ih =>
    obtain ⟨⟨ds, k, t⟩, hd, he⟩ := Option.map_eq_some_iff.1 h
    cases he
    obtain ⟨hc', hds⟩ := plain_cons.1 hcs
    exact plain_cons.2 ⟨hc', ih hd hds⟩

theorem char_eq_open_iff {m : Mark} : m.char = '\x7b' ↔ m = .openBrace := by
  cases m <;> decide

theorem char_eq_close_iff {m : Mark} : m.char = '\x7d' ↔ m = .closeBrace := by
  cases m <;> decide

theorem plain_of_spelling {l : Lexeme} {w : List Char} (h : l.Spelling w)
    (hopen : l ≠ .mark .openBrace) (hclose : l ≠ .mark .closeBrace)
    (hstring : ∀ s, l = .string s → Plain s.toList) : Plain w := by
  cases h with
  | mark m =>
    refine List.forall_mem_singleton.2 ⟨fun h ↦ hopen ?_, fun h ↦ hclose ?_⟩
    · rw [char_eq_open_iff.1 h]
    · rw [char_eq_close_iff.1 h]
  | string hq hs =>
    have hcs := hstring _ rfl
    rw [String.toList_ofList] at hcs
    refine plain_cons.2 ⟨not_brace_of_eq_true hq (by decide) (by decide), ?_⟩
    exact plain_of_scanString hq hs hcs plain_nil
  | number hc hw =>
    refine plain_cons.2 ⟨not_brace_of_eq_true hc (by decide) (by decide), fun d hd ↦ ?_⟩
    exact not_brace_of_eq_true (hw d hd) (by decide) (by decide)
  | word hc hw =>
    refine plain_cons.2 ⟨not_brace_of_eq_true hc (by decide) (by decide), fun d hd ↦ ?_⟩
    exact not_brace_of_eq_true (hw d hd) (by decide) (by decide)

abbrev BalancedRow : List Lexeme → Prop := Balanced (.mark .openBrace) (.mark .closeBrace)

theorem head?_of_derivesProperties {ls : List Lexeme} {ps : List (String × Expr)}
    (h : DerivesProperties ls ps) : ls.head? ≠ some (.mark .openBrace) := by
  cases h with
  | one hk _ | cons hk _ _ => cases hk <;> simp

mutual

theorem balanced_of_derives {ls : List Lexeme} {e : Expr} : Derives ls e → BalancedRow ls
  | .primary h => balanced_of_derivesPrimary h
  | .member h => (balanced_of_derives h).append (.of_forall (by simp))
  | .method h ha =>
    (balanced_of_derives h).append <| .plain (by simp) (by simp) <| .plain (by simp) (by simp) <|
      .plain (by simp) (by simp) <| (balanced_of_derivesArguments ha).append (.of_forall (by simp))
  | .call h ha =>
    (balanced_of_derives h).append <| .plain (by simp) (by simp) <|
      (balanced_of_derivesArguments ha).append (.of_forall (by simp))
  | .index h hi =>
    (balanced_of_derives h).append <| .plain (by simp) (by simp) <|
      (balanced_of_derives hi).append (.of_forall (by simp))

theorem balanced_of_derivesPrimary {ls : List Lexeme} {e : Expr} :
    DerivesPrimary ls e → BalancedRow ls
  | .string _ | .number _ | .keyword _ | .identifier _ => .of_forall (by simp)
  | .empty => .group .nil (by simp) .nil
  | .object h =>
    .group (balanced_of_derivesProperties h) (head?_of_derivesProperties h) .nil
  | .group h =>
    .plain (by simp) (by simp) ((balanced_of_derives h).append (.of_forall (by simp)))

theorem balanced_of_derivesArguments {ls : List Lexeme} {es : List Expr} :
    DerivesArguments ls es → BalancedRow ls
  | .none => .nil
  | .some h => balanced_of_derivesRow h

theorem balanced_of_derivesRow {ls : List Lexeme} {es : List Expr} :
    DerivesRow ls es → BalancedRow ls
  | .one h => balanced_of_derives h
  | .cons h hs =>
    (balanced_of_derives h).append (.plain (by simp) (by simp) (balanced_of_derivesRow hs))

theorem balanced_of_derivesProperties {ls : List Lexeme} {ps : List (String × Expr)} :
    DerivesProperties ls ps → BalancedRow ls
  | .one hk h => by
    cases hk <;>
      exact .plain (by simp) (by simp) (.plain (by simp) (by simp) (balanced_of_derives h))
  | .cons hk h hs => by
    have hrow := (balanced_of_derives h).append
      (.plain (a := .mark .comma) (by simp) (by simp) (balanced_of_derivesProperties hs))
    cases hk <;> exact .plain (by simp) (by simp) (.plain (by simp) (by simp) hrow)

end

theorem plain_of_spells_nil {s : List Char} (h : Spells s []) : Plain s := by
  generalize hls : ([] : List Lexeme) = ls at h
  induction h with
  | nil => exact plain_nil
  | blank hc _ ih => exact plain_cons.2 ⟨not_brace_of_isBlank hc, ih hls⟩
  | lexeme => cases hls

theorem exists_of_spells_cons {s : List Char} {l : Lexeme} {ls : List Lexeme}
    (h : Spells s (l :: ls)) :
    ∃ u w v, s = u ++ (w ++ v) ∧ Plain u ∧ l.Spelling w ∧ Spells v ls := by
  generalize hks : l :: ls = ks at h
  induction h with
  | nil => cases hks
  | blank hc _ ih =>
    obtain ⟨u, w, v, rfl, hu, hw, hv⟩ := ih hks
    exact ⟨_ :: u, w, v, rfl, plain_cons.2 ⟨not_brace_of_isBlank hc, hu⟩, hw, hv⟩
  | @lexeme w v l ls hw hv =>
    cases hks
    exact ⟨[], w, v, rfl, plain_nil, hw, hv⟩

theorem head?_of_spells {s : List Char} {ls : List Lexeme} (h : Spells s ls)
    (hl : ls.head? ≠ some (.mark .openBrace)) : s.head? ≠ some '\x7b' := by
  cases h with
  | nil => simp
  | blank hc _ =>
    rintro ⟨⟩
    exact absurd hc (by decide)
  | lexeme hw _ =>
    cases hw with
    | mark m =>
      intro h
      rw [char_eq_open_iff.1 (Option.some.inj h)] at hl
      exact hl rfl
    | string hc _ | number hc _ | word hc _ =>
      rintro ⟨⟩
      exact absurd hc (by decide)

theorem balanced_of_spells {s : List Char} {ls : List Lexeme} (hls : BalancedRow ls)
    (h : Spells s ls) (hstring : ∀ t, .string t ∈ ls → Plain t.toList) : BalancedText s := by
  induction hls generalizing s with
  | nil => exact (plain_of_spells_nil h).balanced
  | @plain l ls ho hc _ ih =>
    obtain ⟨u, w, v, rfl, hu, hw, hv⟩ := exists_of_spells_cons h
    have hwplain : Plain w := plain_of_spelling hw ho hc fun t ht ↦ hstring t (by simp [ht])
    have hvbalanced := ih hv fun t ht ↦ hstring t (List.mem_cons_of_mem _ ht)
    exact hu.balanced.append (hwplain.balanced.append hvbalanced)
  | @group ls ms _ hh _ ihs iht =>
    obtain ⟨u, w, v, rfl, hu, hw, hv⟩ := exists_of_spells_cons h
    obtain ⟨x, y, rfl, hx, hy⟩ := hv.split
    obtain ⟨b, w', z, rfl, hb, hw', hz⟩ := exists_of_spells_cons hy
    obtain rfl := hw.eq_of_mark
    obtain rfl := hw'.eq_of_mark
    have hxbalanced : BalancedText x := ihs hx fun t ht ↦ hstring t (by simp [ht])
    have hzbalanced : BalancedText z := iht hz fun t ht ↦ hstring t (by simp [ht])
    -- Blanks may stand on either side of the lexemes between the braces.
    have hhead : (x ++ b).head? ≠ some '\x7b' := by
      cases x with
      | nil => exact hb.head?
      | cons c x =>
        show (c :: x).head? ≠ some '\x7b'
        exact head?_of_spells hx hh
    have hgroup := Balanced.group (hxbalanced.append hb.balanced) hhead hzbalanced
    rw [List.append_assoc] at hgroup
    exact hu.balanced.append hgroup

end Flowgraph.Template
