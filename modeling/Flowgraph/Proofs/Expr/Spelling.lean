import Flowgraph.Expr.Token
import Mathlib.Tactic.Common

namespace Flowgraph.Expr

inductive Lexeme.Spelling : Lexeme → List Char → Prop
  | mark (m : Mark) : Spelling (.mark m) [m.char]
  | string {quote : Char} {w cs : List Char} {n : ℕ} : isQuote quote = true →
      scanString quote w = some (cs, n, []) → Spelling (.string (String.ofList cs)) (quote :: w)
  | number {c : Char} {w : List Char} : Text.isAsciiDigit c = true →
      (∀ d ∈ w, isNumberChar d = true) → Spelling (.number (String.ofList (c :: w))) (c :: w)
  | word {c : Char} {w : List Char} : isNameStart c = true → (∀ d ∈ w, isNameChar d = true) →
      Spelling (.ofWord (c :: w)) (c :: w)

theorem Lexeme.Spelling.eq_of_mark {m : Mark} {w : List Char} (h : (Lexeme.mark m).Spelling w) :
    w = [m.char] := by
  generalize hl : Lexeme.mark m = l at h
  cases h with
  | mark =>
    cases hl
    rfl
  | string | number => cases hl
  | word =>
    unfold Lexeme.ofWord at hl
    split at hl <;> cases hl

/-- Lexemes spelled one after the other, with blanks anywhere between them. -/
inductive Spells : List Char → List Lexeme → Prop
  | nil : Spells [] []
  | blank {c : Char} {s : List Char} {ls : List Lexeme} :
      Text.isBlank c = true → Spells s ls → Spells (c :: s) ls
  | lexeme {w s : List Char} {l : Lexeme} {ls : List Lexeme} :
      l.Spelling w → Spells s ls → Spells (w ++ s) (l :: ls)

theorem Spells.split {s : List Char} {ls ms : List Lexeme} (h : Spells s (ls ++ ms)) :
    ∃ u v, s = u ++ v ∧ Spells u ls ∧ Spells v ms := by
  generalize hks : ls ++ ms = ks at h
  induction h generalizing ls with
  | nil =>
    obtain ⟨rfl, rfl⟩ := List.append_eq_nil_iff.1 hks
    exact ⟨[], [], rfl, .nil, .nil⟩
  | blank hc _ ih =>
    obtain ⟨u, v, rfl, hu, hv⟩ := ih hks
    exact ⟨_ :: u, v, rfl, .blank hc hu, hv⟩
  | lexeme hl hs ih =>
    cases ls with
    | nil =>
      rw [List.nil_append] at hks
      rw [hks]
      exact ⟨[], _, rfl, .nil, .lexeme hl hs⟩
    | cons k ls =>
      rw [List.cons_append] at hks
      cases hks
      obtain ⟨u, v, rfl, hu, hv⟩ := ih rfl
      exact ⟨_ ++ u, v, (List.append_assoc ..).symm, .lexeme hl hu, hv⟩

theorem Mark.char_of_ofChar? {c : Char} {m : Mark} (h : Mark.ofChar? c = some m) : m.char = c := by
  have := List.find?_some h
  simpa using this

theorem scanString_front {quote : Char} {s cs r : List Char} {n : ℕ}
    (h : scanString quote s = some (cs, n, r)) :
    ∃ w, s = w ++ r ∧ w.length = n ∧ scanString quote w = some (cs, n, []) := by
  fun_induction scanString quote s generalizing cs n with
  | case1 => cases h
  | case2 c s hc =>
    cases h
    exact ⟨[c], rfl, rfl, by rw [scanString.eq_def]; exact if_pos hc⟩
  | case3 => cases h
  | case4 c hc hb d s ih =>
    obtain ⟨⟨ds, k, t⟩, hd, he⟩ := Option.map_eq_some_iff.1 h
    cases he
    obtain ⟨w, rfl, rfl, hw⟩ := ih hd
    refine ⟨c :: d :: w, rfl, rfl, ?_⟩
    rw [scanString.eq_def]
    dsimp only
    rw [if_neg hc, if_pos hb, hw]
    rfl
  | case5 c s hc hb ih =>
    obtain ⟨⟨ds, k, t⟩, hd, he⟩ := Option.map_eq_some_iff.1 h
    cases he
    obtain ⟨w, rfl, rfl, hw⟩ := ih hd
    refine ⟨c :: w, rfl, rfl, ?_⟩
    rw [scanString.eq_def]
    dsimp only
    rw [if_neg hc, if_neg hb, hw]
    rfl

theorem Lexeme.Spelling.spells_of_scan {l : Lexeme} {w s : List Char} {position : ℕ}
    {m : Except LexicalError (List Token)} {ts : List Token} (hl : l.Spelling w)
    (hm : ∀ {us}, m = .ok us → Spells s (us.map (·.lexeme)))
    (h : (⟨l, position⟩ :: ·) <$> m = .ok ts) : Spells (w ++ s) (ts.map (·.lexeme)) := by
  cases m with
  | error => cases h
  | ok us =>
    cases h
    exact .lexeme hl (hm rfl)

theorem spells_of_scanFrom {position : ℕ} {s : List Char} {ts : List Token}
    (h : Token.scanFrom position s = .ok ts) : Spells s (ts.map (·.lexeme)) := by
  fun_induction Token.scanFrom position s generalizing ts with
  | case1 =>
    cases h
    exact .nil
  | case2 position c s hc ih => exact .blank hc (ih h)
  | case3 position c s hb m hm ih =>
    obtain rfl := Mark.char_of_ofChar? hm
    exact (Lexeme.Spelling.mark m).spells_of_scan ih h
  | case4 => cases h
  | case5 position c s hb hq cs n r hs _ _ ih =>
    obtain ⟨w, rfl, rfl, hw⟩ := scanString_front hs
    exact (Lexeme.Spelling.string hq hw).spells_of_scan ih h
  | case6 position c s hb hq hd tail =>
    rename_i ih
    have hl : Lexeme.Spelling _ (c :: tail) := .number hd (List.all_eq_true.1 List.all_takeWhile)
    have hs := hl.spells_of_scan ih h
    rwa [List.cons_append,
      List.prefix_iff_eq_append.1 (List.takeWhile_prefix isNumberChar)] at hs
  | case7 position c s hb hq hd hn tail =>
    rename_i ih
    have hl : Lexeme.Spelling _ (c :: tail) := .word hn (List.all_eq_true.1 List.all_takeWhile)
    have hs := hl.spells_of_scan ih h
    rwa [List.cons_append,
      List.prefix_iff_eq_append.1 (List.takeWhile_prefix isNameChar)] at hs
  | case8 => cases h

theorem spells_of_scan {text : String} {ts : List Token} (h : Token.scan text = .ok ts) :
    Spells text.toList (ts.map (·.lexeme)) :=
  spells_of_scanFrom h

end Flowgraph.Expr
