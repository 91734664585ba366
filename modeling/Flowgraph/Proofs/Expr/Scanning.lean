import Flowgraph.Proofs.Expr.Grammar
import Flowgraph.Proofs.Expr.Spelling

namespace Flowgraph.Expr

def Lexeme.EndsBefore : Lexeme → List Char → Prop
  | number _, s => ∀ c ∈ s.head?, isNumberChar c = false
  | identifier _, s | keyword _, s => ∀ c ∈ s.head?, isNameChar c = false
  | mark _, _ | string _, _ | eof, _ => True

/-- Lexemes spelled one right behind the other, none of which goes on into the next. -/
inductive Splits : List Char → List Lexeme → Prop
  | nil : Splits [] []
  | cons {w s : List Char} {l : Lexeme} {ls : List Lexeme} :
      l.Spelling w → l.EndsBefore s → Splits s ls → Splits (w ++ s) (l :: ls)

theorem isBlank_eq_false {c : Char} (h : 32 < c.toNat) (h' : c.toNat < 133) :
    Text.isBlank c = false := by
  simp only [Text.isBlank, Text.inRanges, Text.blankRanges, Text.CharRange.contains, List.any_cons,
    List.any_nil, Bool.or_false, Bool.or_eq_false_iff, Bool.and_eq_false_iff, decide_eq_false_iff_not]
  omega

theorem toNat_of_isNameStart {c : Char} (h : isNameStart c = true) :
    c.toNat = 95 ∨ (97 ≤ c.toNat ∧ c.toNat ≤ 122) ∨ (65 ≤ c.toNat ∧ c.toNat ≤ 90) := by
  simp only [isNameStart, Char.le_def, UInt32.le_iff_toNat_le, Bool.or_eq_true, Bool.and_eq_true,
    beq_iff_eq, decide_eq_true_eq] at h
  obtain (rfl | h) | h := h
  · exact .inl rfl
  · exact .inr (.inl h)
  · exact .inr (.inr h)

theorem toNat_of_isNameChar {c : Char} (h : isNameChar c = true) :
    32 < c.toNat ∧ c.toNat < 133 := by
  obtain h | h := Bool.or_eq_true_iff.1 h
  · have hc := toNat_of_isNameStart h
    omega
  · have hc := isAsciiDigit_iff.1 h
    omega

theorem isAsciiDigit_of_isNameStart {c : Char} (h : isNameStart c = true) :
    Text.isAsciiDigit c = false := by
  have hc := toNat_of_isNameStart h
  refine Bool.eq_false_iff.2 fun hd ↦ ?_
  have hc' := isAsciiDigit_iff.1 hd
  omega

theorem isNameChar_of_isAsciiDigit {c : Char} (h : Text.isAsciiDigit c = true) :
    isNameChar c = true := by
  rw [isNameChar, h, Bool.or_true]

theorem isNameChar_of_isNameStart {c : Char} (h : isNameStart c = true) : isNameChar c = true := by
  rw [isNameChar, h, Bool.true_or]

/-- A character of a name is no blank, no mark and no quote. -/
theorem front_of_isNameChar {c : Char} (h : isNameChar c = true) :
    Text.isBlank c = false ∧ Mark.ofChar? c = none ∧ isQuote c = false := by
  obtain ⟨hlow, hhigh⟩ := toNat_of_isNameChar h
  refine ⟨isBlank_eq_false hlow hhigh, ?_, ?_⟩
  · refine List.find?_eq_none.2 fun m _ hm ↦ ?_
    rw [beq_iff_eq] at hm
    subst hm
    cases m <;> cases h
  · refine Bool.eq_false_iff.2 fun hq ↦ ?_
    simp only [isQuote, Bool.or_eq_true, beq_iff_eq] at hq
    obtain rfl | rfl := hq <;> cases h

theorem scanString_append {quote : Char} {w cs r : List Char} {n : ℕ}
    (h : scanString quote w = some (cs, n, r)) (s : List Char) :
    scanString quote (w ++ s) = some (cs, n, r ++ s) := by
  fun_induction scanString quote w generalizing cs n with
  | case1 => cases h
  | case2 c w hc =>
    cases h
    rw [List.cons_append, scanString.eq_def]
    exact if_pos hc
  | case3 => cases h
  | case4 c hc hb d w ih =>
    obtain ⟨⟨ds, k, t⟩, hd, he⟩ := Option.map_eq_some_iff.1 h
    cases he
    rw [List.cons_append, List.cons_append, scanString.eq_def]
    dsimp only
    rw [if_neg hc, if_pos hb, ih hd]
    rfl
  | case5 c w hc hb ih =>
    obtain ⟨⟨ds, k, t⟩, hd, he⟩ := Option.map_eq_some_iff.1 h
    cases he
    rw [List.cons_append, scanString.eq_def]
    dsimp only
    rw [if_neg hc, if_neg hb, ih hd]
    rfl

variable {l : Lexeme} {w s : List Char} {ls : List Lexeme}

/-- A lexeme at the front of a text is the first that is scanned, if it does not go on. -/
theorem scanFrom_spelling (hl : l.Spelling w) (he : l.EndsBefore s) (position : ℕ) :
    Token.scanFrom position (w ++ s) =
      (⟨l, position⟩ :: ·) <$> Token.scanFrom (position + w.length) s := by
  cases hl with
  | mark m =>
    have hblank : Text.isBlank m.char = false := by cases m <;> decide
    have hmark : Mark.ofChar? m.char = some m := by cases m <;> rfl
    rw [List.singleton_append, Token.scanFrom]
    simp [hblank, hmark]
  | @string quote w cs n hq hs =>
    have hfront : Text.isBlank quote = false ∧ Mark.ofChar? quote = none := by
      simp only [isQuote, Bool.or_eq_true, beq_iff_eq] at hq
      obtain rfl | rfl := hq <;> decide
    have hlen : w.length = n := (length_of_scanString hs).1
    have hscan : scanString quote (w ++ s) = some (cs, n, s) := scanString_append hs s
    rw [List.cons_append, Token.scanFrom]
    simp only [hfront.1, hfront.2, hq, Bool.false_eq_true, if_false, if_true]
    split
    · next h =>
      rw [hscan] at h
      cases h
    · next h =>
      rw [hscan] at h
      cases h
      rw [List.length_cons, hlen, Nat.add_right_comm, Nat.add_assoc]
  | @number c w hc hw =>
    obtain ⟨hblank, hmark, hquote⟩ := front_of_isNameChar (isNameChar_of_isAsciiDigit hc)
    have hrun := (takeWhile_run hw he).1
    rw [List.cons_append, Token.scanFrom]
    simp [hblank, hmark, hquote, hc, hrun, Nat.add_right_comm, ← Nat.add_assoc]
  | @word c w hc hw =>
    obtain ⟨hblank, hmark, hquote⟩ := front_of_isNameChar (isNameChar_of_isNameStart hc)
    have hdigit := isAsciiDigit_of_isNameStart hc
    have hends : ∀ d ∈ s.head?, isNameChar d = false := by
      unfold Lexeme.ofWord at he
      split at he <;> exact he
    have hrun := (takeWhile_run hw hends).1
    rw [List.cons_append, Token.scanFrom]
    simp [hblank, hmark, hquote, hc, hdigit, hrun, Nat.add_right_comm, ← Nat.add_assoc]

theorem Splits.scanFrom (h : Splits s ls) (position : ℕ) :
    ∃ ts, Token.scanFrom position s = .ok ts ∧ ts.map (·.lexeme) = ls := by
  induction h generalizing position with
  | nil =>
    rw [Token.scanFrom]
    exact ⟨[], rfl, rfl⟩
  | @cons w s l ls hl he _ ih =>
    obtain ⟨ts, hts, rfl⟩ := ih (position + w.length)
    refine ⟨⟨l, position⟩ :: ts, ?_, rfl⟩
    rw [scanFrom_spelling hl he, hts]
    rfl

end Flowgraph.Expr
