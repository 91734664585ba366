import Flowgraph.Proofs.Expr.Writing

namespace Flowgraph.Expr

/-- What stands between two quotes, with the contents that it has: a backslash stands for the
character after it, and no quote stands by itself. -/
inductive Quoted (quote : Char) : List Char → List Char → Prop
  | nil : Quoted quote [] []
  | plain {c : Char} {s cs : List Char} : c ≠ quote → c ≠ '\\' → Quoted quote s cs →
      Quoted quote (c :: s) (c :: cs)
  | escaped (c : Char) {s cs : List Char} : Quoted quote s cs →
      Quoted quote ('\\' :: c :: s) (c :: cs)

inductive Lexeme.Written : Lexeme → List Char → Prop
  | mark (m : Mark) : Written (.mark m) [m.char]
  | string {quote : Char} {s cs : List Char} : isQuote quote = true → Quoted quote s cs →
      Written (.string (String.ofList cs)) (quote :: (s ++ [quote]))
  | number {c : Char} {w : List Char} : Text.isAsciiDigit c = true →
      (∀ d ∈ w, isNumberChar d = true) → Written (.number (String.ofList (c :: w))) (c :: w)
  | keyword (k : Keyword) : Written (.keyword k.text) k.text.toList
  | identifier {n : String} : IsName n → Written (.identifier n) n.toList

structure Excerpt where
  token : Token
  source : List Char

def Excerpt.stop (x : Excerpt) : ℕ := x.token.position + x.source.length

/-- The excerpts cover a text from an index on: each is written at its position and ends where it
cannot go on, they follow one another, and what they leave out is blank. -/
structure Covers (text : List Char) (start : ℕ) (xs : List Excerpt) : Prop where
  behind : ∀ x ∈ xs, start ≤ x.token.position
  written : ∀ x ∈ xs, x.token.lexeme.Written x.source
  placed : ∀ x ∈ xs, ∃ rest, text.drop x.token.position = x.source ++ rest ∧
    x.token.lexeme.EndsBefore rest
  apart : xs.Pairwise fun x y ↦ x.token.position < y.token.position ∧ x.stop ≤ y.token.position
  blank : ∀ i c, start ≤ i → text[i]? = some c →
    (∀ x ∈ xs, i < x.token.position ∨ x.stop ≤ i) → Text.isBlank c = true

/-- No token starts at the front of the text: either none can start with its first character, or
that is a quote and never closed. -/
inductive Stuck : LexicalCause → List Char → Prop
  | character {c : Char} {s : List Char} : Text.isBlank c = false →
      (∀ l w, ¬ Lexeme.Written l (c :: w)) → Stuck (.unexpectedCharacter c) (c :: s)
  | quote {c : Char} {s : List Char} : isQuote c = true →
      (∀ inside cs rest, Quoted c inside cs → s ≠ inside ++ c :: rest) →
      Stuck .unterminatedString (c :: s)

/-- The text has tokens up to the position, and none starts there. -/
structure Refuses (text : List Char) (e : LexicalError) : Prop where
  inside : e.position < text.length
  front : ∃ xs, Covers (text.take e.position) 0 xs
  stuck : Stuck e.cause (text.drop e.position)

theorem ne_backslash_of_isQuote {c : Char} (h : isQuote c = true) : '\\' ≠ c := by
  rintro rfl
  cases h

theorem Quoted.scanString {quote : Char} {inside cs : List Char} (hq : isQuote quote = true)
    (h : Quoted quote inside cs) (r : List Char) :
    scanString quote (inside ++ quote :: r) = some (cs, inside.length + 1, r) := by
  induction h with
  | nil =>
    rw [List.nil_append, Expr.scanString.eq_def]
    simp
  | plain hc hb _ ih =>
    rw [List.cons_append, Expr.scanString.eq_def]
    simp [hc, hb, ih]
  | escaped c _ ih =>
    rw [List.cons_append, List.cons_append, Expr.scanString.eq_def]
    simp [ne_backslash_of_isQuote hq, ih]

theorem exists_quoted {quote : Char} {s cs r : List Char} {n : ℕ}
    (h : scanString quote s = some (cs, n, r)) :
    ∃ inside, Quoted quote inside cs ∧ s = inside ++ quote :: r ∧ n = inside.length + 1 := by
  fun_induction scanString quote s generalizing cs n with
  | case1 => cases h
  | case2 c s hc =>
    cases h
    obtain rfl := beq_iff_eq.1 hc
    exact ⟨[], .nil, rfl, rfl⟩
  | case3 => cases h
  | case4 c hc hb d s ih =>
    obtain ⟨⟨ds, k, t⟩, hd, he⟩ := Option.map_eq_some_iff.1 h
    cases he
    obtain rfl := beq_iff_eq.1 hb
    obtain ⟨inside, hinside, rfl, rfl⟩ := ih hd
    exact ⟨'\\' :: d :: inside, .escaped d hinside, rfl, rfl⟩
  | case5 c s hc hb ih =>
    obtain ⟨⟨ds, k, t⟩, hd, he⟩ := Option.map_eq_some_iff.1 h
    cases he
    obtain ⟨inside, hinside, rfl, rfl⟩ := ih hd
    refine ⟨c :: inside, .plain (by simpa using hc) (by simpa using hb) hinside, rfl, rfl⟩

theorem scanString_eq_none_iff {quote : Char} {s : List Char} (hq : isQuote quote = true) :
    scanString quote s = none ↔
      ∀ inside cs rest, Quoted quote inside cs → s ≠ inside ++ quote :: rest := by
  constructor
  · rintro h inside cs rest hinside rfl
    rw [hinside.scanString hq] at h
    cases h
  · intro h
    cases hs : scanString quote s with
    | none => rfl
    | some x =>
      obtain ⟨cs, n, r⟩ := x
      obtain ⟨inside, hinside, hs, -⟩ := exists_quoted hs
      exact absurd hs (h inside cs r hinside)

theorem written_ofWord {c : Char} {w : List Char} (hc : isNameStart c = true)
    (hw : ∀ d ∈ w, isNameChar d = true) : (Lexeme.ofWord (c :: w)).Written (c :: w) := by
  rw [← String.toList_ofList (l := c :: w), Lexeme.ofWord, String.ofList_toList]
  cases h : Keyword.ofText? (String.ofList (c :: w)) with
  | none => exact .identifier ⟨⟨c, w, rfl, hc, hw⟩, ofText?_eq_none_iff.1 h⟩
  | some k =>
    rw [← text_of_ofText? h]
    exact .keyword k

theorem Lexeme.written_iff_spelling {l : Lexeme} {w : List Char} : l.Written w ↔ l.Spelling w := by
  constructor
  · intro h
    cases h with
    | mark m => exact .mark m
    | string hq h => exact .string hq (h.scanString hq [])
    | number hc hw => exact .number hc hw
    | keyword k => exact spelling_keyword k
    | identifier h => exact h.spelling
  · intro h
    cases h with
    | mark m => exact .mark m
    | string hq h =>
      obtain ⟨inside, hinside, rfl, -⟩ := exists_quoted h
      exact .string hq hinside
    | number hc hw => exact .number hc hw
    | word hc hw => exact written_ofWord hc hw

theorem Lexeme.Written.ne_nil {l : Lexeme} {w : List Char} (h : l.Written w) : w ≠ [] := by
  cases h with
  | identifier h =>
    obtain ⟨⟨c, w, rfl, -⟩, -⟩ := h
    simp
  | keyword k => cases k <;> simp [Keyword.text]
  | _ => simp

theorem front_of_isQuote {c : Char} (h : isQuote c = true) : Text.isBlank c = false ∧
    Mark.ofChar? c = none ∧ Text.isAsciiDigit c = false ∧ isNameStart c = false := by
  simp only [isQuote, Bool.or_eq_true, beq_iff_eq] at h
  obtain rfl | rfl := h <;> decide

theorem Mark.ofChar?_char (m : Mark) : Mark.ofChar? m.char = some m := by
  cases m <;> rfl

/-- The characters that a lexeme can start with. -/
theorem exists_written_iff {c : Char} : (∃ l w, Lexeme.Written l (c :: w)) ↔
    (Mark.ofChar? c).isSome = true ∨ isQuote c = true ∨ Text.isAsciiDigit c = true ∨
      isNameStart c = true := by
  constructor
  · rintro ⟨l, w, h⟩
    generalize hs : c :: w = s at h
    cases h with
    | mark m =>
      obtain ⟨rfl, -⟩ := List.cons.inj hs
      exact .inl (by rw [Mark.ofChar?_char, Option.isSome_some])
    | string hq =>
      obtain ⟨rfl, -⟩ := List.cons.inj hs
      exact .inr (.inl hq)
    | number hc =>
      obtain ⟨rfl, -⟩ := List.cons.inj hs
      exact .inr (.inr (.inl hc))
    | keyword k =>
      refine .inr (.inr (.inr ?_))
      cases k <;> obtain ⟨rfl, -⟩ := List.cons.inj hs <;> rfl
    | identifier h =>
      obtain ⟨⟨d, v, rfl, hd, -⟩, -⟩ := h
      rw [String.toList_ofList] at hs
      obtain ⟨rfl, -⟩ := List.cons.inj hs
      exact .inr (.inr (.inr hd))
  · rintro (h | h | h | h)
    · obtain ⟨m, hm⟩ := Option.isSome_iff_exists.1 h
      obtain rfl := Mark.char_of_ofChar? hm
      exact ⟨_, _, .mark m⟩
    · exact ⟨_, _, .string h .nil⟩
    · exact ⟨_, _, .number h (List.forall_mem_nil _)⟩
    · exact ⟨_, _, written_ofWord h (List.forall_mem_nil _)⟩

/-- From a position on, the front of a text has the tokens, and the rest of it is where they end. -/
inductive Lexes : ℕ → List Char → List Token → ℕ → List Char → Prop
  | done (position : ℕ) (s : List Char) : Lexes position s [] position s
  | blank {position stop : ℕ} {c : Char} {s rest : List Char} {ts : List Token} :
      Text.isBlank c = true → Lexes (position + 1) s ts stop rest →
      Lexes position (c :: s) ts stop rest
  | token {position stop : ℕ} {w s rest : List Char} {l : Lexeme} {ts : List Token} :
      l.Written w → l.EndsBefore s → Lexes (position + w.length) s ts stop rest →
      Lexes position (w ++ s) (⟨l, position⟩ :: ts) stop rest

section Lexes

variable {position stop : ℕ} {s rest : List Char} {ts : List Token} {cause : LexicalCause}

theorem Lexes.scanFrom (h : Lexes position s ts stop rest) :
    Token.scanFrom position s = (ts ++ ·) <$> Token.scanFrom stop rest := by
  induction h with
  | done => exact (id_map _).symm
  | blank hc _ ih => rw [Token.scanFrom, if_pos hc, ih]
  | token hl he _ ih =>
    rw [scanFrom_spelling (Lexeme.written_iff_spelling.1 hl) he, ih, ← comp_map]
    rfl

theorem front_of_not_written {c : Char} (h : ∀ l w, ¬ Lexeme.Written l (c :: w)) :
    Mark.ofChar? c = none ∧ isQuote c = false ∧ Text.isAsciiDigit c = false ∧
      isNameStart c = false := by
  have hstart := mt exists_written_iff.2 fun ⟨l, w, hw⟩ ↦ h l w hw
  simpa only [not_or, Bool.not_eq_true, Option.isSome_eq_false_iff, Option.isNone_iff_eq_none]
    using hstart

theorem Stuck.scanFrom (h : Stuck cause s) (position : ℕ) :
    Token.scanFrom position s = .error ⟨cause, position⟩ := by
  cases h with
  | character hblank hnone =>
    obtain ⟨hmark, hquote, hdigit, hname⟩ := front_of_not_written hnone
    rw [Token.scanFrom]
    simp [hblank, hmark, hquote, hdigit, hname]
  | quote hq hopen =>
    obtain ⟨hblank, hmark, -⟩ := front_of_isQuote hq
    rw [Token.scanFrom]
    simp only [hblank, hmark, hq, Bool.false_eq_true, if_false, if_true]
    split
    · rfl
    · next hs =>
      rw [(scanString_eq_none_iff hq).2 hopen] at hs
      cases hs

theorem Stuck.length_pos (h : Stuck cause s) : 0 < s.length := by
  cases h <;> simp

theorem Stuck.endsBefore (h : Stuck cause s) (l : Lexeme) : l.EndsBefore s := by
  have hfront : ∀ c ∈ s.head?, isNumberChar c = false ∧ isNameChar c = false := by
    intro c hc
    have hclass : Mark.ofChar? c = none ∧ Text.isAsciiDigit c = false ∧ isNameStart c = false := by
      cases h with
      | character hblank hnone =>
        cases hc
        obtain ⟨hmark, -, hdigit, hname⟩ := front_of_not_written hnone
        exact ⟨hmark, hdigit, hname⟩
      | quote hq =>
        cases hc
        exact (front_of_isQuote hq).2
    obtain ⟨hmark, hdigit, hname⟩ := hclass
    have hdot : c ≠ '.' := by
      rintro rfl
      cases hmark
    simp [isNumberChar, isNameChar, hdigit, hname, hdot]
  cases l with
  | mark | string | eof => trivial
  | number => exact fun c hc ↦ (hfront c hc).1
  | identifier | keyword => exact fun c hc ↦ (hfront c hc).2

def Advances (position : ℕ) (s : List Char) : Prop := ∃ ts stop rest,
  Lexes position s ts stop rest ∧ (rest = [] ∨ ∃ cause, Stuck cause rest)

theorem Advances.token {w : List Char} {l : Lexeme} (hl : l.Written w) (he : l.EndsBefore s)
    (h : Advances (position + w.length) s) : Advances position (w ++ s) := by
  obtain ⟨ts, stop, rest, h, hrest⟩ := h
  exact ⟨_, stop, rest, .token hl he h, hrest⟩

theorem Advances.run {p : Char → Bool} {c : Char} {l : Lexeme}
    (hl : l.Written (c :: s.takeWhile p)) (he : ∀ r, (∀ d ∈ r.head?, p d = false) → l.EndsBefore r)
    (h : Advances (position + 1 + (s.takeWhile p).length) (s.drop (s.takeWhile p).length)) :
    Advances position (c :: s) := by
  have hrest : s.drop (s.takeWhile p).length = s.dropWhile p := by
    have hs : (s.takeWhile p ++ s.dropWhile p).drop (s.takeWhile p).length = s.dropWhile p :=
      List.drop_left
    rwa [List.takeWhile_append_dropWhile] at hs
  rw [Nat.add_right_comm, Nat.add_assoc, ← List.length_cons (a := c), hrest] at h
  have htoken := h.token hl (he _ fun d hd ↦ ?_)
  · rwa [List.cons_append, List.takeWhile_append_dropWhile] at htoken
  · have hnot := List.head?_dropWhile_not p s
    rw [hd] at hnot
    simpa using hnot

theorem advances (position : ℕ) (s : List Char) : Advances position s := by
  fun_induction Token.scanFrom position s with
  | case1 position => exact ⟨[], position, [], .done _ _, .inl rfl⟩
  | case2 position c s hc ih =>
    obtain ⟨ts, stop, rest, h, hrest⟩ := ih
    exact ⟨ts, stop, rest, .blank hc h, hrest⟩
  | case3 position c s hb m hm ih =>
    obtain rfl := Mark.char_of_ofChar? hm
    exact ih.token (.mark m) trivial
  | case4 position c s hb hq hs =>
    exact ⟨[], position, c :: s, .done _ _, .inr ⟨_, .quote hq ((scanString_eq_none_iff hq).1 hs)⟩⟩
  | case5 position c s hb hq cs n r hs _ _ ih =>
    obtain ⟨inside, hinside, rfl, rfl⟩ := exists_quoted hs
    have hlength : (c :: (inside ++ [c])).length = 1 + (inside.length + 1) := by
      simp [Nat.add_comm]
    rw [Nat.add_assoc, ← hlength] at ih
    simpa using ih.token (.string hq hinside) trivial
  | case6 position c s hb hq hd tail _ ih =>
    exact ih.run (.number hd (List.all_eq_true.1 List.all_takeWhile)) fun _ h ↦ h
  | case7 position c s hb hq hd hn tail _ ih =>
    refine ih.run (written_ofWord hn (List.all_eq_true.1 List.all_takeWhile)) fun r h ↦ ?_
    unfold Lexeme.ofWord
    split <;> exact h
  | case8 position c s hb hq hd hn hm =>
    refine ⟨[], position, c :: s, .done _ _, .inr ⟨_, .character ((Bool.not_eq_true _).mp hb) ?_⟩⟩
    intro l w hl
    rcases exists_written_iff.1 ⟨l, w, hl⟩ with h | h | h | h
    · obtain ⟨m, hm'⟩ := Option.isSome_iff_exists.1 h
      exact hm m hm'
    · exact hq h
    · exact hd h
    · exact hn h

theorem scanFrom_eq_ok_iff :
    Token.scanFrom position s = .ok ts ↔ ∃ stop, Lexes position s ts stop [] := by
  constructor
  · intro h
    obtain ⟨us, stop, rest, hus, hrest⟩ := advances position s
    rw [hus.scanFrom] at h
    rcases hrest with rfl | ⟨cause, hstuck⟩
    · rw [Token.scanFrom] at h
      obtain rfl : us = ts := by simpa [Functor.map, Except.map] using h
      exact ⟨stop, hus⟩
    · rw [hstuck.scanFrom] at h
      cases h
  · rintro ⟨stop, h⟩
    rw [h.scanFrom, Token.scanFrom]
    simp [Functor.map, Except.map]

theorem scanFrom_eq_error_iff {e : LexicalError} : Token.scanFrom position s = .error e ↔
    ∃ ts rest, Lexes position s ts e.position rest ∧ Stuck e.cause rest := by
  constructor
  · intro h
    obtain ⟨us, stop, rest, hus, hrest⟩ := advances position s
    rw [hus.scanFrom] at h
    rcases hrest with rfl | ⟨cause, hstuck⟩
    · rw [Token.scanFrom] at h
      cases h
    · rw [hstuck.scanFrom] at h
      cases h
      exact ⟨us, rest, hus, hstuck⟩
  · rintro ⟨ts, rest, h, hstuck⟩
    rw [h.scanFrom, hstuck.scanFrom]
    rfl

theorem Lexeme.endsBefore_append {l : Lexeme} {u : List Char} :
    l.EndsBefore (u ++ rest) ↔ l.EndsBefore u ∧ (u = [] → l.EndsBefore rest) := by
  cases u with
  | nil => cases l <;> simp [EndsBefore]
  | cons c u => cases l <;> simp [EndsBefore]

theorem Lexes.front (h : Lexes position s ts stop rest) :
    ∃ u, s = u ++ rest ∧ stop = position + u.length ∧ Lexes position u ts stop [] := by
  induction h with
  | done position s => exact ⟨[], rfl, rfl, .done position []⟩
  | blank hc _ ih =>
    obtain ⟨u, rfl, rfl, hu⟩ := ih
    exact ⟨_ :: u, rfl, by simp +arith, .blank hc hu⟩
  | @token _ _ w _ _ _ _ hl he _ ih =>
    obtain ⟨u, rfl, rfl, hu⟩ := ih
    exact ⟨w ++ u, by simp, by simp +arith, .token hl (Lexeme.endsBefore_append.1 he).1 hu⟩

theorem Lexes.stop_eq (h : Lexes position s ts stop []) : stop = position + s.length := by
  obtain ⟨u, rfl, rfl, -⟩ := h.front
  rw [List.append_nil]

theorem Lexes.before_stuck {u : List Char} (h : Lexes position u ts stop [])
    (hstuck : Stuck cause rest) : Lexes position (u ++ rest) ts stop rest := by
  generalize hend : [] = r at h
  induction h with
  | done =>
    subst hend
    exact .done _ _
  | blank hc _ ih => exact .blank hc (ih hend)
  | token hl he _ ih =>
    rw [List.append_assoc]
    exact .token hl (Lexeme.endsBefore_append.2 ⟨he, fun _ ↦ hstuck.endsBefore _⟩) (ih hend)

end Lexes

section Covers

variable {text : List Char} {start stop : ℕ} {xs : List Excerpt} {ts : List Token}

theorem Covers.skip {c : Char} (h : Covers text (start + 1) xs) (hc : text[start]? = some c)
    (hblank : Text.isBlank c = true) : Covers text start xs where
  behind x hx := Nat.le_of_succ_le (h.behind x hx)
  written := h.written
  placed := h.placed
  apart := h.apart
  blank i d hi hd hout := by
    rcases hi.eq_or_lt with rfl | hi
    · obtain rfl := Option.some.inj (hc.symm.trans hd)
      exact hblank
    · exact h.blank i d hi hd hout

theorem Covers.cons {w rest : List Char} {l : Lexeme} (h : Covers text (start + w.length) xs)
    (hl : l.Written w) (hs : text.drop start = w ++ rest) (he : l.EndsBefore rest) :
    Covers text start (⟨⟨l, start⟩, w⟩ :: xs) where
  behind := List.forall_mem_cons.2 ⟨le_rfl, fun x hx ↦ Nat.le_of_add_right_le (h.behind x hx)⟩
  written := List.forall_mem_cons.2 ⟨hl, h.written⟩
  placed := List.forall_mem_cons.2 ⟨⟨rest, hs, he⟩, h.placed⟩
  apart := by
    refine List.pairwise_cons.2 ⟨fun x hx ↦ ⟨?_, h.behind x hx⟩, h.apart⟩
    have hpos := List.length_pos_iff.2 hl.ne_nil
    exact (Nat.lt_add_of_pos_right hpos).trans_le (h.behind x hx)
  blank i d hi hd hout := by
    obtain ⟨hfront, hout⟩ := List.forall_mem_cons.1 hout
    exact h.blank i d (hfront.resolve_left hi.not_gt) hd hout

theorem exists_covers {s rest : List Char} (h : Lexes start s ts stop rest) (hrest : rest = [])
    (hs : text.drop start = s) : ∃ xs, Covers text start xs ∧ xs.map (·.token) = ts := by
  induction h with
  | done position s =>
    refine ⟨[], ⟨nofun, nofun, nofun, .nil, fun i c hi hc _ ↦ ?_⟩, rfl⟩
    rw [hrest, List.drop_eq_nil_iff] at hs
    rw [List.getElem?_eq_none (hs.trans hi)] at hc
    cases hc
  | @blank position stop c s rest ts hc _ ih =>
    have hfront : text[position]? = some c := by
      rw [← Nat.add_zero position, ← List.getElem?_drop, hs]
      rfl
    obtain ⟨xs, hxs, hts⟩ := ih hrest (by rw [← List.drop_drop, hs, List.drop_one, List.tail_cons])
    exact ⟨xs, hxs.skip hfront hc, hts⟩
  | @token position stop w s rest l ts hl he _ ih =>
    obtain ⟨xs, hxs, rfl⟩ := ih hrest (by rw [← List.drop_drop, hs, List.drop_left])
    exact ⟨_, hxs.cons hl hs he, rfl⟩

theorem Covers.tail {x : Excerpt} (h : Covers text start (x :: xs)) : Covers text x.stop xs where
  behind y hy := ((List.pairwise_cons.1 h.apart).1 y hy).2
  written := (List.forall_mem_cons.1 h.written).2
  placed := (List.forall_mem_cons.1 h.placed).2
  apart := (List.pairwise_cons.1 h.apart).2
  blank i c hi hc hout := by
    have hstart := h.behind x List.mem_cons_self
    refine h.blank i c ?_ hc (List.forall_mem_cons.2 ⟨.inr hi, hout⟩)
    exact hstart.trans ((Nat.le_add_right _ _).trans hi)

theorem Covers.later (h : Covers text start xs) (hlater : ∀ x ∈ xs, start < x.token.position) :
    Covers text (start + 1) xs where
  behind := hlater
  written := h.written
  placed := h.placed
  apart := h.apart
  blank i c hi := h.blank i c (Nat.le_of_succ_le hi)

theorem Covers.lt_length {x : Excerpt} (h : Covers text start xs) (hx : x ∈ xs) :
    x.token.position < text.length := by
  obtain ⟨rest, hrest, -⟩ := h.placed x hx
  by_contra hlong
  rw [List.drop_eq_nil_iff.2 (Nat.le_of_not_lt hlong)] at hrest
  exact (h.written x hx).ne_nil (List.append_eq_nil_iff.1 hrest.symm).1

theorem Covers.lexes (h : Covers text start xs) :
    ∃ stop, Lexes start (text.drop start) (xs.map (·.token)) stop [] := by
  generalize hn : text.length - start = n
  induction n using Nat.strong_induction_on generalizing start xs with
  | h n ih =>
    by_cases hend : text.length ≤ start
    · have hnone : xs = [] := by
        refine List.eq_nil_iff_forall_not_mem.2 fun x hx ↦ ?_
        exact absurd (h.lt_length hx) (hend.trans (h.behind x hx)).not_gt
      rw [hnone, List.drop_eq_nil_iff.2 hend]
      exact ⟨start, .done start []⟩
    have hlt := Nat.lt_of_not_le hend
    -- Either a token starts here, or the character is outside of all tokens.
    by_cases hlater : ∀ x ∈ xs, start < x.token.position
    · obtain ⟨stop, hrest⟩ := ih _ (by omega) (h.later hlater) rfl
      have hblank := h.blank start text[start] le_rfl (List.getElem?_eq_getElem hlt)
        fun x hx ↦ .inl (hlater x hx)
      rw [List.drop_eq_getElem_cons hlt]
      exact ⟨stop, .blank hblank hrest⟩
    · cases xs with
      | nil => exact absurd (List.forall_mem_nil _) hlater
      | cons x xs =>
        have hposition : x.token.position = start := by
          refine (h.behind x List.mem_cons_self).antisymm' (Nat.le_of_not_lt fun hx ↦ hlater ?_)
          refine List.forall_mem_cons.2 ⟨hx, fun y hy ↦ ?_⟩
          exact hx.trans ((List.pairwise_cons.1 h.apart).1 y hy).1
        obtain ⟨⟨l, position⟩, w⟩ := x
        obtain rfl : position = start := hposition
        have hl : l.Written w := h.written _ List.mem_cons_self
        obtain ⟨rest, hrest, he⟩ := h.placed _ List.mem_cons_self
        have hpos := List.length_pos_iff.2 hl.ne_nil
        obtain ⟨stop, htail⟩ := ih _ (by dsimp only [Excerpt.stop]; omega) h.tail rfl
        have hdrop : text.drop (position + w.length) = rest := by
          rw [← List.drop_drop, hrest, List.drop_left]
        rw [Excerpt.stop, hdrop] at htail
        rw [hrest]
        exact ⟨stop, .token hl he htail⟩

end Covers

theorem scan_eq_ok_iff {text : String} {ts : List Token} : Token.scan text = .ok ts ↔
    ∃ xs, Covers text.toList 0 xs ∧ xs.map (·.token) = ts := by
  rw [Token.scan, scanFrom_eq_ok_iff]
  constructor
  · rintro ⟨stop, h⟩
    exact exists_covers h rfl rfl
  · rintro ⟨xs, hxs, rfl⟩
    exact hxs.lexes

theorem scan_eq_error_iff {text : String} {e : LexicalError} :
    Token.scan text = .error e ↔ Refuses text.toList e := by
  rw [Token.scan, scanFrom_eq_error_iff]
  constructor
  · rintro ⟨ts, rest, h, hstuck⟩
    obtain ⟨u, htext, hstop, hu⟩ := h.front
    rw [Nat.zero_add] at hstop
    refine ⟨?_, ?_, ?_⟩
    · rw [htext, hstop, List.length_append]
      exact Nat.lt_add_of_pos_right hstuck.length_pos
    · obtain ⟨xs, hxs, -⟩ := exists_covers hu rfl List.drop_zero
      rw [htext, hstop, List.take_left]
      exact ⟨xs, hxs⟩
    · rwa [htext, hstop, List.drop_left]
  · rintro ⟨hinside, ⟨xs, hxs⟩, hstuck⟩
    obtain ⟨stop, h⟩ := hxs.lexes
    rw [List.drop_zero] at h
    have hstop := h.stop_eq
    rw [Nat.zero_add, List.length_take_of_le hinside.le] at hstop
    have htext := h.before_stuck hstuck
    rw [List.take_append_drop, hstop] at htext
    exact ⟨_, _, htext, hstuck⟩

/-- The tokens of a text are exactly those that cover it, with its end behind them, and a text
without tokens is refused exactly at the place where none starts. -/
theorem tokenize_exact (text : String) :
    (∀ ts, tokenize text = .ok ts ↔ ∃ xs, Covers text.toList 0 xs ∧
      ts = xs.map (·.token) ++ [⟨.eof, text.length⟩]) ∧
    (∀ e, tokenize text = .error e ↔ ∃ d, Refuses text.toList d ∧ e = d.toSyntaxError) ∧
    ((∃ xs, Covers text.toList 0 xs) ↔ ¬ ∃ d, Refuses text.toList d) := by
  simp only [← scan_eq_error_iff]
  have hcovers (xs : List Excerpt) (hxs : Covers text.toList 0 xs) :
      Token.scan text = .ok (xs.map (·.token)) := scan_eq_ok_iff.2 ⟨xs, hxs, rfl⟩
  unfold tokenize
  cases h : Token.scan text with
  | error d =>
    have hnone (xs : List Excerpt) : ¬ Covers text.toList 0 xs := by
      intro hxs
      rw [hcovers xs hxs] at h
      cases h
    refine ⟨fun ts ↦ ?_, fun e ↦ ?_, ?_⟩
    · simp [hnone]
    · simp [eq_comm]
    · simp [hnone]
  | ok ts =>
    obtain ⟨xs, hxs, rfl⟩ := scan_eq_ok_iff.1 h
    refine ⟨fun ts ↦ ?_, fun e ↦ ?_, ?_⟩
    · constructor
      · rintro ⟨⟩
        exact ⟨xs, hxs, rfl⟩
      · rintro ⟨ys, hys, rfl⟩
        rw [Except.ok.inj (h.symm.trans (hcovers ys hys))]
    · simp
    · simpa using ⟨xs, hxs⟩

end Flowgraph.Expr
