import Flowgraph.Proofs.Expr.Grammar

namespace Flowgraph.Expr

inductive Input.Reads : Input → List Lexeme → Input → Prop
  | nil (s : Input) : s.Reads [] s
  | cons {s t : Input} {l : Lexeme} {ls : List Lexeme} :
      s.found = some l → s.rest.Reads ls t → s.Reads (l :: ls) t

namespace Input

theorem Reads.one {s : Input} {l : Lexeme} (h : s.found = some l) : s.Reads [l] s.rest :=
  .cons h (.nil _)

theorem Reads.append {s t u : Input} {ls ms : List Lexeme} (h : s.Reads ls t) (h' : t.Reads ms u) :
    s.Reads (ls ++ ms) u := by
  induction h with
  | nil => exact h'
  | cons hl _ ih => exact .cons hl (ih h')

/-- What is read is the front of the tokens, and what is left their back. -/
theorem Reads.tokens {s t : Input} {ls : List Lexeme} (h : s.Reads ls t) :
    ∃ ts, s.tokens = ts ++ t.tokens ∧ ts.map (·.lexeme) = ls := by
  induction h with
  | nil s => exact ⟨[], rfl, rfl⟩
  | @cons s t l ls hl _ ih =>
    obtain ⟨ts, hts, hls⟩ := ih
    obtain ⟨_ | ⟨a, us⟩⟩ := s
    · cases hl
    · cases hl
      exact ⟨a :: ts, congrArg (a :: ·) hts, congrArg (a.lexeme :: ·) hls⟩

theorem reads_tokens (ts us : List Token) : Reads ⟨ts ++ us⟩ (ts.map (·.lexeme)) ⟨us⟩ := by
  induction ts with
  | nil => exact .nil _
  | cons a ts ih => exact .cons rfl ih

theorem reads_nil_iff {s t : Input} : s.Reads [] t ↔ s = t :=
  ⟨fun h ↦ by cases h; rfl, fun h ↦ h ▸ .nil s⟩

theorem reads_cons_iff {s t : Input} {l : Lexeme} {ls : List Lexeme} :
    s.Reads (l :: ls) t ↔ s.found = some l ∧ s.rest.Reads ls t :=
  ⟨fun h ↦ by cases h with | cons hl h => exact ⟨hl, h⟩, fun h ↦ .cons h.1 h.2⟩

theorem reads_append_iff {s t : Input} {ls ms : List Lexeme} :
    s.Reads (ls ++ ms) t ↔ ∃ u, s.Reads ls u ∧ u.Reads ms t := by
  induction ls generalizing s with
  | nil => simp [reads_nil_iff]
  | cons l ls ih => simp [reads_cons_iff, ih, and_assoc]

theorem expect_bind {α : Type} {s : Input} {m : Mark} {w : Expected}
    {k : Input → Except SyntaxError α} (h : s.found = some (.mark m)) :
    s.expect m w >>= k = k s.rest := by
  unfold expect
  rw [if_pos h]
  rfl

structure Stops (s : Input) : Prop where
  found : s.found ≠ none
  dot : s.found ≠ some (.mark .dot)
  openParen : s.found ≠ some (.mark .openParen)
  openBracket : s.found ≠ some (.mark .openBracket)

theorem stops_of_found {s : Input} {l : Lexeme} (h : s.found = some l)
    (hl : l ≠ .mark .dot ∧ l ≠ .mark .openParen ∧ l ≠ .mark .openBracket) : s.Stops := by
  constructor <;> rw [h]
  · simp
  · simpa using hl.1
  · simpa using hl.2.1
  · simpa using hl.2.2

end Input

theorem parseSuffixes_stop {fuel : ℕ} {e : Expr} {s : Input} (h : s.Stops) :
    parseSuffixes fuel e s = .ok (e, s) := by
  cases fuel with
  | zero => rfl
  | succ fuel =>
    unfold parseSuffixes
    split
    · next hf => exact absurd hf h.dot
    · next hf => exact absurd hf h.openParen
    · next hf => exact absurd hf h.openBracket
    · rfl
    · next hf => exact absurd hf h.found

/-- Reading an expression comes to extending the tree `e` from `t`, with the fuel that is left. -/
def Comes (fuel : ℕ) (s : Input) (ls : List Lexeme) (e : Expr) (t : Input) : Prop :=
  ∃ left, fuel ≤ left + ls.length ∧ parseExpression fuel s = parseSuffixes left e t

theorem Comes.eq_ok {fuel : ℕ} {s t : Input} {ls : List Lexeme} {e : Expr}
    (h : Comes fuel s ls e t) (ht : t.Stops) : parseExpression fuel s = .ok (e, t) := by
  obtain ⟨left, -, h⟩ := h
  rw [h, parseSuffixes_stop ht]

theorem Comes.extend {fuel : ℕ} {s t u : Input} {ls ms : List Lexeme} {e e' : Expr}
    (h : Comes fuel s ls e u) (hlen : ls.length < ms.length) (hfuel : ls.length < fuel)
    (hstep : ∀ left, fuel ≤ left + 1 + ls.length →
      parseSuffixes (left + 1) e u = parseSuffixes left e' t) : Comes fuel s ms e' t := by
  obtain ⟨_ | left, hleft, hp⟩ := h
  · omega
  · exact ⟨left, by omega, hp.trans (hstep left hleft)⟩

theorem DerivesPrimary.starts {ls : List Lexeme} {e : Expr} (h : DerivesPrimary ls e) :
    ∃ l ms, ls = l :: ms ∧ l ≠ .mark .closeParen := by
  cases h <;> exact ⟨_, _, rfl, by simp⟩

theorem DerivesPrimary.length_pos {ls : List Lexeme} {e : Expr} (h : DerivesPrimary ls e) :
    0 < ls.length := by
  obtain ⟨l, ms, rfl, -⟩ := h.starts
  exact Nat.zero_lt_succ _

theorem Derives.starts {ls : List Lexeme} {e : Expr} :
    Derives ls e → ∃ l ms, ls = l :: ms ∧ l ≠ .mark .closeParen
  | .primary h => h.starts
  | .member h | .method h _ | .call h _ | .index h _ => by
    obtain ⟨l, ms, rfl, hl⟩ := h.starts
    exact ⟨l, _, rfl, hl⟩

theorem DerivesRow.found_ne {ls : List Lexeme} {es : List Expr} {s t : Input}
    (h : DerivesRow ls es) (hr : s.Reads ls t) : s.found ≠ some (.mark .closeParen) := by
  obtain ⟨l, ms, rfl, hl⟩ : ∃ l ms, ls = l :: ms ∧ l ≠ .mark .closeParen := by
    cases h with
    | one h => exact h.starts
    | cons h _ =>
      obtain ⟨l, ms, rfl, hl⟩ := h.starts
      exact ⟨l, _, rfl, hl⟩
  rw [(Input.reads_cons_iff.1 hr).1]
  exact fun h ↦ hl (Option.some.inj h)

theorem DerivesProperties.found_ne {ls : List Lexeme} {ps : List (String × Expr)} {s t : Input}
    (h : DerivesProperties ls ps) (hr : s.Reads ls t) : s.found ≠ some (.mark .closeBrace) := by
  cases h with
  | one hk _ | cons hk _ _ =>
    rw [(Input.reads_cons_iff.1 hr).1]
    cases hk <;> simp

mutual

theorem Derives.comes {ls : List Lexeme} {e : Expr} {fuel : ℕ} {s t : Input} :
    Derives ls e → s.Reads ls t → 4 * ls.length ≤ fuel →
      (t.found = some (.mark .openParen) → ∃ n, e = .name n) → Comes fuel s ls e t
  | .primary h, hr, hf, _ => by
    have hpos := h.length_pos
    obtain _ | _ | fuel := fuel
    · omega
    · omega
    refine ⟨fuel + 1, by omega, ?_⟩
    unfold parseExpression
    rw [h.parsePrimary_eq hr (by omega)]
    rfl
  | @Derives.member ls e n h, hr, hf, ht => by
    simp only [Input.reads_append_iff, Input.reads_cons_iff, Input.reads_nil_iff] at hr
    obtain ⟨u, hu, hdot, hn, rfl⟩ := hr
    simp only [List.length_append, List.length_cons, List.length_nil] at hf
    have hc : Comes fuel s ls e u := h.comes hu (by omega) (by simp [hdot])
    refine hc.extend (by simp) (by omega) fun left _ ↦ ?_
    -- An access is no name, so no call can follow that would be read as one of a method.
    have hp : u.rest.rest.found ≠ some (.mark .openParen) := fun h ↦ by
      obtain ⟨_, h⟩ := ht h
      cases h
    conv_lhs => unfold parseSuffixes
    simp only [hdot, hn, if_neg hp]
  | @Derives.method ls as e n es h ha, hr, hf, _ => by
    simp only [Input.reads_append_iff, Input.reads_cons_iff, Input.reads_nil_iff] at hr
    obtain ⟨u, hu, hdot, hn, hopen, v, hv, hclose, rfl⟩ := hr
    simp only [List.length_append, List.length_cons, List.length_nil] at hf
    have hc : Comes fuel s ls e u := h.comes hu (by omega) (by simp [hdot])
    refine hc.extend (by simp) (by omega) fun left hleft ↦ ?_
    conv_lhs => unfold parseSuffixes
    simp only [hdot, hn, if_pos hopen]
    rw [ha.parseArguments_eq hv (by omega) hclose]
    exact Input.expect_bind hclose
  | @Derives.call ls as n es h ha, hr, hf, _ => by
    simp only [Input.reads_append_iff, Input.reads_cons_iff, Input.reads_nil_iff] at hr
    obtain ⟨u, hu, hopen, v, hv, hclose, rfl⟩ := hr
    simp only [List.length_append, List.length_cons, List.length_nil] at hf
    have hc : Comes fuel s ls (.name n) u := h.comes hu (by omega) fun _ ↦ ⟨n, rfl⟩
    refine hc.extend (by simp) (by omega) fun left hleft ↦ ?_
    conv_lhs => unfold parseSuffixes
    simp only [hopen]
    rw [ha.parseArguments_eq hv (by omega) hclose]
    exact Input.expect_bind hclose
  | @Derives.index ls ms e i h hi, hr, hf, _ => by
    simp only [Input.reads_append_iff, Input.reads_cons_iff, Input.reads_nil_iff] at hr
    obtain ⟨u, hu, hopen, v, hv, hclose, rfl⟩ := hr
    simp only [List.length_append, List.length_cons, List.length_nil] at hf
    have hc : Comes fuel s ls e u := h.comes hu (by omega) (by simp [hopen])
    refine hc.extend (by simp) (by omega) fun left hleft ↦ ?_
    have hi : Comes left u.rest ms i v := hi.comes hv (by omega) (by simp [hclose])
    conv_lhs => unfold parseSuffixes
    simp only [hopen]
    rw [hi.eq_ok (Input.stops_of_found hclose (by decide))]
    exact Input.expect_bind hclose

theorem DerivesPrimary.parsePrimary_eq {ls : List Lexeme} {e : Expr} {fuel : ℕ} {s t : Input} :
    DerivesPrimary ls e → s.Reads ls t → 4 * ls.length ≤ fuel + 2 →
      parsePrimary (fuel + 1) s = .ok (e, t)
  | .string _, hr, _ | .identifier _, hr, _ => by
    simp only [Input.reads_cons_iff, Input.reads_nil_iff] at hr
    obtain ⟨hl, rfl⟩ := hr
    unfold parsePrimary
    rw [hl]
  | .keyword k, hr, _ => by
    simp only [Input.reads_cons_iff, Input.reads_nil_iff] at hr
    obtain ⟨hl, rfl⟩ := hr
    unfold parsePrimary
    rw [hl]
    dsimp only
    rw [ofText?_text k]
  | .number hn, hr, _ => by
    simp only [Input.reads_cons_iff, Input.reads_nil_iff] at hr
    obtain ⟨hl, rfl⟩ := hr
    unfold parsePrimary
    rw [hl]
    dsimp only
    rw [hn]
  | .empty, hr, _ => by
    simp only [Input.reads_cons_iff, Input.reads_nil_iff] at hr
    obtain ⟨hopen, hclose, rfl⟩ := hr
    unfold parsePrimary
    rw [hopen]
    exact if_pos hclose
  | @DerivesPrimary.object ls ps h, hr, hf => by
    simp only [Input.reads_append_iff, Input.reads_cons_iff, Input.reads_nil_iff] at hr
    obtain ⟨hopen, v, hv, hclose, rfl⟩ := hr
    simp only [List.length_append, List.length_cons, List.length_nil] at hf
    unfold parsePrimary
    rw [hopen]
    dsimp only
    rw [if_neg (h.found_ne hv), h.parseProperties_eq hv (by omega) hclose]
    exact Input.expect_bind hclose
  | @DerivesPrimary.group ls e h, hr, hf => by
    simp only [Input.reads_append_iff, Input.reads_cons_iff, Input.reads_nil_iff] at hr
    obtain ⟨hopen, v, hv, hclose, rfl⟩ := hr
    simp only [List.length_append, List.length_cons, List.length_nil] at hf
    have hc : Comes fuel s.rest ls e v := h.comes hv (by omega) (by simp [hclose])
    unfold parsePrimary
    rw [hopen]
    dsimp only
    rw [hc.eq_ok (Input.stops_of_found hclose (by decide))]
    exact Input.expect_bind hclose

theorem DerivesArguments.parseArguments_eq {ls : List Lexeme} {es : List Expr} {fuel : ℕ}
    {s t : Input} : DerivesArguments ls es → s.Reads ls t → 4 * ls.length + 2 ≤ fuel →
      t.found = some (.mark .closeParen) → parseArguments fuel s = .ok (es, t)
  | .none, hr, hf, ht => by
    obtain rfl := Input.reads_nil_iff.1 hr
    obtain _ | fuel := fuel
    · omega
    exact if_pos ht
  | .some h, hr, hf, ht => by
    obtain _ | fuel := fuel
    · omega
    unfold parseArguments
    rw [if_neg (h.found_ne hr), h.parseMoreArguments_eq hr (by omega) ht]

theorem DerivesRow.parseMoreArguments_eq {ls : List Lexeme} {es : List Expr} {fuel : ℕ}
    {s t : Input} : DerivesRow ls es → s.Reads ls t → 4 * ls.length + 1 ≤ fuel →
      t.found = some (.mark .closeParen) → parseMoreArguments fuel s = .ok (es, t)
  | @DerivesRow.one ls e h, hr, hf, ht => by
    obtain _ | fuel := fuel
    · omega
    have hc : Comes fuel s ls e t := h.comes hr (by omega) (by simp [ht])
    unfold parseMoreArguments
    rw [hc.eq_ok (Input.stops_of_found ht (by decide))]
    exact if_neg (by simp [ht])
  | @DerivesRow.cons ls ms e es h hs, hr, hf, ht => by
    simp only [Input.reads_append_iff, Input.reads_cons_iff] at hr
    obtain ⟨u, hu, hcomma, hr⟩ := hr
    simp only [List.length_append, List.length_cons] at hf
    obtain _ | fuel := fuel
    · omega
    have hc : Comes fuel s ls e u := h.comes hu (by omega) (by simp [hcomma])
    unfold parseMoreArguments
    rw [hc.eq_ok (Input.stops_of_found hcomma (by decide))]
    refine (if_pos hcomma).trans ?_
    rw [hs.parseMoreArguments_eq hr (by omega) ht]
    rfl

theorem DerivesProperties.parseProperties_eq {ls : List Lexeme} {ps : List (String × Expr)}
    {fuel : ℕ} {s t : Input} : DerivesProperties ls ps → s.Reads ls t → 4 * ls.length + 1 ≤ fuel →
      t.found = some (.mark .closeBrace) → parseProperties fuel s = .ok (ps, t)
  | @DerivesProperties.one l k ls e hk h, hr, hf, ht => by
    simp only [Input.reads_cons_iff] at hr
    obtain ⟨hl, hcolon, hr⟩ := hr
    simp only [List.length_cons] at hf
    obtain _ | fuel := fuel
    · omega
    have hc : Comes fuel s.rest.rest ls e t := h.comes hr (by omega) (by simp [ht])
    unfold parseProperties
    rw [hl, Option.bind_some, Lexeme.key?_eq_some_iff.2 hk]
    dsimp only
    rw [Input.expect_bind hcolon, hc.eq_ok (Input.stops_of_found ht (by decide))]
    exact if_neg (by simp [ht])
  | @DerivesProperties.cons l k ls ms e ps hk h hs, hr, hf, ht => by
    simp only [Input.reads_append_iff, Input.reads_cons_iff] at hr
    obtain ⟨hl, hcolon, u, hu, hcomma, hr⟩ := hr
    simp only [List.length_append, List.length_cons] at hf
    obtain _ | fuel := fuel
    · omega
    have hc : Comes fuel s.rest.rest ls e u := h.comes hu (by omega) (by simp [hcomma])
    unfold parseProperties
    rw [hl, Option.bind_some, Lexeme.key?_eq_some_iff.2 hk]
    dsimp only
    rw [Input.expect_bind hcolon, hc.eq_ok (Input.stops_of_found hcomma (by decide))]
    refine (if_pos hcomma).trans ?_
    rw [hs.parseProperties_eq hr (by omega) ht]
    rfl

end

section

variable {ts rest : List Token} {t : Token} {e : Expr}

theorem parseExpression_of_derives {fuel : ℕ} (h : Derives (ts.map (·.lexeme)) e)
    (ht : t.lexeme = .eof) (hfuel : 4 * ts.length ≤ fuel) :
    parseExpression fuel ⟨ts ++ t :: rest⟩ = .ok (e, ⟨t :: rest⟩) := by
  have hend : Input.found ⟨t :: rest⟩ = some .eof := congrArg some ht
  have hc : Comes fuel ⟨ts ++ t :: rest⟩ (ts.map (·.lexeme)) e ⟨t :: rest⟩ :=
    h.comes (Input.reads_tokens ts _) (by simpa using hfuel) (by simp [hend])
  exact hc.eq_ok (Input.stops_of_found hend (by decide))

/-- A tree is read where it derives from the tokens up to the first that is an end. -/
theorem parseTokens_of_derives (h : Derives (ts.map (·.lexeme)) e) (ht : t.lexeme = .eof) :
    parseTokens (ts ++ t :: rest) = .ok e := by
  unfold parseTokens
  rw [parseExpression_of_derives h ht (by simp; omega)]
  exact if_pos (congrArg some ht)

end

end Flowgraph.Expr
