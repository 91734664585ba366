import Flowgraph.Expr.Nesting
import Flowgraph.Proofs.Expr.Completeness
import Mathlib.Data.List.Basic

namespace Flowgraph.Expr

variable {α β : Type}

namespace Input

theorem Reads.found_eq {s s' t t' : Input} {ls : List Lexeme} (h : s.Reads ls t)
    (h' : s'.Reads ls t') (hfound : t'.found = t.found) : s'.found = s.found := by
  cases h with
  | nil => rwa [reads_nil_iff.1 h']
  | cons hl _ => rw [hl, (reads_cons_iff.1 h').1]

theorem Reads.length_le {s t : Input} {ls : List Lexeme} (h : s.Reads ls t) :
    t.tokens.length ≤ s.tokens.length := by
  obtain ⟨ts, hts, -⟩ := h.tokens
  simp [hts]

theorem length_rest_le (s : Input) : s.rest.tokens.length ≤ s.tokens.length := by
  simp [Input.rest]

theorem Reads.length_rest_le {s t : Input} {ls : List Lexeme} (h : s.Reads ls t) :
    t.rest.tokens.length ≤ s.tokens.length :=
  Nat.le_trans t.length_rest_le h.length_le

theorem fail_bind {s : Input} {cause : Lexeme → SyntaxCause} {k : α → Except SyntaxError β} :
    (s.fail cause >>= k) = s.fail cause := by
  unfold fail
  cases s.tokens <;> rfl

theorem fail_ne_ok {s : Input} {cause : Lexeme → SyntaxCause} {a : α} : s.fail cause ≠ .ok a := by
  unfold fail
  cases s.tokens <;> nofun

theorem length_rest {s : Input} {l : Lexeme} (h : s.found = some l) :
    s.rest.tokens.length + 1 = s.tokens.length := by
  obtain ⟨_ | ⟨a, ts⟩⟩ := s
  · cases h
  · rfl

end Input

def Viable (D : List Lexeme → α → Prop) (ls : List Lexeme) : Prop := ∃ more a, D (ls ++ more) a

theorem Viable.of_derives {D : List Lexeme → α → Prop} {ls : List Lexeme} {a : α} (h : D ls a) :
    Viable D ls := ⟨[], a, by rwa [List.append_nil]⟩

/-- If all that derives can go on to what derives in another way, so can all that begins it. -/
theorem Viable.lift {D : List Lexeme → α → Prop} {D' : List Lexeme → β → Prop} {ls : List Lexeme}
    (h : Viable D ls) (hD : ∀ ls a, D ls a → Viable D' ls) : Viable D' ls := by
  obtain ⟨more, a, ha⟩ := h
  obtain ⟨more', b, hb⟩ := hD _ a ha
  exact ⟨more ++ more', b, by rwa [← List.append_assoc]⟩

/-- What a lexeme can be blamed for: an error of syntax, and one that is no keyword for being none. -/
def Lexeme.Earns (l : Lexeme) (cause : SyntaxCause) : Prop :=
  cause.kind = "ExpressionSyntaxError" ∨
    ∃ w, l = .keyword w ∧ Keyword.ofText? w = none ∧ cause = .unknownKeyword w

/-- An answer derives from the lexemes that have been read. At a complaint they are viable, and what
is found has earned it. -/
def Warrants (D : List Lexeme → α → Prop) (ls : List Lexeme) (t : Input) :
    Except (Lexeme → SyntaxCause) α → Prop
  | .ok a => D ls a
  | .error cause => Viable D ls ∧ ∀ l, t.found = some l → l.Earns (cause l)

theorem Warrants.imp {D : List Lexeme → α → Prop} {D' : List Lexeme → α → Prop}
    {ls ls' : List Lexeme} {t : Input} {r : Except (Lexeme → SyntaxCause) α} (h : Warrants D ls t r)
    (hD : ∀ a more, D (ls ++ more) a → D' (ls' ++ more) a) : Warrants D' ls' t r := by
  cases r with
  | ok a =>
    have hd := hD a [] (by rwa [List.append_nil])
    rwa [List.append_nil] at hd
  | error cause =>
    obtain ⟨⟨more, a, ha⟩, hearns⟩ := h
    exact ⟨⟨more, a, hD a more ha⟩, hearns⟩

/-- An answer goes on behind what has been read, and a complaint is about what is found there. -/
def conclude (t : Input) : Except (Lexeme → SyntaxCause) α → Except SyntaxError (α × Input)
  | .ok a => .ok (a, t)
  | .error cause => t.fail cause

/-- A reader takes in some lexemes, and comes to its conclusion by these and by what is found behind
them. More fuel makes no difference, nor does any other input that begins in the same way. -/
def Settles (D : List Lexeme → α → Prop) (f : ℕ → Input → Except SyntaxError (α × Input))
    (fuel : ℕ) (s : Input) : Prop :=
  ∃ ls t r, s.Reads ls t ∧ Warrants D ls t r ∧ ∀ fuel' s' t', fuel ≤ fuel' → s'.Reads ls t' →
    t'.found = t.found → f fuel' s' = conclude t' r

namespace Settles

variable {D : List Lexeme → α → Prop} {D' : List Lexeme → β → Prop} {fuel : ℕ} {s : Input}
  {f g : ℕ → Input → Except SyntaxError (α × Input)}

theorem answer {a : α} (h : D [] a) : Settles D (fun _ s ↦ .ok (a, s)) fuel s := by
  refine ⟨[], s, .ok a, .nil s, h, fun fuel' s' t' _ hr _ ↦ ?_⟩
  rw [Input.reads_nil_iff.1 hr]
  rfl

theorem blame (cause : Lexeme → SyntaxCause) (h : Viable D [])
    (hearns : ∀ l, s.found = some l → l.Earns (cause l)) :
    Settles D (fun _ s ↦ s.fail cause) fuel s := by
  refine ⟨[], s, .error cause, .nil s, ⟨h, hearns⟩, fun fuel' s' t' _ hr _ ↦ ?_⟩
  rw [Input.reads_nil_iff.1 hr]
  rfl

theorem complain (cause : Lexeme → SyntaxCause) (h : Viable D [])
    (hkind : ∀ l, (cause l).kind = "ExpressionSyntaxError") :
    Settles D (fun _ s ↦ s.fail cause) fuel s :=
  blame cause h fun l _ ↦ .inl (hkind l)

theorem spend (h : Settles D (fun fuel ↦ f (fuel + 1)) fuel s) : Settles D f (fuel + 1) s := by
  obtain ⟨ls, t, r, hr, hwarrants, hsame⟩ := h
  refine ⟨ls, t, r, hr, hwarrants, fun fuel' s' t' hfuel ↦ ?_⟩
  cases fuel' with
  | zero => omega
  | succ fuel' => exact hsame fuel' s' t' (by omega)

/-- A reader goes on behind some lexemes, by these and by what it finds there. -/
theorem ahead {ks : List Lexeme} {u : Input} (hu : s.Reads ks u)
    (h : Settles (fun ls ↦ D (ks ++ ls)) g fuel u)
    (hahead : ∀ fuel' s' u', s'.Reads ks u' → u'.found = u.found → f fuel' s' = g fuel' u') :
    Settles D f fuel s := by
  obtain ⟨ls, t, r, hr, hwarrants, hsame⟩ := h
  refine ⟨ks ++ ls, t, r, hu.append hr, hwarrants.imp fun a more ha ↦ ?_,
    fun fuel' s' t' hfuel hr' hfound ↦ ?_⟩
  · rwa [List.append_assoc]
  · obtain ⟨u', hu', ht'⟩ := Input.reads_append_iff.1 hr'
    rw [hahead fuel' s' u' hu' (hr.found_eq ht' hfound)]
    exact hsame fuel' u' t' hfuel ht' hfound

/-- What a reader does may depend on what it finds. -/
theorem look (h : Settles D g fuel s)
    (hlook : ∀ fuel' s', s'.found = s.found → f fuel' s' = g fuel' s') : Settles D f fuel s := by
  refine ahead (.nil s) h fun fuel' s' u' hu hfound ↦ ?_
  obtain rfl := Input.reads_nil_iff.1 hu
  exact hlook fuel' s' hfound

theorem next {l : Lexeme} (hl : s.found = some l) (h : Settles (fun ls ↦ D (l :: ls)) g fuel s.rest)
    (hnext : ∀ fuel' s', s'.found = some l → s'.rest.found = s.rest.found →
      f fuel' s' = g fuel' s'.rest) : Settles D f fuel s := by
  refine ahead (.one hl) h fun fuel' s' u' hu hfound ↦ ?_
  simp only [Input.reads_cons_iff, Input.reads_nil_iff] at hu
  obtain ⟨hl', rfl⟩ := hu
  exact hnext fuel' s' hl' hfound

theorem bind {k : α → ℕ → Input → Except SyntaxError (β × Input)} (hm : Settles D f fuel s)
    (hD : ∀ ls a, D ls a → Viable D' ls)
    (hk : ∀ ls a t, s.Reads ls t → D ls a → Settles (fun ms ↦ D' (ls ++ ms)) (k a) fuel t) :
    Settles D' (fun fuel' s' ↦ f fuel' s' >>= fun p ↦ k p.1 fuel' p.2) fuel s := by
  obtain ⟨ls, t, r, hr, hwarrants, hsame⟩ := hm
  cases r with
  | error cause =>
    refine ⟨ls, t, .error cause, hr, ⟨hwarrants.1.lift hD, hwarrants.2⟩,
      fun fuel' s' t' hfuel hr' hfound ↦ ?_⟩
    dsimp only
    rw [hsame fuel' s' t' hfuel hr' hfound]
    exact Input.fail_bind
  | ok a =>
    obtain ⟨ms, u, r, hu, hwarrants', hsame'⟩ := hk ls a t hr hwarrants
    refine ⟨ls ++ ms, u, r, hr.append hu, hwarrants'.imp fun b more hb ↦ ?_,
      fun fuel' s' u' hfuel hr' hfound ↦ ?_⟩
    · rwa [List.append_assoc]
    · obtain ⟨t', ht', hu'⟩ := Input.reads_append_iff.1 hr'
      dsimp only
      rw [hsame fuel' s' t' hfuel ht' (hu.found_eq hu' hfound)]
      exact hsame' fuel' t' u' hfuel hu' hfound

theorem mono {D' : List Lexeme → α → Prop} (h : Settles D f fuel s) (hD : ∀ ls a, D ls a → D' ls a) :
    Settles D' f fuel s := by
  obtain ⟨ls, t, r, hr, hwarrants, hsame⟩ := h
  exact ⟨ls, t, r, hr, hwarrants.imp fun a more ↦ hD _ a, hsame⟩

theorem expect {m : Mark} {w : Expected} (hD : Viable D [])
    (h : Settles (fun ls ↦ D (.mark m :: ls)) f fuel s.rest) :
    Settles D (fun fuel' s' ↦ s'.expect m w >>= f fuel') fuel s := by
  by_cases hm : s.found = some (.mark m)
  · exact next hm h fun fuel' s' hm' _ ↦ Input.expect_bind hm'
  · refine look (complain (.expected w) hD fun _ ↦ rfl) fun fuel' s' hfound ↦ ?_
    unfold Input.expect
    rw [if_neg (by rwa [hfound])]
    exact Input.fail_bind

theorem close {m : Mark} {w : Expected} {k : α → ℕ → Input → Except SyntaxError (β × Input)}
    (hm : Settles D f fuel s) (hD : ∀ ls a, D ls a → Viable D' (ls ++ [.mark m]))
    (hk : ∀ ls a t, s.Reads ls t → D ls a →
      Settles (fun ms ↦ D' (ls ++ [.mark m] ++ ms)) (k a) fuel t.rest) :
    Settles D' (fun fuel' s' ↦ f fuel' s' >>= fun p ↦ p.2.expect m w >>= k p.1 fuel')
      fuel s := by
  have hclosed (ls : List Lexeme) (a : α) (ha : D ls a) :
      ∃ more b, D' (ls ++ .mark m :: more) b := by
    obtain ⟨more, b, hb⟩ := hD ls a ha
    exact ⟨more, b, by rwa [List.append_cons]⟩
  refine hm.bind (k := fun a fuel' s' ↦ s'.expect m w >>= k a fuel') (fun ls a ha ↦ ?_)
    fun ls a t hr ha ↦ ?_
  · obtain ⟨more, b, hb⟩ := hclosed ls a ha
    exact ⟨.mark m :: more, b, hb⟩
  · obtain ⟨more, b, hb⟩ := hclosed ls a ha
    refine expect ⟨.mark m :: more, b, hb⟩ ?_
    simpa only [List.append_assoc, List.singleton_append] using hk ls a t hr ha

end Settles

theorem derives_x : Derives [.identifier "x"] (.name "x") := .primary (.identifier "x")

section

variable {fuel : ℕ} {s : Input}

/-- What is no mark is read alone, and by what it is. -/
theorem settles_word {l : Lexeme} (hfound : s.found = some l) (hmark : ∀ m, l ≠ .mark m) :
    Settles DerivesPrimary (fun fuel ↦ parsePrimary (fuel + 1)) fuel s := by
  have hx : Viable DerivesPrimary [] := ⟨[.identifier "x"], _, .identifier "x"⟩
  have hone {e : Expr} (hd : DerivesPrimary [l] e)
      (hnext : ∀ fuel' s', s'.found = some l → parsePrimary (fuel' + 1) s' = .ok (e, s'.rest)) :
      Settles DerivesPrimary (fun fuel ↦ parsePrimary (fuel + 1)) fuel s :=
    .next hfound (.answer hd) fun fuel' s' hs' _ ↦ hnext fuel' s' hs'
  cases l with
  | string t => exact hone (.string t) fun fuel' s' hs' ↦ by rw [parsePrimary, hs']
  | identifier n => exact hone (.identifier n) fun fuel' s' hs' ↦ by rw [parsePrimary, hs']
  | keyword w =>
    cases hk : Keyword.ofText? w with
    | some k =>
      obtain rfl := text_of_ofText? hk
      refine hone (.keyword k) fun fuel' s' hs' ↦ ?_
      simp only [parsePrimary, hs', hk]
    | none =>
      refine .look (.blame (fun _ ↦ .unknownKeyword w) hx fun l hl ↦ ?_) fun fuel' s' hs' ↦ ?_
      · exact .inr ⟨w, Option.some.inj (hl.symm.trans hfound), hk, rfl⟩
      · simp only [parsePrimary, hs', hfound, hk]
  | number t =>
    cases hl : numberValue? t with
    | some l =>
      refine hone (.number hl) fun fuel' s' hs' ↦ ?_
      simp only [parsePrimary, hs', hl]
    | none =>
      refine .look (.complain (fun _ ↦ .malformedNumber t) hx fun _ ↦ rfl) fun fuel' s' hs' ↦ ?_
      simp only [parsePrimary, hs', hfound, hl]
  | eof =>
    refine .look (.complain .unexpected hx fun _ ↦ rfl) fun fuel' s' hs' ↦ ?_
    rw [parsePrimary, hs', hfound]
  | mark m => exact absurd rfl (hmark m)

theorem settles_group (hfound : s.found = some (.mark .openParen))
    (hinner : Settles Derives parseExpression fuel s.rest) :
    Settles DerivesPrimary (fun fuel ↦ parsePrimary (fuel + 1)) fuel s := by
  refine .next hfound (.close (m := .closeParen) (w := .closeGroup)
    (k := fun e _ s ↦ .ok (e, s)) hinner (fun ls e hd ↦ ?_) fun ls e t hr hd ↦ ?_)
    fun fuel' s' hs' _ ↦ ?_
  · exact .of_derives (.group hd)
  · exact .answer (by simpa using DerivesPrimary.group hd)
  · rw [parsePrimary, hs']
    rfl

theorem settles_object (hfound : s.found = some (.mark .openBrace))
    (hproperties : Settles DerivesProperties parseProperties fuel s.rest) :
    Settles DerivesPrimary (fun fuel ↦ parsePrimary (fuel + 1)) fuel s := by
  by_cases hclose : s.rest.found = some (.mark .closeBrace)
  · refine .ahead (.cons hfound (.one hclose)) (.answer .empty) fun fuel' s' u' hu _ ↦ ?_
    simp only [Input.reads_cons_iff, Input.reads_nil_iff] at hu
    obtain ⟨hs', hclose', rfl⟩ := hu
    rw [parsePrimary, hs']
    exact if_pos hclose'
  · refine .next hfound (.close (m := .closeBrace) (w := .closeObject)
      (k := fun ps _ s ↦ .ok (.object ps, s)) hproperties (fun ls e hd ↦ ?_)
      fun ls e t hr hd ↦ ?_) fun fuel' s' hs' hrest ↦ ?_
    · exact .of_derives (.object hd)
    · exact .answer (by simpa using DerivesPrimary.object hd)
    · rw [parsePrimary, hs']
      exact if_neg (by rwa [hrest])

/-- The suffixes of what derives from some lexemes and more can be read from any input that is no
longer than another. -/
def SuffixesSettle (fuel : ℕ) (ks : List Lexeme) (s : Input) : Prop :=
  ∀ (ms : List Lexeme) (e : Expr) (t : Input), Derives (ks ++ ms) e →
    t.tokens.length ≤ s.tokens.length →
    Settles (fun ls ↦ Derives (ks ++ (ms ++ ls))) (fun fuel ↦ parseSuffixes fuel e) fuel t

variable {ks : List Lexeme} {e : Expr}

theorem settles_dot (hd : Derives ks e) (hfound : s.found = some (.mark .dot))
    (harguments : Settles DerivesArguments parseArguments fuel s.rest.rest.rest)
    (hmore : SuffixesSettle fuel ks s.rest) :
    Settles (fun ls ↦ Derives (ks ++ ls)) (fun fuel ↦ parseSuffixes (fuel + 1) e) fuel s := by
  by_cases hn : ∃ n, s.rest.found = some (.identifier n)
  · obtain ⟨n, hn⟩ := hn
    have hlength := s.rest.length_rest_le
    by_cases hp : s.rest.rest.found = some (.mark .openParen)
    · have hlength' := s.rest.rest.length_rest_le
      refine .ahead (.cons hfound (.cons hn (.one hp))) (.close (m := .closeParen)
        (w := .closeArguments) (k := fun as fuel ↦ parseSuffixes fuel (.method e n as))
        harguments (fun ls as has ↦ ?_) fun ls as t hr has ↦ ?_) fun fuel' s' u' hu _ ↦ ?_
      · exact .of_derives (hd.method has)
      · exact hmore _ _ _ (hd.method has) (by have := hr.length_rest_le; omega)
      · simp only [Input.reads_cons_iff, Input.reads_nil_iff] at hu
        obtain ⟨hdot, hn', hp', rfl⟩ := hu
        simp only [parseSuffixes, hdot, hn', if_pos hp']
    · refine .ahead (.cons hfound (.one hn)) (hmore _ _ _ hd.member hlength)
        fun fuel' s' u' hu hfound' ↦ ?_
      simp only [Input.reads_cons_iff, Input.reads_nil_iff] at hu
      obtain ⟨hdot, hn', rfl⟩ := hu
      simp only [parseSuffixes, hdot, hn', if_neg (hfound'.symm ▸ hp)]
  · refine .next hfound (.complain (.expected .propertyAfterDot) ?_ fun _ ↦ rfl)
      fun fuel' s' hs' hrest ↦ ?_
    · exact ⟨[.identifier "x"], _, hd.member⟩
    · unfold parseSuffixes
      rw [hs']
      dsimp only
      rw [hrest]
      split
      · next n hn' => exact absurd ⟨n, hn'⟩ hn
      · rfl

theorem settles_call (hd : Derives ks e) (hfound : s.found = some (.mark .openParen))
    (harguments : Settles DerivesArguments parseArguments fuel s.rest)
    (hmore : SuffixesSettle fuel ks s.rest) :
    Settles (fun ls ↦ Derives (ks ++ ls)) (fun fuel ↦ parseSuffixes (fuel + 1) e) fuel s := by
  by_cases hname : ∃ n, e = .name n
  · obtain ⟨n, rfl⟩ := hname
    refine .next hfound (.close (m := .closeParen) (w := .closeArguments)
      (k := fun as fuel ↦ parseSuffixes fuel (.call n as)) harguments (fun ls as has ↦ ?_)
      fun ls as t hr has ↦ ?_) fun fuel' s' hs' _ ↦ ?_
    · exact .of_derives (hd.call has)
    · exact hmore _ _ _ (hd.call has) hr.length_rest_le
    · unfold parseSuffixes
      rw [hs']
  · refine .look (.complain (fun _ ↦ .notCallable) (.of_derives (by rwa [List.append_nil]))
      fun _ ↦ rfl) fun fuel' s' hs' ↦ ?_
    unfold parseSuffixes
    rw [hs', hfound]
    cases e with
    | name n => exact absurd ⟨n, rfl⟩ hname
    | _ => rfl

theorem settles_index (hd : Derives ks e) (hfound : s.found = some (.mark .openBracket))
    (hindex : Settles Derives parseExpression fuel s.rest) (hmore : SuffixesSettle fuel ks s.rest) :
    Settles (fun ls ↦ Derives (ks ++ ls)) (fun fuel ↦ parseSuffixes (fuel + 1) e) fuel s := by
  refine .next hfound (.close (m := .closeBracket) (w := .closeIndex)
    (k := fun i fuel ↦ parseSuffixes fuel (.index e i)) hindex (fun ls i hi ↦ ?_)
    fun ls i t hr hi ↦ ?_) fun fuel' s' hs' _ ↦ ?_
  · exact .of_derives (hd.index hi)
  · exact hmore _ _ _ (hd.index hi) hr.length_rest_le
  · unfold parseSuffixes
    rw [hs']

end

mutual

theorem settles_parseExpression (fuel : ℕ) {s : Input} (h : 4 * s.tokens.length + 2 ≤ fuel) :
    Settles Derives parseExpression fuel s := by
  match fuel with
  | 0 => omega
  | fuel + 1 =>
    refine .spend (.bind (k := fun e fuel ↦ parseSuffixes fuel e)
      (settles_parsePrimary fuel (by omega)) (fun ls e hd ↦ ?_) fun ls e t hr hd ↦ ?_)
    · exact .of_derives (.primary hd)
    · have hlength := hr.length_le
      exact settles_parseSuffixes fuel (.primary hd) (by omega)
termination_by structural fuel

theorem settles_parsePrimary (fuel : ℕ) {s : Input} (h : 4 * s.tokens.length + 1 ≤ fuel) :
    Settles DerivesPrimary parsePrimary fuel s := by
  match fuel with
  | 0 => omega
  | fuel + 1 =>
    have hwrong (hlook : ∀ fuel' s', s'.found = s.found →
        parsePrimary (fuel' + 1) s' = s'.fail .unexpected) :
        Settles DerivesPrimary (fun fuel ↦ parsePrimary (fuel + 1)) fuel s :=
      .look (.complain .unexpected ⟨[.identifier "x"], _, .identifier "x"⟩ fun _ ↦ rfl) hlook
    refine .spend ?_
    cases hfound : s.found with
    | none => exact hwrong fun fuel' s' hs' ↦ by rw [parsePrimary, hs', hfound]
    | some l =>
      have hlength := Input.length_rest hfound
      cases l with
      | mark m =>
        cases m with
        | openParen => exact settles_group hfound (settles_parseExpression fuel (by omega))
        | openBrace => exact settles_object hfound (settles_parseProperties fuel (by omega))
        | _ => exact hwrong fun fuel' s' hs' ↦ by rw [parsePrimary, hs', hfound]
      | _ => exact settles_word hfound nofun
termination_by structural fuel

theorem settles_parseSuffixes (fuel : ℕ) {ks : List Lexeme} {e : Expr} {s : Input}
    (hd : Derives ks e) (h : 4 * s.tokens.length + 1 ≤ fuel) :
    Settles (fun ls ↦ Derives (ks ++ ls)) (fun fuel ↦ parseSuffixes fuel e) fuel s := by
  match fuel with
  | 0 => omega
  | fuel + 1 =>
    have hend : Derives (ks ++ []) e := by rwa [List.append_nil]
    refine .spend ?_
    by_cases hstops : s.Stops
    · refine .look (.answer hend) fun fuel' s' hs' ↦ parseSuffixes_stop ?_
      constructor <;> rw [hs']
      exacts [hstops.found, hstops.dot, hstops.openParen, hstops.openBracket]
    cases hfound : s.found with
    | none =>
      refine .look (.complain .unexpected (.of_derives hend) fun _ ↦ rfl) fun fuel' s' hs' ↦ ?_
      unfold parseSuffixes
      rw [hs', hfound]
    | some l =>
      have hlength := Input.length_rest hfound
      have hlength' := s.rest.length_rest_le
      have hlength'' := s.rest.rest.length_rest_le
      have hmore : SuffixesSettle fuel ks s.rest := by
        intro ms e' t hd' ht
        have hgo := settles_parseSuffixes fuel hd' (s := t) (by omega)
        simpa only [List.append_assoc] using hgo
      cases l with
      | mark m =>
        cases m with
        | dot => exact settles_dot hd hfound (settles_parseArguments fuel (by omega)) hmore
        | openParen => exact settles_call hd hfound (settles_parseArguments fuel (by omega)) hmore
        | openBracket => exact settles_index hd hfound (settles_parseExpression fuel (by omega)) hmore
        | _ => exact absurd (Input.stops_of_found hfound (by decide)) hstops
      | _ => exact absurd (Input.stops_of_found hfound (by simp)) hstops
termination_by structural fuel

theorem settles_parseArguments (fuel : ℕ) {s : Input} (h : 4 * s.tokens.length + 4 ≤ fuel) :
    Settles DerivesArguments parseArguments fuel s := by
  match fuel with
  | 0 => omega
  | fuel + 1 =>
    refine .spend ?_
    by_cases hclose : s.found = some (.mark .closeParen)
    · exact .look (.answer .none) fun fuel' s' hs' ↦ if_pos (hs'.trans hclose)
    · have hrow := settles_parseMoreArguments fuel (s := s) (by omega)
      exact .look (hrow.mono fun ls es ↦ .some) fun fuel' s' hs' ↦ if_neg (by rwa [hs'])
termination_by structural fuel

theorem settles_parseMoreArguments (fuel : ℕ) {s : Input} (h : 4 * s.tokens.length + 3 ≤ fuel) :
    Settles DerivesRow parseMoreArguments fuel s := by
  match fuel with
  | 0 => omega
  | fuel + 1 =>
    refine .spend (.bind (k := fun e fuel s ↦ if s.found = some (.mark .comma) then do
        let (es, s) ← parseMoreArguments fuel s.rest
        return (e :: es, s)
      else return ([e], s)) (settles_parseExpression fuel (by omega)) (fun ls e hd ↦ ?_)
      fun ls e t hr hd ↦ ?_)
    · exact .of_derives (.one hd)
    · by_cases hcomma : t.found = some (.mark .comma)
      · have ht := hr.length_le
        have hlength := Input.length_rest hcomma
        refine .next hcomma (.bind (k := fun es _ s ↦ .ok (e :: es, s))
          (settles_parseMoreArguments fuel (by omega)) (fun ms es hes ↦ ?_) fun ms es u _ hes ↦ ?_)
          fun fuel' s' hs' _ ↦ if_pos hs'
        · exact .of_derives (.cons hd hes)
        · refine .answer ?_
          rw [List.append_nil]
          exact .cons hd hes
      · refine .look (.answer ?_) fun fuel' s' hs' ↦ if_neg (by rwa [hs'])
        rw [List.append_nil]
        exact .one hd
termination_by structural fuel

theorem settles_parseProperties (fuel : ℕ) {s : Input} (h : 4 * s.tokens.length + 1 ≤ fuel) :
    Settles DerivesProperties parseProperties fuel s := by
  match fuel with
  | 0 => omega
  | fuel + 1 =>
    refine .spend ?_
    have hx : Viable DerivesProperties [] :=
      ⟨[.identifier "x", .mark .colon, .identifier "x"], _, .one (.identifier "x") derives_x⟩
    cases hkey : s.found.bind Lexeme.key? with
    | none =>
      refine .look (.complain (fun _ ↦ .expectedPropertyName) hx fun _ ↦ rfl) fun fuel' s' hs' ↦ ?_
      unfold parseProperties
      rw [hs', hkey]
    | some key =>
      obtain ⟨l, hl, hkey⟩ := Option.bind_eq_some_iff.1 hkey
      have hk := Lexeme.key?_eq_some_iff.1 hkey
      have hlength := Input.length_rest hl
      have hlength' := s.rest.length_rest_le
      refine .next hl (.expect (m := .colon) (w := .colonAfterProperty) ?_
        (.bind (k := fun e fuel s ↦ if s.found = some (.mark .comma) then do
            let (ps, s) ← parseProperties fuel s.rest
            return ((key, e) :: ps, s)
          else return ([(key, e)], s)) (settles_parseExpression fuel (by omega)) (fun ls e hd ↦ ?_)
          fun ls e t hr hd ↦ ?_)) fun fuel' s' hs' _ ↦ ?_
      · exact ⟨[.mark .colon, .identifier "x"], _, .one hk derives_x⟩
      · exact .of_derives (.one hk hd)
      · by_cases hcomma : t.found = some (.mark .comma)
        · have ht := hr.length_le
          have hlength := Input.length_rest hcomma
          refine .next hcomma (.bind (k := fun ps _ s ↦ .ok ((key, e) :: ps, s))
            (settles_parseProperties fuel (by omega)) (fun ms ps hps ↦ ?_) fun ms ps u _ hps ↦ ?_)
            fun fuel' s' hs' _ ↦ if_pos hs'
          · exact .of_derives (.cons hk hd hps)
          · refine .answer ?_
            rw [List.append_nil]
            exact .cons hk hd hps
        · refine .look (.answer ?_) fun fuel' s' hs' ↦ if_neg (by rwa [hs'])
          rw [List.append_nil]
          exact .one hk hd
      · rw [parseProperties, hs', Option.bind_some, hkey]
termination_by structural fuel

end

mutual

theorem Derives.eof_notMem {ls : List Lexeme} {e : Expr} : Derives ls e → .eof ∉ ls
  | .primary h => h.eof_notMem
  | .member h => by simp [h.eof_notMem]
  | .method h ha => by simp [h.eof_notMem, ha.eof_notMem]
  | .call h ha => by simp [h.eof_notMem, ha.eof_notMem]
  | .index h hi => by simp [h.eof_notMem, hi.eof_notMem]

theorem DerivesPrimary.eof_notMem {ls : List Lexeme} {e : Expr} : DerivesPrimary ls e → .eof ∉ ls
  | .string _ | .number _ | .keyword _ | .identifier _ | .empty => by simp
  | .object h => by simp [h.eof_notMem]
  | .group h => by simp [h.eof_notMem]

theorem DerivesArguments.eof_notMem {ls : List Lexeme} {es : List Expr} :
    DerivesArguments ls es → .eof ∉ ls
  | .none => List.not_mem_nil
  | .some h => h.eof_notMem

theorem DerivesRow.eof_notMem {ls : List Lexeme} {es : List Expr} : DerivesRow ls es → .eof ∉ ls
  | .one h => h.eof_notMem
  | .cons h hs => by simp [h.eof_notMem, hs.eof_notMem]

theorem DerivesProperties.eof_notMem {ls : List Lexeme} {ps : List (String × Expr)} :
    DerivesProperties ls ps → .eof ∉ ls
  | .one hk h => by cases hk <;> simp [h.eof_notMem]
  | .cons hk h hs => by cases hk <;> simp [h.eof_notMem, hs.eof_notMem]

end

theorem Viable.eof_notMem {ls : List Lexeme} (h : Viable Derives ls) : .eof ∉ ls := by
  obtain ⟨more, e, h⟩ := h
  exact fun hmem ↦ h.eof_notMem (List.mem_append_left _ hmem)

section

variable {ts : List Token} {e : Expr} {err : SyntaxError}

/-- What is read derives from the tokens up to one that is an end. -/
theorem derives_of_parseTokens (h : parseTokens ts = .ok e) : ∃ front t rest,
    ts = front ++ t :: rest ∧ t.lexeme = .eof ∧ Derives (front.map (·.lexeme)) e := by
  obtain ⟨ls, u, r, hr, hwarrants, hsame⟩ :=
    settles_parseExpression (4 * ts.length + 4) (s := ⟨ts⟩) (Nat.add_le_add_left (by omega) _)
  unfold parseTokens at h
  rw [hsame _ _ u le_rfl hr rfl] at h
  obtain ⟨front, hts, rfl⟩ := hr.tokens
  obtain ⟨rest⟩ := u
  cases r with
  | error cause => exact absurd (Input.fail_bind.symm.trans h) Input.fail_ne_ok
  | ok e' =>
    dsimp only [conclude, bind, Except.bind] at h
    split_ifs at h with hend
    · cases h
      obtain _ | ⟨t, rest⟩ := rest
      · cases hend
      · exact ⟨front, t, rest, hts, Option.some.inj hend, hwarrants⟩
    · exact absurd h Input.fail_ne_ok

/-- A complaint is about the token that comes next, or about there being none. -/
structure Input.Blames (s : Input) (err : SyntaxError) : Prop where
  exhausted : s.tokens = [] → err.cause = .exhausted
  token {t : Token} {rest : List Token} : s.tokens = t :: rest →
    err.position = t.position ∧ t.lexeme.Earns err.cause

theorem Input.blames_of_fail {s : Input} {cause : Lexeme → SyntaxCause}
    (h : (s.fail cause : Except SyntaxError α) = .error err)
    (hearns : ∀ l, s.found = some l → l.Earns (cause l)) : s.Blames err := by
  obtain ⟨_ | ⟨t, rest⟩⟩ := s
  · cases h
    exact ⟨fun _ ↦ rfl, nofun⟩
  · cases h
    refine ⟨nofun, fun ht ↦ ?_⟩
    obtain ⟨rfl, rfl⟩ := List.cons.inj ht
    exact ⟨rfl, hearns _ rfl⟩

/-- The parser complains of the first token that cannot stand behind those before it. -/
theorem parseTokens_error (h : parseTokens ts = .error err) : ∃ before after,
    ts = before ++ after ∧ Input.Blames ⟨after⟩ err ∧ Viable Derives (before.map (·.lexeme)) ∧
    ∀ us, Input.found ⟨us⟩ = Input.found ⟨after⟩ → ∀ e, parseTokens (before ++ us) ≠ .ok e := by
  obtain ⟨ls, u, r, hr, hwarrants, hsame⟩ :=
    settles_parseExpression (4 * ts.length + 4) (s := ⟨ts⟩) (Nat.add_le_add_left (by omega) _)
  have hself := hsame _ _ u le_rfl hr rfl
  obtain ⟨before, hts, rfl⟩ := hr.tokens
  obtain ⟨after⟩ := u
  have hother (us : List Token) (hus : Input.found ⟨us⟩ = Input.found ⟨after⟩) (e : Expr)
      (he : parseTokens (before ++ us) = .ok e) :
      ∃ t rest, t.lexeme = .eof ∧ conclude ⟨us⟩ r = .ok (e, ⟨t :: rest⟩) := by
    obtain ⟨front, t, rest, hfront, ht, hd⟩ := derives_of_parseTokens he
    refine ⟨t, rest, ht, ?_⟩
    rw [← hsame _ _ _ (le_max_left _ (4 * front.length)) (Input.reads_tokens before us) hus, hfront]
    exact parseExpression_of_derives hd ht (le_max_right _ _)
  unfold parseTokens at h
  rw [hself] at h
  cases r with
  | error cause =>
    have hblames := Input.blames_of_fail (Input.fail_bind.symm.trans h) hwarrants.2
    refine ⟨before, after, hts, hblames, hwarrants.1, fun us hus e he ↦ ?_⟩
    obtain ⟨t, rest, -, hconclude⟩ := hother us hus e he
    exact Input.fail_ne_ok hconclude
  | ok e' =>
    dsimp only [conclude, bind, Except.bind] at h
    split_ifs at h with hend
    · cases h
    · have hblames := Input.blames_of_fail h fun l _ ↦ .inl rfl
      refine ⟨before, after, hts, hblames, .of_derives hwarrants, fun us hus e he ↦ ?_⟩
      obtain ⟨t, rest, ht, hconclude⟩ := hother us hus e he
      cases hconclude
      exact hend (hus.symm.trans (congrArg some ht))

end

def Accepts (endPosition : ℕ) (ts : List Token) : Prop :=
  ∃ e, parseTokens (ts ++ [⟨.eof, endPosition⟩]) = .ok e

theorem parseTokens_eq_ok_iff {ts : List Token} {p : ℕ} {e : Expr}
    (heof : ∀ t ∈ ts, t.lexeme ≠ .eof) :
    parseTokens (ts ++ [⟨.eof, p⟩]) = .ok e ↔ Derives (ts.map (·.lexeme)) e := by
  refine ⟨fun h ↦ ?_, fun h ↦ parseTokens_of_derives h rfl⟩
  obtain ⟨front, t, rest, hts, ht, hd⟩ := derives_of_parseTokens h
  have hmem : t ∉ ts := fun hmem ↦ heof t hmem ht
  obtain ⟨rfl, -⟩ := (List.append_cons_inj_of_notMem hmem List.not_mem_nil).1 hts
  exact hd

theorem parseTokens_error_of_end {ts : List Token} {p : ℕ} {err : SyntaxError}
    (h : parseTokens (ts ++ [⟨.eof, p⟩]) = .error err) : ∃ before t after,
    ts ++ [⟨.eof, p⟩] = before ++ t :: after ∧ err.position = t.position ∧
    t.lexeme.Earns err.cause ∧ Viable Derives (before.map (·.lexeme)) ∧
    ∀ u us e, u.lexeme = t.lexeme → parseTokens (before ++ u :: us) ≠ .ok e := by
  obtain ⟨before, _ | ⟨t, after⟩, hts, hblames, hviable, hno⟩ := parseTokens_error h
  · rw [List.append_nil] at hts
    refine absurd hviable.eof_notMem (not_not_intro ?_)
    rw [← hts]
    simp
  · obtain ⟨hposition, hearns⟩ := hblames.token rfl
    exact ⟨before, t, after, hts, hposition, hearns, hviable,
      fun u us e hu ↦ hno (u :: us) (congrArg some hu) e⟩

theorem tokenize_of_scan {text : String} {ts : List Token} (h : Token.scan text = .ok ts) :
    tokenize text = .ok (ts ++ [⟨.eof, text.length⟩]) := by
  unfold tokenize
  rw [h]

theorem parse_of_scan {text : String} {ts : List Token} (h : Token.scan text = .ok ts) :
    parse text = parseTokens (ts ++ [⟨.eof, text.length⟩]) := by
  unfold parse
  rw [tokenize_of_scan h]
  rfl

theorem depths_concat_end (ts : List Token) (p now greatest : ℕ) :
    depths now greatest (ts ++ [⟨.eof, p⟩]) = depths now greatest ts := by
  induction ts generalizing now greatest with
  | nil => rfl
  | cons t ts ih =>
    rw [List.cons_append, depths, depths]
    split <;> exact ih _ _

theorem parseWithin_of_parse {room : ℕ} {text : String} {ts : List Token} {e : Expr}
    (hscan : Token.scan text = .ok ts) (h : parse text = .ok e) :
    parseWithin room text = if room < nesting ts then .error .tooDeep else .ok e := by
  rw [parse_of_scan hscan] at h
  unfold parseWithin
  rw [tokenize_of_scan hscan]
  dsimp only
  rw [h, nesting, depths_concat_end]
  rfl

theorem exists_scan_of_parse {text : String} {e : Expr} (h : parse text = .ok e) :
    ∃ ts, Token.scan text = .ok ts := by
  unfold parse tokenize at h
  cases hscan : Token.scan text with
  | ok ts => exact ⟨ts, rfl⟩
  | error d =>
    rw [hscan] at h
    cases h

theorem Viable.accepts {ts : List Token} (h : Viable Derives (ts.map (·.lexeme))) (p : ℕ) :
    ∃ more, Accepts p (ts ++ more) := by
  obtain ⟨ls, e, h⟩ := h
  refine ⟨ls.map fun l ↦ ⟨l, 0⟩, e, parseTokens_of_derives ?_ rfl⟩
  simpa [Function.comp_def] using h

end Flowgraph.Expr
