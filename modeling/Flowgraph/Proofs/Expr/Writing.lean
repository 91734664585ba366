import Flowgraph.Expr.Writer
import Flowgraph.Proofs.Expr.Viability
import Flowgraph.Proofs.Expr.Scanning
import Flowgraph.Proofs.Number.Digits
import Mathlib

namespace Flowgraph.Expr

mutual

def literals : Expr → List Literal
  | literal l => [l]
  | name _ => []
  | object ps => literalsOfProperties ps
  | member e _ => e.literals
  | index e i => e.literals ++ i.literals
  | call _ as => literalsOfRow as
  | method e _ as => e.literals ++ literalsOfRow as
termination_by structural e => e

def literalsOfRow : List Expr → List Literal
  | [] => []
  | e :: es => e.literals ++ literalsOfRow es
termination_by structural es => es

def literalsOfProperties : List (String × Expr) → List Literal
  | [] => []
  | (_, e) :: ps => e.literals ++ literalsOfProperties ps
termination_by structural ps => ps

end

mutual

/-- The names in an expression: those looked up and those of members, functions and methods. -/
def names : Expr → List String
  | literal _ => []
  | name n => [n]
  | object ps => namesOfProperties ps
  | member e p => e.names ++ [p]
  | index e i => e.names ++ i.names
  | call f as => f :: namesOfRow as
  | method e m as => e.names ++ m :: namesOfRow as
termination_by structural e => e

def namesOfRow : List Expr → List String
  | [] => []
  | e :: es => e.names ++ namesOfRow es
termination_by structural es => es

def namesOfProperties : List (String × Expr) → List String
  | [] => []
  | (_, e) :: ps => e.names ++ namesOfProperties ps
termination_by structural ps => ps

end

def Literal.IsFloat : Literal → Prop
  | float _ => True
  | _ => False

def Literal.IsWritable : Literal → Prop
  | int n => 0 ≤ n ∧ n < 10 ^ Number.longestInteger
  | float _ => False
  | null | bool _ | str _ => True

structure IsName (n : String) : Prop where
  word : ∃ c w, n = String.ofList (c :: w) ∧ isNameStart c = true ∧ ∀ d ∈ w, isNameChar d = true
  not_keyword : ∀ k : Keyword, n ≠ k.text

/-- An expression without floats, whose integers have numerals and whose names are names. Keys of
objects may be any texts. -/
structure Writable (e : Expr) : Prop where
  literals : ∀ l ∈ e.literals, l.IsWritable
  names : ∀ n ∈ e.names, IsName n

theorem ofText?_eq_none_iff {n : String} : Keyword.ofText? n = none ↔ ∀ k : Keyword, n ≠ k.text := by
  constructor
  · rintro h k rfl
    cases k <;> cases h
  · intro h
    unfold Keyword.ofText?
    split
    · exact absurd rfl (h .true)
    · exact absurd rfl (h .false)
    · exact absurd rfl (h .null)
    · rfl

theorem IsName.spelling {n : String} (h : IsName n) : (Lexeme.identifier n).Spelling n.toList := by
  obtain ⟨⟨c, w, rfl, hc, hw⟩, hk⟩ := h
  have hword : Lexeme.ofWord (c :: w) = .identifier (String.ofList (c :: w)) := by
    unfold Lexeme.ofWord
    rw [ofText?_eq_none_iff.2 hk]
  rw [← hword, String.toList_ofList]
  exact .word hc hw

theorem spelling_keyword (k : Keyword) : (Lexeme.keyword k.text).Spelling k.text.toList := by
  have hword (c : Char) (w : List Char) (h : Lexeme.ofWord (c :: w) = .keyword k.text)
      (hc : isNameStart c = true) (hw : w.all isNameChar = true) :
      (Lexeme.keyword k.text).Spelling (c :: w) := by
    rw [← h]
    exact .word hc (List.all_eq_true.1 hw)
  cases k with
  | true => exact hword 't' ['r', 'u', 'e'] rfl rfl rfl
  | false => exact hword 'f' ['a', 'l', 's', 'e'] rfl rfl rfl
  | null => exact hword 'n' ['u', 'l', 'l'] rfl rfl rfl

theorem scanString_escaped (cs : List Char) :
    ∃ n, scanString '"' (cs.flatMap escaped ++ ['"']) = some (cs, n, []) := by
  induction cs with
  | nil => exact ⟨1, rfl⟩
  | cons c cs ih =>
    obtain ⟨n, hn⟩ := ih
    rw [List.flatMap_cons, List.append_assoc, escaped]
    split
    · refine ⟨n + 2, ?_⟩
      rw [List.cons_append, List.singleton_append, scanString]
      simp [hn]
    · next h =>
      rw [Bool.or_eq_true, not_or] at h
      refine ⟨n + 1, ?_⟩
      rw [List.singleton_append, scanString.eq_def]
      simp only [if_neg h.1, if_neg h.2, hn]
      rfl

theorem spelling_inQuotes (s : String) : (Lexeme.string s).Spelling (inQuotes s) := by
  obtain ⟨n, hn⟩ := scanString_escaped s.toList
  have h : (Lexeme.string (String.ofList s.toList)).Spelling (inQuotes s) := .string rfl hn
  rwa [String.ofList_toList] at h

theorem isAsciiDigit_of_mem_toDigits {n : ℕ} {c : Char} (h : c ∈ Nat.toDigits 10 n) :
    Text.isAsciiDigit c = true := by
  have hd := Nat.isDigit_of_mem_toDigits (by decide) (by decide) h
  simpa [Char.isDigit, Text.isAsciiDigit, Char.le_def] using hd

theorem spelling_numeral (n : ℕ) :
    (Lexeme.number (String.ofList (Nat.toDigits 10 n))).Spelling (Nat.toDigits 10 n) := by
  have hdigits : ∀ c ∈ Nat.toDigits 10 n, Text.isAsciiDigit c = true :=
    fun c hc ↦ isAsciiDigit_of_mem_toDigits hc
  obtain ⟨c, w, hcw⟩ := List.exists_cons_of_ne_nil (Nat.toDigits_ne_nil (n := n) (b := 10))
  rw [hcw] at hdigits ⊢
  obtain ⟨hc, hw⟩ := List.forall_mem_cons.1 hdigits
  refine .number hc fun d hd ↦ ?_
  rw [isNumberChar, hw d hd, Bool.true_or]

theorem numberValue?_numeral {n : ℕ} (h : n < 10 ^ Number.longestInteger) :
    numberValue? (String.ofList (Nat.toDigits 10 n)) = some (.int n) := by
  have hdigits : ∀ c ∈ Nat.toDigits 10 n, Text.isAsciiDigit c = true :=
    fun c hc ↦ isAsciiDigit_of_mem_toDigits hc
  have hvalue : Number.digitsValue (Nat.toDigits 10 n) = n :=
    Nat.ofDigitChars_toDigits (by decide) (by decide)
  have hlen : (Nat.toDigits 10 n).length ≤ Number.longestInteger :=
    (Nat.length_toDigits_le_iff (by decide) (by decide)).2 h
  have hwhole : NumberLiteral _ _ :=
    .whole Nat.toDigits_ne_nil hdigits hlen
  rw [hvalue] at hwhole
  refine (numberValue?_eq_some_iff fun c hc ↦ ?_).2 hwhole
  rw [isNumberChar, hdigits c (by simpa using hc), Bool.true_or]

def Fence (s : List Char) : Prop := ∀ c ∈ s.head?, isNameChar c = false ∧ isNumberChar c = false

theorem Fence.endsBefore {s : List Char} (h : Fence s) (l : Lexeme) : l.EndsBefore s := by
  cases l with
  | mark | string | eof => trivial
  | number => exact fun c hc ↦ (h c hc).2
  | identifier | keyword => exact fun c hc ↦ (h c hc).1

theorem fence_mark {m : Mark} (hm : m ≠ .dot) (s : List Char) : Fence (m.char :: s) := by
  intro c hc
  cases hc
  cases m with
  | dot => exact absurd rfl hm
  | _ => decide

def Writes (w : List Char) (ls : List Lexeme) : Prop :=
  ∀ s ks, Fence s → Splits s ks → Splits (w ++ s) (ls ++ ks)

namespace Writes

variable {w v : List Char} {ls ms : List Lexeme} {l : Lexeme}

theorem nil : Writes [] [] := fun _ _ _ h ↦ h

theorem one (h : l.Spelling w) : Writes w [l] := fun _ _ hs h' ↦ .cons h (hs.endsBefore l) h'

theorem mark (m : Mark) (h : Writes w ls) : Writes (m.char :: w) (.mark m :: ls) := by
  intro s ks hs hk
  exact .cons (w := [m.char]) (.mark m) trivial (h s ks hs hk)

/-- A mark other than a point ends what is before it. -/
theorem append_mark {m : Mark} (h : Writes w ls) (hm : m ≠ .dot) (h' : Writes v ms) :
    Writes (w ++ m.char :: v) (ls ++ .mark m :: ms) := by
  intro s ks hs hk
  have hrest : Splits (m.char :: (v ++ s)) (.mark m :: (ms ++ ks)) := h'.mark m s ks hs hk
  have hall := h _ _ (fence_mark hm _) hrest
  simpa using hall

/-- What is between parentheses and what is behind them. -/
theorem group (h : Writes w ls) (h' : Writes v ms) :
    Writes ('(' :: (w ++ ')' :: v)) (.mark .openParen :: (ls ++ .mark .closeParen :: ms)) :=
  (h.append_mark (m := .closeParen) (by decide) h').mark .openParen

theorem exists_scan (h : Writes w ls) :
    ∃ ts, Token.scan (String.ofList w) = .ok ts ∧ ts.map (·.lexeme) = ls := by
  have hsplits : Splits w ls := by
    have hall := h [] [] (fun c hc ↦ by cases hc) .nil
    rwa [List.append_nil, List.append_nil] at hall
  unfold Token.scan
  rw [String.toList_ofList]
  exact hsplits.scanFrom 0

end Writes

theorem exists_writes_literal {l : Literal} (h : l.IsWritable) :
    ∃ ls, DerivesPrimary ls (.literal l) ∧ Writes l.written ls := by
  cases l with
  | null => exact ⟨_, .keyword .null, .one (spelling_keyword .null)⟩
  | bool b =>
    cases b with
    | true => exact ⟨_, .keyword .true, .one (spelling_keyword .true)⟩
    | false => exact ⟨_, .keyword .false, .one (spelling_keyword .false)⟩
  | int n =>
    obtain ⟨n, rfl⟩ := Int.eq_ofNat_of_zero_le h.1
    refine ⟨_, .number (numberValue?_numeral (by exact_mod_cast h.2)), .one ?_⟩
    exact spelling_numeral n
  | float x => exact h.elim
  | str s => exact ⟨_, .string s, .one (spelling_inQuotes s)⟩

theorem derivesArguments_of_row {ls : List Lexeme} {es : List Expr}
    (h : es = [] ∧ ls = [] ∨ DerivesRow ls es) : DerivesArguments ls es := by
  obtain ⟨rfl, rfl⟩ | h := h
  · exact .none
  · exact .some h

mutual

theorem exists_writes (e : Expr) (hl : ∀ l ∈ e.literals, l.IsWritable)
    (hn : ∀ n ∈ e.names, IsName n) : ∃ ls, Derives ls e ∧ Writes e.written ls := by
  match e with
  | .literal l =>
    obtain ⟨ls, hd, hw⟩ := exists_writes_literal (hl l List.mem_cons_self)
    exact ⟨ls, .primary hd, hw⟩
  | .name n =>
    exact ⟨_, .primary (.identifier n), .one (hn n List.mem_cons_self).spelling⟩
  | .object ps =>
    obtain ⟨ls, ⟨rfl, rfl⟩ | hd, hw⟩ := exists_writesProperties ps hl hn
    · exact ⟨_, .primary .empty, (Writes.nil.mark .closeBrace).mark .openBrace⟩
    · have hclose := hw.append_mark (m := .closeBrace) (by decide) .nil
      exact ⟨_, .primary (.object hd), hclose.mark .openBrace⟩
  | .member e p =>
    simp only [literals, names, List.forall_mem_append, List.forall_mem_singleton] at hl hn
    obtain ⟨ls, hd, hw⟩ := exists_writes e hl hn.1
    have hp := (Writes.one hn.2.spelling).mark .dot
    refine ⟨_, .member (.primary (.group hd)), ?_⟩
    simpa [written, Mark.char] using hw.group hp
  | .index e i =>
    simp only [literals, names, List.forall_mem_append] at hl hn
    obtain ⟨ls, hd, hw⟩ := exists_writes e hl.1 hn.1
    obtain ⟨ms, hdi, hwi⟩ := exists_writes i hl.2 hn.2
    have hclose := (hwi.append_mark (m := .closeBracket) (by decide) .nil).mark .openBracket
    refine ⟨_, .index (.primary (.group hd)) hdi, ?_⟩
    simpa [written, Mark.char] using hw.group hclose
  | .call f as =>
    simp only [literals, names, List.forall_mem_cons] at hl hn
    obtain ⟨ls, hd, hw⟩ := exists_writesRow as hl hn.2
    have hf := Writes.one hn.1.spelling
    have hclose := hw.append_mark (m := .closeParen) (by decide) .nil
    refine ⟨_, .call (.primary (.identifier f)) (derivesArguments_of_row hd), ?_⟩
    exact hf.append_mark (m := .openParen) (by decide) hclose
  | .method e m as =>
    simp only [literals, names, List.forall_mem_append, List.forall_mem_cons] at hl hn
    obtain ⟨ls, hd, hw⟩ := exists_writes e hl.1 hn.1
    obtain ⟨ms, hda, hwa⟩ := exists_writesRow as hl.2 hn.2.2
    have hm := Writes.one hn.2.1.spelling
    have hclose := hwa.append_mark (m := .closeParen) (by decide) .nil
    have hcall := (hm.append_mark (m := .openParen) (by decide) hclose).mark .dot
    refine ⟨_, .method (.primary (.group hd)) (derivesArguments_of_row hda), ?_⟩
    simpa [written, Mark.char] using hw.group hcall
termination_by structural e

theorem exists_writesRow (es : List Expr) (hl : ∀ l ∈ literalsOfRow es, l.IsWritable)
    (hn : ∀ n ∈ namesOfRow es, IsName n) :
    ∃ ls, (es = [] ∧ ls = [] ∨ DerivesRow ls es) ∧ Writes (writtenRow es) ls := by
  match es with
  | [] => exact ⟨[], .inl ⟨rfl, rfl⟩, .nil⟩
  | e :: es =>
    simp only [literalsOfRow, namesOfRow, List.forall_mem_append] at hl hn
    obtain ⟨ls, hd, hw⟩ := exists_writes e hl.1 hn.1
    obtain ⟨ms, ⟨rfl, rfl⟩ | hds, hws⟩ := exists_writesRow es hl.2 hn.2
    · refine ⟨ls, .inr (.one hd), ?_⟩
      simpa [writtenRow] using hw
    · have hes : es ≠ [] := by
        rintro rfl
        cases hds
      refine ⟨_, .inr (.cons hd hds), ?_⟩
      simpa [writtenRow, hes, Mark.char] using hw.append_mark (m := .comma) (by decide) hws
termination_by structural es

theorem exists_writesProperties (ps : List (String × Expr))
    (hl : ∀ l ∈ literalsOfProperties ps, l.IsWritable)
    (hn : ∀ n ∈ namesOfProperties ps, IsName n) :
    ∃ ls, (ps = [] ∧ ls = [] ∨ DerivesProperties ls ps) ∧ Writes (writtenProperties ps) ls := by
  match ps with
  | [] => exact ⟨[], .inl ⟨rfl, rfl⟩, .nil⟩
  | (k, e) :: ps =>
    simp only [literalsOfProperties, namesOfProperties, List.forall_mem_append] at hl hn
    obtain ⟨ls, hd, hw⟩ := exists_writes e hl.1 hn.1
    have hk := Writes.one (spelling_inQuotes k)
    obtain ⟨ms, ⟨rfl, rfl⟩ | hds, hws⟩ := exists_writesProperties ps hl.2 hn.2
    · refine ⟨_, .inr (.one (.string k) hd), ?_⟩
      simpa [writtenProperties, Mark.char] using hk.append_mark (m := .colon) (by decide) hw
    · have hps : ps ≠ [] := by
        rintro rfl
        cases hds
      have hmore := hw.append_mark (m := .comma) (by decide) hws
      refine ⟨_, .inr (.cons (.string k) hd hds), ?_⟩
      simpa [writtenProperties, hps, Mark.char] using hk.append_mark (m := .colon) (by decide) hmore
termination_by structural ps

end

/-- A writable expression is what its text is read as. -/
theorem parse_write_of_writable {e : Expr} (h : e.Writable) : parse e.write = .ok e := by
  obtain ⟨ls, hd, hw⟩ := exists_writes e h.literals h.names
  obtain ⟨ts, hts, rfl⟩ := hw.exists_scan
  rw [write, parse_of_scan hts]
  exact parseTokens_of_derives hd rfl

theorem isWritable_or_isFloat {s : String} {l : Literal} (h : NumberLiteral s l) :
    l.IsWritable ∨ l.IsFloat := by
  cases h with
  | @whole ds _ hd hlen =>
    have hlt := Number.digitsValue_lt hd
    have hle := Nat.pow_le_pow_right (n := 10) (by decide) hlen
    exact .inl ⟨Int.natCast_nonneg _, by exact_mod_cast Nat.lt_of_lt_of_le hlt hle⟩
  | pointed => exact .inr trivial

def Lexeme.IsProper : Lexeme → Prop
  | identifier n => IsName n
  | number s => ∀ c ∈ s.toList, isNumberChar c = true
  | keyword w => ∃ k : Keyword, k.text = w
  | mark _ | string _ => True
  | eof => False

theorem Lexeme.Spelling.isProper {l : Lexeme} {w : List Char} (h : l.Spelling w) : l.IsProper := by
  cases h with
  | mark | string => trivial
  | number hc hw =>
    simpa [IsProper, isNumberChar, hc] using hw
  | @word c w hc hw =>
    unfold Lexeme.ofWord
    split
    · exact ⟨_, rfl⟩
    · next hk => exact ⟨⟨c, w, rfl, hc, hw⟩, ofText?_eq_none_iff.1 hk⟩

theorem Spells.isProper {s : List Char} {ls : List Lexeme} (h : Spells s ls) :
    ∀ l ∈ ls, l.IsProper := by
  induction h with
  | nil => exact List.forall_mem_nil _
  | blank _ _ ih => exact ih
  | lexeme hw _ ih => exact List.forall_mem_cons.2 ⟨hw.isProper, ih⟩

structure Legible (ls : List Literal) (ns : List String) : Prop where
  literals : ∀ l ∈ ls, l.IsWritable ∨ l.IsFloat
  names : ∀ n ∈ ns, IsName n

namespace Legible

theorem nil : Legible [] [] := ⟨List.forall_mem_nil _, List.forall_mem_nil _⟩

theorem literal {l : Literal} (h : l.IsWritable ∨ l.IsFloat) : Legible [l] [] :=
  ⟨List.forall_mem_singleton.2 h, List.forall_mem_nil _⟩

theorem name {n : String} (h : IsName n) : Legible [] [n] :=
  ⟨List.forall_mem_nil _, List.forall_mem_singleton.2 h⟩

theorem append {ls ls' : List Literal} {ns ns' : List String} (h : Legible ls ns)
    (h' : Legible ls' ns') : Legible (ls ++ ls') (ns ++ ns') :=
  ⟨List.forall_mem_append.2 ⟨h.literals, h'.literals⟩, List.forall_mem_append.2 ⟨h.names, h'.names⟩⟩

end Legible

mutual

theorem Derives.legible {ls : List Lexeme} {e : Expr} :
    Derives ls e → (∀ l ∈ ls, l.IsProper) → Legible e.literals e.names
  | .primary h, hls => h.legible hls
  | @Derives.member ls e n h, hls => by
    simp only [List.forall_mem_append, List.forall_mem_cons] at hls
    obtain ⟨hls, -, hn, -⟩ := hls
    simpa [literals, names] using (h.legible hls).append (.name hn)
  | @Derives.method ls as e n es h ha, hls => by
    simp only [List.forall_mem_append, List.forall_mem_cons] at hls
    obtain ⟨hls, -, hn, -, has, -⟩ := hls
    simpa [literals, names] using ((h.legible hls).append (.name hn)).append (ha.legible has)
  | @Derives.call ls as n es h ha, hls => by
    simp only [List.forall_mem_append, List.forall_mem_cons] at hls
    obtain ⟨hls, -, has, -⟩ := hls
    simpa [literals, names] using (h.legible hls).append (ha.legible has)
  | @Derives.index ls ms e i h hi, hls => by
    simp only [List.forall_mem_append, List.forall_mem_cons] at hls
    obtain ⟨hls, -, hms, -⟩ := hls
    exact (h.legible hls).append (hi.legible hms)

theorem DerivesPrimary.legible {ls : List Lexeme} {e : Expr} :
    DerivesPrimary ls e → (∀ l ∈ ls, l.IsProper) → Legible e.literals e.names
  | .string s, _ => .literal (.inl trivial)
  | @DerivesPrimary.number t l hl, hls =>
    .literal (isWritable_or_isFloat ((numberValue?_eq_some_iff (hls (.number t) List.mem_cons_self)).1 hl))
  | .keyword k, _ => .literal (.inl (by cases k <;> trivial))
  | .identifier n, hls => .name (hls (.identifier n) List.mem_cons_self)
  | .empty, _ => .nil
  | @DerivesPrimary.object ls ps h, hls => by
    simp only [List.forall_mem_append, List.forall_mem_cons] at hls
    exact h.legible hls.2.1
  | @DerivesPrimary.group ls e h, hls => by
    simp only [List.forall_mem_append, List.forall_mem_cons] at hls
    exact h.legible hls.2.1

theorem DerivesArguments.legible {ls : List Lexeme} {es : List Expr} :
    DerivesArguments ls es → (∀ l ∈ ls, l.IsProper) → Legible (literalsOfRow es) (namesOfRow es)
  | .none, _ => .nil
  | .some h, hls => h.legible hls

theorem DerivesRow.legible {ls : List Lexeme} {es : List Expr} :
    DerivesRow ls es → (∀ l ∈ ls, l.IsProper) → Legible (literalsOfRow es) (namesOfRow es)
  | .one h, hls => (h.legible hls).append .nil
  | @DerivesRow.cons ls ms e es h hs, hls => by
    simp only [List.forall_mem_append, List.forall_mem_cons] at hls
    obtain ⟨hls, -, hms⟩ := hls
    exact (h.legible hls).append (hs.legible hms)

theorem DerivesProperties.legible {ls : List Lexeme} {ps : List (String × Expr)} :
    DerivesProperties ls ps → (∀ l ∈ ls, l.IsProper) →
      Legible (literalsOfProperties ps) (namesOfProperties ps)
  | @DerivesProperties.one l k ls e _ h, hls => by
    simp only [List.forall_mem_cons] at hls
    exact (h.legible hls.2.2).append .nil
  | @DerivesProperties.cons l k ls ms e ps _ h hs, hls => by
    simp only [List.forall_mem_append, List.forall_mem_cons] at hls
    obtain ⟨-, -, hls, -, hms⟩ := hls
    exact (h.legible hls).append (hs.legible hms)

end

theorem isProper_of_scan {text : String} {ts : List Token} (h : Token.scan text = .ok ts) :
    ∀ l ∈ ts.map (·.lexeme), l.IsProper :=
  (spells_of_scan h).isProper

theorem ne_eof_of_scan {text : String} {ts : List Token} (h : Token.scan text = .ok ts) :
    ∀ t ∈ ts, t.lexeme ≠ .eof := by
  intro t ht heof
  have hproper := isProper_of_scan h _ (List.mem_map_of_mem ht)
  rwa [heof] at hproper

theorem derives_of_parse {text : String} {ts : List Token} {e : Expr}
    (hscan : Token.scan text = .ok ts) (h : parse text = .ok e) : Derives (ts.map (·.lexeme)) e := by
  rw [parse_of_scan hscan] at h
  exact (parseTokens_eq_ok_iff (ne_eof_of_scan hscan)).1 h

theorem legible_of_parse {text : String} {e : Expr} (h : parse text = .ok e) :
    Legible e.literals e.names := by
  obtain ⟨ts, hscan⟩ := exists_scan_of_parse h
  exact (derives_of_parse hscan h).legible (isProper_of_scan hscan)

/-- Every expression of literals, names, objects, accesses and calls, without floats, with integers
that have numerals and with names that are names, is what its written text is read as. And every
expression without floats that is read from any text is one of those, so writing and reading it
changes nothing. -/
theorem parse_write :
    (∀ e : Expr, e.Writable → parse e.write = .ok e) ∧
    ∀ (text : String) (e : Expr), parse text = .ok e → (∀ l ∈ e.literals, ¬ l.IsFloat) →
      e.Writable ∧ parse e.write = parse text := by
  refine ⟨fun e he ↦ parse_write_of_writable he, fun text e h hfloat ↦ ?_⟩
  have hlegible := legible_of_parse h
  have hwritable : e.Writable := {
    literals := fun l hl ↦ (hlegible.literals l hl).resolve_right (hfloat l hl)
    names := hlegible.names }
  exact ⟨hwritable, (parse_write_of_writable hwritable).trans h.symm⟩

def entangled : Expr :=
  .method (.literal (.int 7)) "max"
    [.object [("a\"\\", .index (.name "_x1") (.call "f" [])), ("true", .literal (.bool true))],
      .member (.literal (.str "\"")) "e"]

theorem isName_of_all {c : Char} {w : List Char} (hc : isNameStart c = true)
    (hw : w.all isNameChar = true) (hk : Keyword.ofText? (String.ofList (c :: w)) = none) :
    IsName (String.ofList (c :: w)) :=
  ⟨⟨c, w, rfl, hc, List.all_eq_true.1 hw⟩, ofText?_eq_none_iff.1 hk⟩

theorem writable_entangled : entangled.Writable := by
  have hlong : (7 : ℤ) < 10 ^ Number.longestInteger := by
    exact_mod_cast Nat.lt_of_lt_of_le (by decide : 7 < 10 ^ 1)
      (Nat.pow_le_pow_right (n := 10) (by decide) (by decide : 1 ≤ Number.longestInteger))
  constructor
  · intro l hl
    simp only [entangled, literals, literalsOfRow, literalsOfProperties, List.append_nil,
      List.nil_append, List.cons_append, List.mem_cons, List.not_mem_nil, or_false] at hl
    obtain rfl | rfl | rfl := hl
    · exact ⟨by decide, hlong⟩
    · trivial
    · trivial
  · intro n hn
    simp only [entangled, names, namesOfRow, namesOfProperties, List.append_nil, List.nil_append,
      List.cons_append, List.mem_cons, List.not_mem_nil, or_false] at hn
    obtain rfl | rfl | rfl | rfl := hn
    · exact isName_of_all (c := 'm') (w := ['a', 'x']) rfl rfl rfl
    · exact isName_of_all (c := '_') (w := ['x', '1']) rfl rfl rfl
    · exact isName_of_all (c := 'f') (w := []) rfl rfl rfl
    · exact isName_of_all (c := 'e') (w := []) rfl rfl rfl

theorem parse_write_entangled :
    entangled.Writable ∧ parse entangled.write = .ok entangled ∧
    entangled.write =
      "(7).max(\x7b\"a\\\"\\\\\":(_x1)[f()],\"true\":true\x7d,(\"\\\"\").e)" ∧
    parse " u['a'] . f(007) " = .ok (.method (.index (.name "u") (.literal (.str "a"))) "f"
      [.literal (.int 7)]) ∧
    parse (Expr.write (.method (.index (.name "u") (.literal (.str "a"))) "f"
      [.literal (.int 7)])) = parse " u['a'] . f(007) " := by
  have hparse : parse " u['a'] . f(007) " =
      .ok (.method (.index (.name "u") (.literal (.str "a"))) "f" [.literal (.int 7)]) := by cbv
  refine ⟨writable_entangled, parse_write.1 _ writable_entangled, by cbv, hparse, ?_⟩
  refine (parse_write.2 _ _ hparse fun l hl ↦ ?_).2
  simp only [literals, literalsOfRow, List.append_nil, List.nil_append, List.cons_append,
    List.mem_cons, List.not_mem_nil, or_false] at hl
  obtain rfl | rfl := hl
  · exact not_false
  · exact not_false

end Flowgraph.Expr
