import Flowgraph.Expr.Parser
import Mathlib.Data.Int.Basic

namespace Flowgraph.Expr

/-- The numbers that runs of digits stand for: whole ones if not too long, and floats with a point
before, behind or between the digits. -/
inductive NumberLiteral : String → Literal → Prop
  | whole {ds : List Char} : ds ≠ [] → (∀ c ∈ ds, Text.isAsciiDigit c = true) →
      ds.length ≤ Number.longestInteger →
      NumberLiteral (String.ofList ds) (.int (Number.digitsValue ds))
  | pointed {ds es : List Char} : ds ++ es ≠ [] → (∀ c ∈ ds ++ es, Text.isAsciiDigit c = true) →
      NumberLiteral (String.ofList (ds ++ '.' :: es))
        (.float (Number.nearestFloat (ds ++ es) (-(es.length : Int))))

/-- The lexemes that can stand as keys of an object literal, with their keys. -/
inductive PropertyKey : Lexeme → String → Prop
  | string (s : String) : PropertyKey (.string s) s
  | identifier (s : String) : PropertyKey (.identifier s) s

mutual

inductive Derives : List Lexeme → Expr → Prop
  | primary {ls : List Lexeme} {e : Expr} : DerivesPrimary ls e → Derives ls e
  | member {ls : List Lexeme} {e : Expr} {n : String} :
      Derives ls e → Derives (ls ++ [.mark .dot, .identifier n]) (.member e n)
  | method {ls as : List Lexeme} {e : Expr} {n : String} {es : List Expr} :
      Derives ls e → DerivesArguments as es →
      Derives (ls ++ .mark .dot :: .identifier n :: .mark .openParen :: (as ++ [.mark .closeParen]))
        (.method e n es)
  | call {ls as : List Lexeme} {n : String} {es : List Expr} :
      Derives ls (.name n) → DerivesArguments as es →
      Derives (ls ++ .mark .openParen :: (as ++ [.mark .closeParen])) (.call n es)
  | index {ls ms : List Lexeme} {e i : Expr} :
      Derives ls e → Derives ms i →
      Derives (ls ++ .mark .openBracket :: (ms ++ [.mark .closeBracket])) (.index e i)

inductive DerivesPrimary : List Lexeme → Expr → Prop
  | string (s : String) : DerivesPrimary [.string s] (.literal (.str s))
  | number {t : String} {l : Literal} :
      numberValue? t = some l → DerivesPrimary [.number t] (.literal l)
  | keyword (k : Keyword) : DerivesPrimary [.keyword k.text] (.literal k.literal)
  | identifier (n : String) : DerivesPrimary [.identifier n] (.name n)
  | empty : DerivesPrimary [.mark .openBrace, .mark .closeBrace] (.object [])
  | object {ls : List Lexeme} {ps : List (String × Expr)} : DerivesProperties ls ps →
      DerivesPrimary (.mark .openBrace :: (ls ++ [.mark .closeBrace])) (.object ps)
  | group {ls : List Lexeme} {e : Expr} : Derives ls e →
      DerivesPrimary (.mark .openParen :: (ls ++ [.mark .closeParen])) e

inductive DerivesArguments : List Lexeme → List Expr → Prop
  | none : DerivesArguments [] []
  | some {ls : List Lexeme} {es : List Expr} : DerivesRow ls es → DerivesArguments ls es

inductive DerivesRow : List Lexeme → List Expr → Prop
  | one {ls : List Lexeme} {e : Expr} : Derives ls e → DerivesRow ls [e]
  | cons {ls ms : List Lexeme} {e : Expr} {es : List Expr} : Derives ls e → DerivesRow ms es →
      DerivesRow (ls ++ .mark .comma :: ms) (e :: es)

inductive DerivesProperties : List Lexeme → List (String × Expr) → Prop
  | one {l : Lexeme} {k : String} {ls : List Lexeme} {e : Expr} : PropertyKey l k → Derives ls e →
      DerivesProperties (l :: .mark .colon :: ls) [(k, e)]
  | cons {l : Lexeme} {k : String} {ls ms : List Lexeme} {e : Expr} {ps : List (String × Expr)} :
      PropertyKey l k → Derives ls e → DerivesProperties ms ps →
      DerivesProperties (l :: .mark .colon :: (ls ++ .mark .comma :: ms)) ((k, e) :: ps)

end

section Numerals

variable {c : Char} {s ds es : List Char}

theorem isDigit_eq_isAsciiDigit (c : Char) : c.isDigit = Text.isAsciiDigit c := by
  simp only [Char.isDigit, Text.isAsciiDigit, Char.le_def]

theorem isAsciiDigit_iff :
    Text.isAsciiDigit c = true ↔ 48 ≤ c.toNat ∧ c.toNat ≤ 57 := by
  simp only [Text.isAsciiDigit, Char.le_def, UInt32.le_iff_toNat_le, Bool.and_eq_true,
    decide_eq_true_eq]
  exact Iff.rfl

theorem toNat_of_isNumberChar (h : isNumberChar c = true) : 46 ≤ c.toNat ∧ c.toNat ≤ 57 := by
  rw [isNumberChar, Bool.or_eq_true, isAsciiDigit_iff, beq_iff_eq] at h
  obtain h | rfl := h
  · omega
  · decide

theorem ne_of_isNumberChar {d : Char} (h : isNumberChar c = true)
    (hd : d.toNat < 46 ∨ 57 < d.toNat) : c ≠ d := by
  rintro rfl
  have := toNat_of_isNumberChar h
  omega

theorem isSpace_of_isNumberChar (h : isNumberChar c = true) : Number.isSpace c = false := by
  have hc := toNat_of_isNumberChar h
  have hspace := ne_of_isNumberChar (d := ' ') h (by decide)
  have hhigh : ¬ c ≤ '\r' := fun hle ↦ by
    have hle : c.toNat ≤ 13 := hle
    omega
  simp [Number.isSpace, hspace, hhigh]

theorem dropWhile_isSpace (h : ∀ c ∈ s, isNumberChar c = true) : s.dropWhile Number.isSpace = s := by
  cases s with
  | nil => rfl
  | cons c s =>
    exact List.dropWhile_cons_of_neg (by simp [isSpace_of_isNumberChar (h c List.mem_cons_self)])

theorem numeralChars_eq (h : ∀ c ∈ s, isNumberChar c = true) : Number.numeralChars s = s := by
  have hmap : s.map Number.numeralChar = s := by
    refine (List.map_congr_left fun c hc ↦ ?_).trans (List.map_id s)
    exact if_pos (lt_of_le_of_lt (toNat_of_isNumberChar (h c hc)).2 (by decide))
  unfold Number.numeralChars
  dsimp only
  rw [hmap, dropWhile_isSpace h, dropWhile_isSpace fun c hc ↦ h c (List.mem_reverse.1 hc),
    List.reverse_reverse]

theorem takeSign_eq (h : ∀ c ∈ s, isNumberChar c = true) : Number.takeSign s = (false, s) := by
  unfold Number.takeSign
  split
  · exact absurd rfl (ne_of_isNumberChar (d := '-') (h _ List.mem_cons_self) (by decide))
  · exact absurd rfl (ne_of_isNumberChar (d := '+') (h _ List.mem_cons_self) (by decide))
  · rfl

theorem groupsDigits_eq (h : ∀ c ∈ s, isNumberChar c = true) :
    Number.groupsDigits s = true ∧ s.filter (· != '_') = s := by
  have hne : ∀ c ∈ s, c ≠ '_' := fun c hc ↦ ne_of_isNumberChar (h c hc) (by decide)
  constructor
  · have hhead : s.head? ≠ some '_' := fun hs ↦ hne _ (List.mem_of_head? hs) rfl
    have hlast : s.getLast? ≠ some '_' := fun hs ↦ hne _ (List.mem_of_getLast? hs) rfl
    have hpairs : ∀ p ∈ s.zip s.tail,
        ((p.2 != '_' || p.1.isDigit) && (p.1 != '_' || p.2.isDigit)) = true := by
      rintro ⟨a, b⟩ hp
      obtain ⟨ha, hb⟩ := List.of_mem_zip hp
      simp [hne a ha, hne b (List.mem_of_mem_tail hb)]
    simpa [Number.groupsDigits, hhead, hlast] using hpairs
  · exact List.filter_eq_self.2 fun c hc ↦ by simp [hne c hc]

theorem readWhole?_eq_some_iff {n : ℤ} (h : ∀ c ∈ s, isNumberChar c = true) :
    Number.readWhole? s = some n ↔ s ≠ [] ∧ (∀ c ∈ s, Text.isAsciiDigit c = true) ∧
      s.length ≤ Number.longestInteger ∧ n = Number.digitsValue s := by
  obtain ⟨hgroups, hfilter⟩ := groupsDigits_eq h
  unfold Number.readWhole?
  rw [numeralChars_eq h, takeSign_eq h]
  dsimp only
  rw [hgroups, hfilter]
  simp only [isDigit_eq_isAsciiDigit, Bool.true_and, Bool.and_eq_true, Bool.not_eq_true',
    List.isEmpty_eq_false_iff, List.all_eq_true, decide_eq_true_eq, Bool.false_eq_true, if_false,
    Option.ite_none_right_eq_some, Option.some.injEq, and_assoc, eq_comm (b := n)]

theorem readPointed?_eq (h : ∀ c ∈ s, isNumberChar c = true) :
    Number.readPointed? s = Number.readPlainFloat? s := by
  obtain ⟨hgroups, hfilter⟩ := groupsDigits_eq h
  unfold Number.readPointed?
  rw [numeralChars_eq h, takeSign_eq h]
  dsimp only
  rw [if_pos hgroups, hfilter]
  exact Option.map_id'

theorem takeWhile_run {p : Char → Bool} {s t : List Char} (hs : ∀ c ∈ s, p c = true)
    (ht : ∀ c ∈ t.head?, p c = false) :
    (s ++ t).takeWhile p = s ∧ (s ++ t).dropWhile p = t := by
  rw [List.takeWhile_append_of_pos hs, List.dropWhile_append_of_pos hs]
  cases t with
  | nil => simp
  | cons c t => simp [ht c rfl]

/-- Digits and a point are a float if only digits follow, and there is a digit. -/
theorem readPlainFloat?_eq_some_iff {x : Float} (hds : ∀ c ∈ ds, Text.isAsciiDigit c = true)
    (hes : ∀ c ∈ es, isNumberChar c = true) :
    Number.readPlainFloat? (ds ++ '.' :: es) = some x ↔
      ds ++ es ≠ [] ∧ (∀ c ∈ es, Text.isAsciiDigit c = true) ∧
        x = Number.nearestFloat (ds ++ es) (-(es.length : ℤ)) := by
  have hwhole : (ds ++ '.' :: es).takeWhile Char.isDigit = ds := by
    rw [funext isDigit_eq_isAsciiDigit]
    exact (takeWhile_run hds fun c hc ↦ by cases hc; decide).1
  unfold Number.readPlainFloat?
  dsimp only
  rw [hwhole, List.drop_left, funext isDigit_eq_isAsciiDigit]
  have hsplit := List.takeWhile_append_dropWhile (p := Text.isAsciiDigit) (l := es)
  have hrest := congrArg (List.drop (es.takeWhile Text.isAsciiDigit).length) hsplit
  rw [List.drop_left] at hrest
  simp only [← hrest]
  cases hr : es.dropWhile Text.isAsciiDigit with
  | nil =>
    rw [hr, List.append_nil] at hsplit
    rw [hsplit]
    have hall : ∀ c ∈ es, Text.isAsciiDigit c = true := by
      rw [← hsplit]
      exact fun c hc ↦ List.all_eq_true.1 List.all_takeWhile c hc
    simpa [eq_comm (b := x)] using fun _ _ ↦ hall
  | cons c r =>
    have hc : c ∈ es := by
      rw [← hsplit, hr]
      exact List.mem_append_right _ List.mem_cons_self
    have hdigit : Text.isAsciiDigit c = false := by
      have hnot := List.head?_dropWhile_not Text.isAsciiDigit es
      rw [hr] at hnot
      simpa using hnot
    have he : c ≠ 'e' ∧ c ≠ 'E' :=
      ⟨ne_of_isNumberChar (hes c hc) (by decide), ne_of_isNumberChar (hes c hc) (by decide)⟩
    have hall : ¬ ∀ c ∈ es, Text.isAsciiDigit c = true := fun h ↦ by
      rw [h c hc] at hdigit
      cases hdigit
    simp [he, hall]

end Numerals

theorem numberValue?_eq_some_iff {t : String} {l : Literal}
    (h : ∀ c ∈ t.toList, isNumberChar c = true) : numberValue? t = some l ↔ NumberLiteral t l := by
  obtain ⟨s, rfl⟩ : ∃ s, t = String.ofList s := ⟨t.toList, String.ofList_toList.symm⟩
  rw [String.toList_ofList] at h
  unfold numberValue?
  rw [String.toList_ofList]
  constructor
  · intro hl
    split_ifs at hl with hdot
    · obtain ⟨ds, es, rfl, hds⟩ := List.eq_append_cons_of_mem (List.contains_iff_mem.1 hdot)
      obtain ⟨x, hx, rfl⟩ := Option.map_eq_some_iff.1 hl
      have hdigits : ∀ c ∈ ds, Text.isAsciiDigit c = true := by
        intro c hc
        have hne : c ≠ '.' := fun he ↦ hds (he ▸ hc)
        simpa [isNumberChar, hne] using h c (by simp [hc])
      have hrest : ∀ c ∈ es, isNumberChar c = true := fun c hc ↦ h c (by simp [hc])
      rw [readPointed?_eq h, readPlainFloat?_eq_some_iff hdigits hrest] at hx
      obtain ⟨hne, hes, rfl⟩ := hx
      exact .pointed hne (List.forall_mem_append.2 ⟨hdigits, hes⟩)
    · obtain ⟨n, hn, rfl⟩ := Option.map_eq_some_iff.1 hl
      obtain ⟨hne, hds, hlength, rfl⟩ := (readWhole?_eq_some_iff h).1 hn
      exact .whole hne hds hlength
  · intro hl
    generalize ht : String.ofList s = t at hl
    cases hl with
    | @whole ds hne hds hlength =>
      obtain rfl := String.ofList_injective ht
      have hdot : ¬ s.contains '.' = true := fun hmem ↦
        absurd (hds _ (List.contains_iff_mem.1 hmem)) (by decide)
      rw [if_neg hdot, (readWhole?_eq_some_iff h).2 ⟨hne, hds, hlength, rfl⟩]
      rfl
    | @pointed ds es hne hdigits =>
      obtain rfl := String.ofList_injective ht
      rw [List.forall_mem_append] at hdigits
      have hes : ∀ c ∈ es, isNumberChar c = true := fun c hc ↦ h c (by simp [hc])
      rw [if_pos (by simp), readPointed?_eq h,
        (readPlainFloat?_eq_some_iff hdigits.1 hes).2 ⟨hne, hdigits.2, rfl⟩]
      rfl

theorem ofText?_text (k : Keyword) : Keyword.ofText? k.text = some k := by
  cases k <;> rfl

theorem text_of_ofText? {n : String} {k : Keyword} (h : Keyword.ofText? n = some k) :
    k.text = n := by
  unfold Keyword.ofText? at h
  split at h <;> cases h <;> rfl

theorem Lexeme.key?_eq_some_iff {l : Lexeme} {k : String} :
    l.key? = some k ↔ PropertyKey l k := by
  constructor
  · intro h
    cases l <;> cases h
    · exact .string k
    · exact .identifier k
  · rintro (_ | _) <;> rfl

end Flowgraph.Expr
