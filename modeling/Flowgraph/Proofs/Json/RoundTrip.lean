import Flowgraph.Proofs.Json.Strings
import Flowgraph.Proofs.Number.Digits
import Flowgraph.Run.Exchange
import Flowgraph.Value.Display

namespace Flowgraph

namespace Json

/-- A separator or a closing bracket, or the end: no value goes on there, and no blank comes. -/
def Ends (s : List Char) : Prop := ∀ c ∈ s.head?, c = ',' ∨ c = ']' ∨ c = '\x7d'

theorem ends_nil : Ends [] := by simp [Ends]

theorem ends_cons {c : Char} (h : c = ',' ∨ c = ']' ∨ c = '\x7d') (s : List Char) :
    Ends (c :: s) := by simpa [Ends] using h

theorem skipSpace_cons {c : Char} (h : isSpace c = false) (s : List Char) :
    skipSpace (c :: s) = c :: s := List.dropWhile_cons_of_neg (by simp [h])

section

variable {rest : List Char}

theorem Ends.skipSpace (h : Ends rest) : skipSpace rest = rest := by
  cases rest with
  | nil => rfl
  | cons c s => rcases h c rfl with rfl | rfl | rfl <;> rfl

theorem Ends.takeWhile_isDigit (h : Ends rest) : rest.takeWhile Char.isDigit = [] := by
  cases rest with
  | nil => rfl
  | cons c s => rcases h c rfl with rfl | rfl | rfl <;> rfl

theorem Ends.fraction (h : Ends rest) : fraction rest = ([], rest) := by
  cases rest with
  | nil => rfl
  | cons c s => rcases h c rfl with rfl | rfl | rfl <;> rfl

theorem Ends.exponent (h : Ends rest) : exponent rest = (none, rest) := by
  cases rest with
  | nil => rfl
  | cons c s => rcases h c rfl with rfl | rfl | rfl <;> rfl

theorem isDigit_of_mem_toDigits {n : ℕ} {c : Char} (h : c ∈ Nat.toDigits 10 n) :
    c.isDigit = true := Nat.isDigit_of_mem_toDigits (by decide) (by decide) h

theorem head?_toDigits {n : ℕ} (h : n ≠ 0) : (Nat.toDigits 10 n).head? ≠ some '0' := by
  induction n using Nat.strong_induction_on with
  | _ n ih =>
    by_cases hn : n < 10
    · rw [Nat.toDigits_of_lt_base hn]
      intro hzero
      interval_cases n <;> simp_all [Nat.digitChar]
    · rw [Nat.toDigits_of_base_le (by decide) (Nat.not_lt.1 hn)]
      have hhead := ih (n / 10) (by omega) (by omega)
      obtain ⟨c, s, hs⟩ := List.exists_cons_of_ne_nil (Nat.toDigits_ne_nil (n := n / 10) (b := 10))
      rw [hs] at hhead ⊢
      exact hhead

theorem readMagnitude_toDigits {n : ℕ} (hn : n < 10 ^ Number.longestInteger) (hrest : Ends rest)
    (start : List Char) (negative : Bool) :
    readMagnitude start negative (Nat.toDigits 10 n ++ rest) =
      .ok (.int (if negative then -n else n), rest) := by
  have hvalue : Number.digitsValue (Nat.toDigits 10 n) = n :=
    Nat.ofDigitChars_toDigits (by decide) (by decide)
  have hlength : ¬ Number.longestInteger < (Nat.toDigits 10 n).length :=
    Nat.not_lt.2 ((Nat.length_toDigits_le_iff (by decide) (by decide)).2 hn)
  unfold readMagnitude
  extract_lets whole m
  have hwhole : whole = Nat.toDigits 10 n := by
    simp only [whole]
    split
    · next hzero =>
      by_cases h : n = 0
      · subst h
        rfl
      · obtain ⟨c, s, hs⟩ := List.exists_cons_of_ne_nil (Nat.toDigits_ne_nil (n := n) (b := 10))
        have hhead := head?_toDigits h
        rw [hs] at hzero hhead
        cases hzero
        exact absurd rfl hhead
    · rw [List.takeWhile_append_of_pos fun c ↦ isDigit_of_mem_toDigits, hrest.takeWhile_isDigit,
        List.append_nil]
  have hnonempty : whole.isEmpty = false := by
    rw [hwhole]
    simp
  rw [hnonempty, hwhole, List.drop_left, hrest.fraction]
  simp [hrest.exponent, hlength, hvalue, m, hwhole]

theorem ne_of_isDigit {c d : Char} (hc : c.isDigit = true) (hd : d.isDigit = false) : c ≠ d := by
  rintro rfl
  rw [hc] at hd
  cases hd

def numeral (i : ℤ) : List Char :=
  if i < 0 then '-' :: Nat.toDigits 10 i.natAbs else Nat.toDigits 10 i.natAbs

theorem exists_numeral_eq (i : ℤ) :
    ∃ c s, numeral i = c :: s ∧ (c = '-' ∨ c.isDigit = true) := by
  unfold numeral
  split_ifs
  · exact ⟨_, _, rfl, .inl rfl⟩
  · obtain ⟨c, s, hs⟩ := List.exists_cons_of_ne_nil (Nat.toDigits_ne_nil (n := i.natAbs) (b := 10))
    exact ⟨c, s, hs, .inr (isDigit_of_mem_toDigits (by rw [hs]; exact List.mem_cons_self))⟩

theorem writeInt_eq {i : ℤ} (h : i.natAbs < 10 ^ Number.longestInteger) :
    writeInt i = .ok (numeral i) := by
  unfold writeInt Number.integerText
  dsimp only
  rw [if_pos (Number.length_toString_le_iff.2 h)]
  unfold numeral Number.signed
  by_cases hi : i < 0 <;> simp [hi]

theorem readNumber_numeral {i : ℤ} (h : i.natAbs < 10 ^ Number.longestInteger)
    (hrest : Ends rest) : readNumber (numeral i ++ rest) = .ok (.int i, rest) := by
  obtain ⟨c, s, hs⟩ := List.exists_cons_of_ne_nil (Nat.toDigits_ne_nil (n := i.natAbs) (b := 10))
  have hc : c.isDigit = true :=
    isDigit_of_mem_toDigits (n := i.natAbs) (by rw [hs]; exact List.mem_cons_self)
  unfold numeral
  by_cases hi : i < 0
  · have hword : word? "Infinity".toList (Nat.toDigits 10 i.natAbs ++ rest) = none := by
      rw [hs]
      exact if_neg (by simpa using (ne_of_isDigit hc (by decide)).symm)
    rw [if_pos hi, List.cons_append, readNumber, hword]
    dsimp only
    rw [readMagnitude_toDigits h hrest, if_pos rfl]
    congr 3
    omega
  · rw [if_neg hi, readNumber.eq_2, readMagnitude_toDigits h hrest, if_neg Bool.false_ne_true]
    · congr 3
      omega
    · intro r hr
      rw [hs] at hr
      exact ne_of_isDigit hc (by decide) (List.cons.inj hr).1

structure Spells (room : ℕ) (v : Value) (t : List Char) : Prop where
  read : ∀ fuel rest, 2 * t.length ≤ fuel + 1 → Ends rest →
    readValue (fuel + 1) room (t ++ rest) = .ok (v, rest)
  front : ∃ c s, t = c :: s ∧ isSpace c = false ∧ c ≠ ']' ∧ c ≠ '\uFEFF'

/-- The text is written for the value, and the value is read from the front of it. -/
structure Shows (room : ℕ) (v : Value) (t : List Char) : Prop extends Spells room v t where
  write : ∀ level, write .compact level v = .ok t

variable {room fuel : ℕ} {v w : Value} {t : List Char}

theorem Spells.readValue_eq (h : Spells room v t) (hfuel : 2 * t.length ≤ fuel)
    (hrest : Ends rest) : readValue fuel room (t ++ rest) = .ok (v, rest) := by
  obtain ⟨c, s, rfl, -⟩ := h.front
  cases fuel with
  | zero => simp at hfuel
  | succ fuel => exact h.read fuel rest hfuel hrest

theorem shows_null : Shows room .null "null".toList where
  write _ := rfl
  read _ _ _ _ := rfl
  front := ⟨_, _, rfl, by decide, by decide⟩

theorem shows_bool (b : Bool) : Shows room (.bool b) (boolText b) := by
  cases b with
  | false => exact ⟨⟨fun _ _ _ _ ↦ rfl, _, _, rfl, by decide, by decide⟩, fun _ ↦ rfl⟩
  | true => exact ⟨⟨fun _ _ _ _ ↦ rfl, _, _, rfl, by decide, by decide⟩, fun _ ↦ rfl⟩

theorem shows_int {i : ℤ} (h : i.natAbs < 10 ^ Number.longestInteger) :
    Shows room (.int i) (numeral i) := by
  obtain ⟨c, s, hs, hc⟩ := exists_numeral_eq i
  have hne (d : Char) (hd : d.isDigit = false) (hsign : d ≠ '-') : c ≠ d := by
    rcases hc with rfl | hc
    · exact hsign.symm
    · exact ne_of_isDigit hc hd
  refine ⟨⟨fun fuel rest _ hrest ↦ ?_, c, s, hs, ?_, ?_, ?_⟩, fun _ ↦ writeInt_eq h⟩
  · have hnumber := readNumber_numeral h hrest
    have hfront : (c == '-' || c.isDigit) = true := by
      rcases hc with rfl | hc
      · rfl
      · rw [hc, Bool.or_true]
    rw [hs, List.cons_append] at hnumber ⊢
    rw [readValue.eq_7, if_pos hfront, hnumber]
    · exact hne _ (by decide) (by decide)
    · exact hne _ (by decide) (by decide)
    · exact hne _ (by decide) (by decide)
  · simp [isSpace, hne]
  · exact hne _ (by decide) (by decide)
  · exact hne _ (by decide) (by decide)

theorem writeString_append (s : String) (rest : List Char) :
    writeString s ++ rest = '"' :: (s.toList.flatMap escapedChar ++ '"' :: rest) := by
  simp [writeString]

theorem shows_str (s : String) : Shows room (.str s) (writeString s) where
  write _ := rfl
  read fuel rest _ _ := by
    rw [writeString_append, readValue, Nat.succ_eq_add_one, readString_writeString]
    rfl
  front := ⟨_, _, rfl, by decide, by decide⟩

def Spaced (mark : Char) (sep : List Char) : Prop :=
  ∃ blanks, sep = mark :: blanks ∧ ∀ c ∈ blanks, isSpace c = true

theorem spaced_mark (mark : Char) : Spaced mark [mark] := ⟨[], rfl, List.forall_mem_nil _⟩

theorem spaced_blank (mark : Char) : Spaced mark [mark, ' '] :=
  ⟨[' '], rfl, List.forall_mem_singleton.2 rfl⟩

theorem skipSpace_append {blanks : List Char} (h : ∀ c ∈ blanks, isSpace c = true)
    (s : List Char) : skipSpace (blanks ++ s) = skipSpace s := List.dropWhile_append_of_pos h

abbrev joined (sep : List Char) (ts : List (List Char)) : List Char := List.intercalate sep ts

theorem joined_cons_cons (sep t u : List Char) (us : List (List Char)) :
    joined sep (t :: u :: us) = t ++ (sep ++ joined sep (u :: us)) := by
  rw [joined, List.intercalate_cons_cons, List.append_assoc]

theorem enclose_eq {st : Style} (h : st.indent = none) (level : ℕ) (opening closing : Char)
    (ts : List (List Char)) :
    st.enclose level opening closing ts = opening :: (joined st.comma ts ++ [closing]) := by
  have hbreak (level : ℕ) : st.lineBreak level = [] := by simp [Style.lineBreak, h]
  cases ts with
  | nil => rfl
  | cons t ts => simp [Style.enclose, hbreak]

theorem writeItems_shows {ws : List Value} {ts : List (List Char)}
    (h : List.Forall₂ (Shows room) ws ts) (level : ℕ) : writeItems .compact level ws = .ok ts := by
  induction h with
  | nil => rfl
  | cons hw _ ih =>
    rw [writeItems, hw.write, ih]
    rfl

theorem readItems_last {s r : List Char} (acc : List Value)
    (h : readValue fuel room s = .ok (v, ']' :: r)) :
    readItems (fuel + 1) room acc s = .ok ((v :: acc).reverse, r) := by
  rw [readItems, h]
  rfl

theorem readItems_next {s r : List Char} (acc : List Value)
    (h : readValue fuel room s = .ok (v, ',' :: r)) :
    readItems (fuel + 1) room acc s = readItems fuel room (v :: acc) (skipSpace r) := by
  rw [readItems, h]
  rfl

section

variable {comma colon : List Char}

theorem Spells.exists_joined (h : Spells room v t) (comma : List Char) (ts : List (List Char)) :
    ∃ c s, joined comma (t :: ts) = c :: s ∧ isSpace c = false ∧ c ≠ ']' := by
  obtain ⟨c, s, rfl, hc, hbracket, -⟩ := h.front
  cases ts with
  | nil => exact ⟨c, s, List.intercalate_singleton, hc, hbracket⟩
  | cons u us => exact ⟨c, _, joined_cons_cons _ _ _ _, hc, hbracket⟩

theorem Spells.skipSpace_joined (h : Spells room v t) (comma : List Char)
    (ts : List (List Char)) (s : List Char) :
    skipSpace (joined comma (t :: ts) ++ s) = joined comma (t :: ts) ++ s := by
  obtain ⟨c, r, hr, hc, -⟩ := h.exists_joined comma ts
  rw [hr]
  exact skipSpace_cons hc _

theorem readItems_spells (hcomma : Spaced ',' comma) {ws : List Value} {ts : List (List Char)}
    (h : Spells room v t) (hs : List.Forall₂ (Spells room) ws ts) (acc : List Value)
    (hfuel : 2 * (joined comma (t :: ts)).length + 2 ≤ fuel) :
    readItems fuel room acc (joined comma (t :: ts) ++ ']' :: rest) =
      .ok (acc.reverse ++ v :: ws, rest) := by
  obtain ⟨blanks, rfl, hblanks⟩ := hcomma
  obtain ⟨fuel, rfl⟩ := Nat.exists_eq_succ_of_ne_zero (Nat.ne_zero_of_lt hfuel)
  induction hs generalizing v t acc fuel with
  | nil =>
    have hlast : joined (',' :: blanks) [t] = t := List.intercalate_singleton
    rw [hlast] at hfuel ⊢
    rw [readItems_last acc (h.readValue_eq (by omega) (ends_cons (by simp) rest))]
    simp
  | @cons w u ws us hw hs ih =>
    rw [joined_cons_cons, List.length_append, List.length_append, List.length_cons] at hfuel
    obtain ⟨fuel, rfl⟩ := Nat.exists_eq_succ_of_ne_zero (n := fuel) (by omega)
    rw [joined_cons_cons, List.append_assoc, List.append_assoc, List.cons_append,
      readItems_next acc (h.readValue_eq (by omega) (ends_cons (by simp) _)),
      skipSpace_append hblanks, hw.skipSpace_joined _, ih hw (v :: acc) fuel (by omega)]
    simp

theorem readValue_list {c : Char} {s : List Char} (hspace : isSpace c = false) (hc : c ≠ ']') :
    readValue (fuel + 1) (room + 1) ('[' :: c :: s) =
      (readItems fuel room [] (c :: s)).map fun p ↦ (.ofList p.1, p.2) := by
  rw [readValue, skipSpace_cons hspace]
  split
  · next h => exact absurd (List.cons.inj h).1 hc
  · cases readItems fuel room [] (c :: s) <;> rfl

theorem spells_list (hcomma : Spaced ',' comma) {ws : List Value} {ts : List (List Char)}
    (h : List.Forall₂ (Spells room) ws ts) :
    Spells (room + 1) (.ofList ws) ('[' :: (joined comma ts ++ [']'])) where
  read fuel rest hfuel _ := by
    rw [List.cons_append, List.append_assoc, List.singleton_append]
    cases h with
    | nil => rfl
    | @cons w t ws ts hw hs =>
      obtain ⟨c, s, hjoined, hspace, hc⟩ := hw.exists_joined comma ts
      simp only [List.length_cons, List.length_append, List.length_nil] at hfuel
      have hread : readItems fuel room [] (joined comma (t :: ts) ++ ']' :: rest) =
          .ok (w :: ws, rest) := readItems_spells hcomma hw hs [] (by omega)
      rw [hjoined, List.cons_append] at hread ⊢
      rw [readValue_list hspace hc, hread]
      rfl
  front := ⟨_, _, rfl, by decide, by decide⟩

theorem shows_list {ws : List Value} {ts : List (List Char)}
    (h : List.Forall₂ (Shows room) ws ts) :
    Shows (room + 1) (.ofList ws) ('[' :: (joined [','] ts ++ [']'])) where
  toSpells := spells_list (spaced_mark ',') (h.imp fun _ _ h ↦ h.toSpells)
  write level :=
    (congrArg (Functor.map _) (writeItems_shows h (level + 1))).trans
      (congrArg Except.ok (enclose_eq rfl level _ _ ts))

abbrev named (es : List (String × Value)) : Entries := es.map fun e ↦ (.str e.1, e.2)

/-- The text of a member: its name, a colon and a text that its value is read from. -/
def SpellsMember (colon : List Char) (room : ℕ) (e : String × Value) (u : List Char) : Prop :=
  ∃ t, u = writeString e.1 ++ colon ++ t ∧ Spells room e.2 t

def ShowsMember (room : ℕ) (e : String × Value) (u : List Char) : Prop :=
  ∃ t, u = writeString e.1 ++ [':'] ++ t ∧ Shows room e.2 t

theorem writeEntries_shows {es : List (String × Value)} {us : List (List Char)}
    (h : List.Forall₂ (ShowsMember room) es us) (level : ℕ) :
    writeEntries .compact level (named es) = .ok us := by
  induction h with
  | nil => rfl
  | cons he _ ih =>
    obtain ⟨t, rfl, ht⟩ := he
    rw [named, List.map_cons, writeEntries, ht.write, ih]
    rfl

theorem readEntries_last {name : String} {r s : List Char} (acc : Entries)
    (h : readValue fuel room (skipSpace s) = .ok (v, '\x7d' :: r)) :
    readEntries (fuel + 1) room acc (writeString name ++ ':' :: s) =
      .ok (((.str name, v) :: acc).reverse, r) := by
  rw [writeString_append, readEntries, Nat.succ_eq_add_one, readString_writeString]
  change (readValue fuel room (skipSpace s) >>= _) = _
  rw [h]
  rfl

theorem readEntries_next {name : String} {r s : List Char} (acc : Entries)
    (h : readValue fuel room (skipSpace s) = .ok (v, ',' :: r)) :
    readEntries (fuel + 1) room acc (writeString name ++ ':' :: s) =
      readEntries fuel room ((.str name, v) :: acc) (skipSpace r) := by
  rw [writeString_append, readEntries, Nat.succ_eq_add_one, readString_writeString]
  change (readValue fuel room (skipSpace s) >>= _) = _
  rw [h]
  rfl

theorem Spells.readValue_skipSpace (h : Spells room v t) {blanks : List Char}
    (hblanks : ∀ c ∈ blanks, isSpace c = true) (hfuel : 2 * t.length ≤ fuel)
    (hrest : Ends rest) : readValue fuel room (skipSpace (blanks ++ (t ++ rest))) =
      .ok (v, rest) := by
  have hspace := h.skipSpace_joined [] [] rest
  rw [joined, List.intercalate_singleton] at hspace
  rw [skipSpace_append hblanks, hspace, h.readValue_eq hfuel hrest]

theorem SpellsMember.exists_joined {e : String × Value} {u : List Char}
    (h : SpellsMember colon room e u) (comma : List Char) (us : List (List Char)) :
    ∃ s, joined comma (u :: us) = '"' :: s := by
  obtain ⟨t, rfl, -⟩ := h
  cases us with
  | nil => exact ⟨_, List.intercalate_singleton⟩
  | cons u us => exact ⟨_, joined_cons_cons _ _ _ _⟩

theorem readEntries_spells (hcomma : Spaced ',' comma) (hcolon : Spaced ':' colon)
    {e : String × Value} {es : List (String × Value)} {u : List Char} {us : List (List Char)}
    (h : SpellsMember colon room e u) (hs : List.Forall₂ (SpellsMember colon room) es us)
    (acc : Entries) (hfuel : 2 * (joined comma (u :: us)).length + 2 ≤ fuel) :
    readEntries fuel room acc (joined comma (u :: us) ++ '\x7d' :: rest) =
      .ok (acc.reverse ++ named (e :: es), rest) := by
  obtain ⟨blanks, rfl, hblanks⟩ := hcomma
  obtain ⟨blanks', rfl, hblanks'⟩ := hcolon
  obtain ⟨fuel, rfl⟩ := Nat.exists_eq_succ_of_ne_zero (Nat.ne_zero_of_lt hfuel)
  induction hs generalizing e u acc fuel with
  | nil =>
    have hlast : joined (',' :: blanks) [u] = u := List.intercalate_singleton
    obtain ⟨t, rfl, ht⟩ := h
    rw [hlast] at hfuel ⊢
    simp only [List.length_append] at hfuel
    have hlength : 2 * t.length ≤ fuel := by omega
    have hread := ht.readValue_skipSpace hblanks' hlength (ends_cons (c := '\x7d') (by simp) rest)
    rw [List.append_assoc, List.append_assoc, List.cons_append]
    refine (readEntries_last acc hread).trans ?_
    simp
  | @cons e' u' es us he hes ih =>
    obtain ⟨t, rfl, ht⟩ := h
    rw [joined_cons_cons] at hfuel ⊢
    simp only [List.length_append, List.length_cons] at hfuel
    obtain ⟨fuel, rfl⟩ := Nat.exists_eq_succ_of_ne_zero (n := fuel) (by omega)
    have hlength : 2 * t.length ≤ fuel + 1 := by omega
    have hread := ht.readValue_skipSpace hblanks' hlength
      (ends_cons (c := ',') (by simp) (blanks ++ (joined (',' :: blanks) (u' :: us) ++ '\x7d' :: rest)))
    have hspace : skipSpace (joined (',' :: blanks) (u' :: us) ++ '\x7d' :: rest) =
        joined (',' :: blanks) (u' :: us) ++ '\x7d' :: rest := by
      obtain ⟨s, hjoined⟩ := he.exists_joined (',' :: blanks) us
      rw [hjoined]
      rfl
    simp only [List.append_assoc, List.cons_append]
    refine (readEntries_next acc hread).trans ?_
    rw [skipSpace_append hblanks, hspace, ih _ he fuel (by omega)]
    simp

theorem insert_named {es : List (String × Value)} {name : String} (h : name ∉ es.map (·.1))
    (v : Value) : Entries.insert (named es) (.str name) v = named (es ++ [(name, v)]) := by
  induction es with
  | nil => rfl
  | cons e es ih =>
    rw [List.map_cons, List.mem_cons, not_or] at h
    have hsame : (Key.str e.1).same (.str name) = false := by simpa [Key.same] using Ne.symm h.1
    rw [named, List.map_cons, Entries.insert, hsame, if_neg Bool.false_ne_true, ih h.2]
    rfl

theorem foldl_insert_named {done es : List (String × Value)}
    (h : ((done ++ es).map (·.1)).Nodup) :
    (named es).foldl (fun acc e ↦ Entries.insert acc e.1 e.2) (named done) =
      named (done ++ es) := by
  induction es generalizing done with
  | nil =>
    rw [List.append_nil]
    rfl
  | cons e es ih =>
    have hnew : e.1 ∉ done.map (·.1) := by
      rw [List.map_append, List.map_cons, List.nodup_append] at h
      intro hmem
      exact h.2.2 e.1 hmem e.1 List.mem_cons_self rfl
    rw [List.append_cons] at h ⊢
    change (named es).foldl _ (Entries.insert (named done) (.str e.1) e.2) = _
    rw [insert_named hnew]
    exact ih h

theorem nodup_of_named {es : List (String × Value)} (h : ((named es).map (·.1)).Nodup) :
    (es.map (·.1)).Nodup := by
  rw [List.map_map] at h
  exact List.Nodup.of_map Key.str (by rwa [List.map_map])

theorem ofList_named {es : List (String × Value)} (h : (es.map (·.1)).Nodup) :
    Entries.ofList (named es) = named es := @foldl_insert_named [] es h

theorem readValue_mapping (s : List Char) :
    readValue (fuel + 1) (room + 1) ('\x7b' :: '"' :: s) =
      (readEntries fuel room [] ('"' :: s)).map fun p ↦ (.ofEntries (Entries.ofList p.1), p.2) := by
  have hspace : skipSpace ('"' :: s) = '"' :: s := rfl
  rw [readValue, hspace]
  split
  · next h => exact absurd (List.cons.inj h).1 (by decide)
  · cases readEntries fuel room [] ('"' :: s) <;> rfl

theorem spells_mapping (hcomma : Spaced ',' comma) (hcolon : Spaced ':' colon)
    {es : List (String × Value)} {us : List (List Char)}
    (h : List.Forall₂ (SpellsMember colon room) es us) :
    Spells (room + 1) (.ofEntries (Entries.ofList (named es)))
      ('\x7b' :: (joined comma us ++ ['\x7d'])) where
  read fuel rest hfuel _ := by
    rw [List.cons_append, List.append_assoc, List.singleton_append]
    cases h with
    | nil => rfl
    | @cons e u es us he hes =>
      obtain ⟨s, hjoined⟩ := he.exists_joined comma us
      simp only [List.length_cons, List.length_append, List.length_nil] at hfuel
      have hread : readEntries fuel room [] (joined comma (u :: us) ++ '\x7d' :: rest) =
          .ok (named (e :: es), rest) := readEntries_spells hcomma hcolon he hes [] (by omega)
      rw [hjoined, List.cons_append] at hread ⊢
      rw [readValue_mapping, hread, Except.map]
  front := ⟨_, _, rfl, by decide, by decide⟩

theorem shows_mapping {es : List (String × Value)} {us : List (List Char)}
    (hnodup : (es.map (·.1)).Nodup) (h : List.Forall₂ (ShowsMember room) es us) :
    Shows (room + 1) (.ofEntries (named es)) ('\x7b' :: (joined [','] us ++ ['\x7d'])) where
  toSpells := by
    have hspells : List.Forall₂ (SpellsMember [':'] room) es us :=
      h.imp fun _ _ ⟨t, hu, ht⟩ ↦ ⟨t, hu, ht.toSpells⟩
    have hmapping := spells_mapping (spaced_mark ',') (spaced_mark ':') hspells
    rwa [ofList_named hnodup] at hmapping
  write level :=
    (congrArg (Functor.map _) (writeEntries_shows h (level + 1))).trans
      (congrArg Except.ok (enclose_eq rfl level _ _ us))

end

theorem Spells.read_eq (h : Spells room v t) : Json.read room t = .ok v := by
  obtain ⟨c, s, hc, hspace, -, hmark⟩ := h.front
  have hread : readValue (2 * t.length + 2) room t = .ok (v, []) := by
    have hvalue := h.readValue_eq (Nat.le_add_right (2 * t.length) 2) ends_nil
    rwa [List.append_nil] at hvalue
  rw [hc] at hread ⊢
  unfold Json.read
  dsimp only
  split
  · next heq => exact absurd (List.cons.inj heq).1 hmark
  · rw [skipSpace_cons hspace, hread]
    rfl

end

end Json

namespace Value

/-- Values of JSON, floats aside, with parts that may be missing, and with lists and mappings in one
another up to a depth. -/
inductive JsonLike : ℕ → Value → Prop
  | undefined {depth : ℕ} : JsonLike depth .undefined
  | null {depth : ℕ} : JsonLike depth .null
  | bool {depth : ℕ} (b : Bool) : JsonLike depth (.bool b)
  | int {depth : ℕ} {i : ℤ} : i.natAbs < 10 ^ Number.longestInteger → JsonLike depth (.int i)
  | str {depth : ℕ} (s : String) : JsonLike depth (.str s)
  | list {depth mark : ℕ} {vs : List Value} : (∀ v ∈ vs, JsonLike depth v) →
      JsonLike (depth + 1) (.list mark vs)
  | mapping {depth mark : ℕ} {es : List (String × Value)} : (es.map (·.1)).Nodup →
      (∀ e ∈ es, JsonLike depth e.2) → JsonLike (depth + 1) (.mapping mark (Json.named es))

mutual

/-- A value without its missing members, and with nulls for its missing items. -/
inductive Pruned : Value → Value → Prop
  | null : Pruned .null .null
  | bool (b : Bool) : Pruned (.bool b) (.bool b)
  | int (i : ℤ) : Pruned (.int i) (.int i)
  | str (s : String) : Pruned (.str s) (.str s)
  | list {mark : ℕ} {vs ws : List Value} : PrunedItems vs ws → Pruned (.list mark vs) (.ofList ws)
  | mapping {mark : ℕ} {es fs : Entries} : PrunedEntries es fs →
      Pruned (.mapping mark es) (.ofEntries fs)

inductive PrunedItems : List Value → List Value → Prop
  | nil : PrunedItems [] []
  | missing {vs ws : List Value} : PrunedItems vs ws →
      PrunedItems (.undefined :: vs) (.null :: ws)
  | cons {v w : Value} {vs ws : List Value} : Pruned v w → PrunedItems vs ws →
      PrunedItems (v :: vs) (w :: ws)

inductive PrunedEntries : Entries → Entries → Prop
  | nil : PrunedEntries [] []
  | missing {k : Key} {es fs : Entries} : PrunedEntries es fs →
      PrunedEntries ((k, .undefined) :: es) fs
  | cons {k : Key} {v w : Value} {es fs : Entries} : Pruned v w → PrunedEntries es fs →
      PrunedEntries ((k, v) :: es) ((k, w) :: fs)

end

variable {depth : ℕ} {v : Value}

theorem settledItems_cons (hv : v ≠ .undefined) (vs : List Value) :
    settledItems (v :: vs) = v.settled :: settledItems vs := by
  cases v <;> first | rfl | exact absurd rfl hv

theorem settledEntries_cons (hv : v ≠ .undefined) (k : Key) (es : Entries) :
    settledEntries ((k, v) :: es) = (k, v.settled) :: settledEntries es := by
  cases v <;> first | rfl | exact absurd rfl hv

theorem prunedItems_settledItems {vs : List Value}
    (h : ∀ v ∈ vs, v ≠ .undefined → Pruned v v.settled) : PrunedItems vs (settledItems vs) := by
  induction vs with
  | nil => exact .nil
  | cons v vs ih =>
    obtain ⟨hv, hvs⟩ := List.forall_mem_cons.1 h
    by_cases hmissing : v = .undefined
    · subst hmissing
      exact .missing (ih hvs)
    · rw [settledItems_cons hmissing]
      exact .cons (hv hmissing) (ih hvs)

theorem prunedEntries_settledEntries {es : List (String × Value)}
    (h : ∀ e ∈ es, e.2 ≠ .undefined → Pruned e.2 e.2.settled) :
    PrunedEntries (Json.named es) (settledEntries (Json.named es)) := by
  induction es with
  | nil => exact .nil
  | cons e es ih =>
    obtain ⟨name, v⟩ := e
    obtain ⟨hv, hes⟩ := List.forall_mem_cons.1 h
    rw [Json.named, List.map_cons]
    by_cases hmissing : v = .undefined
    · subst hmissing
      exact .missing (ih hes)
    · rw [settledEntries_cons hmissing]
      exact .cons (hv hmissing) (ih hes)

theorem JsonLike.pruned (h : JsonLike depth v) (hv : v ≠ .undefined) : Pruned v v.settled := by
  induction h with
  | undefined => exact absurd rfl hv
  | null => exact .null
  | bool b => exact .bool b
  | @int _ i _ => exact .int i
  | str s => exact .str s
  | list _ ih => exact .list (prunedItems_settledItems ih)
  | mapping _ _ ih => exact .mapping (prunedEntries_settledEntries ih)

theorem exists_shows_settledItems {vs : List Value}
    (h : ∀ v ∈ vs, v ≠ .undefined → ∃ t, Json.Shows depth v.settled t) :
    ∃ ts, List.Forall₂ (Json.Shows depth) (settledItems vs) ts := by
  induction vs with
  | nil => exact ⟨[], .nil⟩
  | cons v vs ih =>
    obtain ⟨hv, hvs⟩ := List.forall_mem_cons.1 h
    obtain ⟨ts, hts⟩ := ih hvs
    by_cases hmissing : v = .undefined
    · subst hmissing
      exact ⟨_, .cons Json.shows_null hts⟩
    · obtain ⟨t, ht⟩ := hv hmissing
      rw [settledItems_cons hmissing]
      exact ⟨t :: ts, .cons ht hts⟩

theorem exists_shows_settledEntries {es : List (String × Value)}
    (h : ∀ e ∈ es, e.2 ≠ .undefined → ∃ t, Json.Shows depth e.2.settled t) :
    ∃ fs us, settledEntries (Json.named es) = Json.named fs ∧
      (fs.map (·.1)).Sublist (es.map (·.1)) ∧ List.Forall₂ (Json.ShowsMember depth) fs us := by
  induction es with
  | nil => exact ⟨[], [], rfl, .slnil, .nil⟩
  | cons e es ih =>
    obtain ⟨name, v⟩ := e
    obtain ⟨hv, hes⟩ := List.forall_mem_cons.1 h
    obtain ⟨fs, us, hsettled, hsublist, hus⟩ := ih hes
    rw [Json.named, List.map_cons]
    by_cases hmissing : v = .undefined
    · subst hmissing
      exact ⟨fs, us, hsettled, hsublist.cons name, hus⟩
    · obtain ⟨t, ht⟩ := hv hmissing
      rw [settledEntries_cons hmissing, hsettled]
      exact ⟨(name, v.settled) :: fs, _, rfl, hsublist.cons_cons name, .cons ⟨t, rfl, ht⟩ hus⟩

theorem JsonLike.exists_shows (h : JsonLike depth v) (hv : v ≠ .undefined) :
    ∃ t, Json.Shows depth v.settled t := by
  induction h with
  | undefined => exact absurd rfl hv
  | null => exact ⟨_, Json.shows_null⟩
  | bool b => exact ⟨_, Json.shows_bool b⟩
  | int h => exact ⟨_, Json.shows_int h⟩
  | str s => exact ⟨_, Json.shows_str s⟩
  | list _ ih =>
    obtain ⟨ts, hts⟩ := exists_shows_settledItems ih
    exact ⟨_, Json.shows_list hts⟩
  | mapping hnodup _ ih =>
    obtain ⟨fs, us, hsettled, hsublist, hus⟩ := exists_shows_settledEntries ih
    have hshows := Json.shows_mapping (hnodup.sublist hsublist) hus
    rw [← hsettled] at hshows
    exact ⟨_, hshows⟩

inductive IsContainer : Value → Prop
  | list (mark : ℕ) (vs : List Value) : IsContainer (.list mark vs)
  | mapping (mark : ℕ) (es : Entries) : IsContainer (.mapping mark es)

theorem settled_of_isContainer (hv : v.IsContainer) : v ≠ .undefined ∧
    v.display = Json.writeText .compact v.settled ∧ v.settled.IsContainer := by
  cases hv with
  | list mark vs => exact ⟨by simp, rfl, .list 0 _⟩
  | mapping mark es => exact ⟨by simp, rfl, .mapping 0 _⟩

theorem exists_bracket {level : ℕ} {t : List Char} (hv : v.IsContainer)
    (h : Json.write .compact level v = .ok t) : ∃ s, t = '[' :: s ∨ t = '\x7b' :: s := by
  cases hv with
  | list mark vs =>
    rw [Json.write] at h
    cases hts : Json.writeItems .compact (level + 1) vs with
    | error e =>
      rw [hts] at h
      cases h
    | ok ts =>
      rw [hts] at h
      cases h
      exact ⟨_, .inl (Json.enclose_eq rfl level _ _ ts)⟩
  | mapping mark es =>
    rw [Json.write] at h
    cases hts : Json.writeEntries .compact (level + 1) es with
    | error e =>
      rw [hts] at h
      cases h
    | ok ts =>
      rw [hts] at h
      cases h
      exact ⟨_, .inr (Json.enclose_eq rfl level _ _ ts)⟩

/-- The text that is shown for a list or a mapping is read as the same value, where brackets may be
as deep in one another: save that missing members are gone, and missing items are null. -/
theorem readBody_display {room : ℕ} {v : Value} (h : JsonLike room v) (hv : v.IsContainer) :
    ∃ text w, v.display = .ok text ∧ Run.readBody room text = .ok w ∧ Pruned v w := by
  obtain ⟨hpresent, hdisplay, hsettled⟩ := settled_of_isContainer hv
  obtain ⟨t, ht⟩ := h.exists_shows hpresent
  have hbracket := exists_bracket hsettled (ht.write 0)
  have hblank : t.all Text.isBlank = false := by
    have hopen : Text.isBlank '[' = false ∧ Text.isBlank '\x7b' = false := by decide
    obtain ⟨s, rfl | rfl⟩ := hbracket <;> simp [hopen]
  refine ⟨String.ofList t, v.settled, ?_, ?_, h.pruned hpresent⟩
  · rw [hdisplay, Json.writeText, ht.write]
    rfl
  · unfold Run.readBody
    rw [String.toList_ofList, hblank, if_neg Bool.false_ne_true, ht.read_eq]
    rfl

/-- A list with a missing item, a missing member, and a text all of which has to be escaped. -/
def parcel : Value :=
  .list 1 [.undefined, .mapping 2 (Json.named [("a", .undefined), ("b", .int (-12))]),
    .list 0 [.str "\"\né😀"]]

def parcelText : String := "[null,\x7b\"b\":-12\x7d,[\"\\\"\\n\\u00e9\\ud83d\\ude00\"]]"

theorem readBody_display_parcel :
    JsonLike 2 parcel ∧ parcel.IsContainer ∧ parcel.display = .ok parcelText ∧
      ∃ w, Run.readBody 2 parcelText = .ok w ∧ Pruned parcel w := by
  have hint : (-12 : ℤ).natAbs < 10 ^ Number.longestInteger :=
    Nat.lt_of_lt_of_le (by decide : _ < 10 ^ 2) (Nat.pow_le_pow_right (by decide) (by decide))
  have hlike : JsonLike 2 parcel := by
    refine .list fun v hv ↦ ?_
    simp only [List.mem_cons, List.not_mem_nil, or_false] at hv
    rcases hv with rfl | rfl | rfl
    · exact .undefined
    · refine .mapping (by decide) fun e he ↦ ?_
      simp only [List.mem_cons, List.not_mem_nil, or_false] at he
      rcases he with rfl | rfl
      · exact .undefined
      · exact .int hint
    · refine .list fun v hv ↦ ?_
      obtain rfl := List.mem_singleton.1 hv
      exact .str _
  have hcontainer : parcel.IsContainer := .list _ _
  have hdisplay : parcel.display = .ok parcelText := by cbv
  obtain ⟨text, w, htext, hread, hpruned⟩ := readBody_display hlike hcontainer
  obtain rfl : parcelText = text := Except.ok.inj (hdisplay.symm.trans htext)
  exact ⟨hlike, hcontainer, hdisplay, w, hread, hpruned⟩

end Value

end Flowgraph
