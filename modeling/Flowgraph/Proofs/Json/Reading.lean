import Flowgraph.Json.Reader
import Flowgraph.Proofs.Reading

namespace Flowgraph.Json

/-- An integer that is too long fails because of its digits, a fault of form for itself. -/
def Failure.Culprit (e : Failure) (ds : List Char) : Prop :=
  ∀ n, e.cause = .longInteger n →
    Number.longestInteger < n ∧ ds.length = n ∧ ∀ d ∈ ds, d.isDigit = true

abbrev Reads {α : Type} : List Char → Except Failure (α × List Char) → Prop :=
  Flowgraph.Reads Failure.Culprit Prod.snd

theorem reads_fail {α : Type} {s t : List Char} {cause : Cause} (h : ∀ n, cause ≠ .longInteger n) :
    Reads (α := α) s (fail cause t) := reads_error (List.nil_infix) fun n hn ↦ absurd hn (h n)

theorem suffix_skipSpace (s : List Char) : skipSpace s <:+ s := List.dropWhile_suffix _

theorem suffix_of_skipSpace {c : Char} {s t : List Char} (h : skipSpace t = c :: s) : s <:+ t :=
  suffix_of_cons (h ▸ suffix_skipSpace t)

theorem suffix_of_unit? {s t : List Char} {n : ℕ} (h : unit? s = some (n, t)) : t <:+ s := by
  unfold unit? at h
  split at h
  · simp only [Option.bind_eq_bind, Option.bind_eq_some_iff] at h
    obtain ⟨_, -, _, -, _, -, _, -, h⟩ := h
    split_ifs at h
    cases h
    exact List.suffix_append [_, _, _, _] _
  · cases h

theorem eq_of_inl {a b : Char} {s t : List Char}
    (h : (.inl (some (a, s)) : Option (Char × List Char) ⊕ Cause) = .inl (some (b, t))) : s = t :=
  (Prod.mk.inj (Option.some.inj (Sum.inl.inj h))).2

theorem suffix_of_readEscape {s t : List Char} {c : Char}
    (h : readEscape s = .inl (some (c, t))) : t <:+ s := by
  unfold readEscape at h
  split at h
  · cases h
  · next r =>
    split at h
    · cases h
    · next high r' hunit =>
      have hr' : r' <:+ 'u' :: r := (suffix_of_unit? hunit).trans (List.suffix_cons _ _)
      split_ifs at h
      · split at h
        · split_ifs at h
          · exact eq_of_inl h ▸ hr'
          · split at h
            · cases h
            · next low r₃ hlow =>
              -- A second unit counts where it is the lower half of a pair.
              split_ifs at h
              · exact eq_of_inl h ▸
                  (suffix_of_unit? hlow).trans (suffix_of_cons (suffix_of_cons hr'))
              · exact eq_of_inl h ▸ hr'
        · exact eq_of_inl h ▸ hr'
      · exact eq_of_inl h ▸ hr'
  · next c' r _ =>
    split at h
    · exact eq_of_inl h ▸ List.suffix_cons _ _
    · cases h

theorem reads_readString (opening : List Char) (fuel : ℕ) (acc s : List Char) :
    Reads s (readString opening fuel acc s) := by
  induction fuel generalizing acc s with
  | zero => exact reads_fail (by rintro n ⟨⟩)
  | succ fuel ih =>
    unfold readString
    split
    · exact reads_fail (by rintro n ⟨⟩)
    · exact reads_ok (List.suffix_cons _ _)
    · split
      · next hescape =>
        exact (ih _ _).of_suffix ((suffix_of_readEscape hescape).trans (List.suffix_cons _ _))
      all_goals exact reads_fail (by rintro n ⟨⟩)
    · split
      · exact reads_fail (by rintro n ⟨⟩)
      · exact (ih _ _).of_suffix (List.suffix_cons _ _)

theorem suffix_fraction (s : List Char) : (fraction s).2 <:+ s := by
  unfold fraction
  split
  · dsimp only
    split
    · exact List.suffix_refl _
    · exact (List.drop_suffix _ _).trans (List.suffix_cons _ _)
  · exact List.suffix_refl _

theorem suffix_exponent (s : List Char) : (exponent s).2 <:+ s := by
  unfold exponent
  split
  · next e r =>
    split
    · split
      next negative r' hsign =>
        have hr' : r' <:+ r := by
          split at hsign <;> cases hsign
          · exact List.suffix_cons _ _
          · exact List.suffix_cons _ _
          · exact List.suffix_refl _
        dsimp only
        split
        · exact List.suffix_refl _
        · exact (List.drop_suffix _ _).trans (hr'.trans (List.suffix_cons _ _))
    · exact List.suffix_refl _
  · exact List.suffix_refl _

theorem reads_readMagnitude {start s : List Char} (negative : Bool) (hs : s <:+ start) :
    Reads start (readMagnitude start negative s) := by
  unfold readMagnitude
  extract_lets whole n
  have hwhole : whole <+: s ∧ ∀ d ∈ whole, d.isDigit = true := by
    simp only [whole]
    split
    · refine ⟨List.prefix_append ['0'] _, fun d hd ↦ ?_⟩
      rw [List.mem_singleton.1 hd]
      rfl
    · exact ⟨List.takeWhile_prefix _, List.all_eq_true.1 List.all_takeWhile⟩
  have hr : (exponent (fraction (s.drop whole.length)).2).2 <:+ start :=
    (suffix_exponent _).trans ((suffix_fraction _).trans ((List.drop_suffix _ _).trans hs))
  dsimp only
  split_ifs with hempty hform hlong
  · exact reads_fail (by rintro n ⟨⟩)
  · refine reads_error (hwhole.1.isInfix.trans hs.isInfix) ?_
    rintro n ⟨⟩
    exact ⟨hlong, rfl, hwhole.2⟩
  all_goals exact reads_ok hr

theorem suffix_of_word? {w s t : List Char} (h : word? w s = some t) : t <:+ s := by
  induction w generalizing s with
  | nil =>
    cases h
    exact List.suffix_refl t
  | cons c w ih =>
    cases s with
    | nil => cases h
    | cons d s =>
      unfold word? at h
      split_ifs at h
      exact (ih h).trans (List.suffix_cons d s)

theorem reads_readWord (s : List Char) : Reads s (readWord s) := by
  unfold readWord
  repeat' split
  all_goals first
    | exact reads_ok (suffix_of_word? ‹_›)
    | exact reads_fail (by rintro n ⟨⟩)

theorem reads_readNumber (s : List Char) : Reads s (readNumber s) := by
  unfold readNumber
  split
  · split
    · next hword => exact reads_ok ((suffix_of_word? hword).trans (List.suffix_cons _ _))
    · exact reads_readMagnitude true (List.suffix_cons _ _)
  · exact reads_readMagnitude false (List.suffix_refl _)

mutual

theorem reads_readValue (fuel room : ℕ) (s : List Char) : Reads s (readValue fuel room s) := by
  cases fuel with
  | zero => exact reads_fail (by rintro n ⟨⟩)
  | succ fuel =>
    unfold readValue
    split
    · next r =>
      refine ((reads_readString _ _ _ r).bind fun (t, r') ↦ ?_).of_suffix (List.suffix_cons _ _)
      exact reads_ok (List.suffix_refl _)
    · next r =>
      split
      · exact reads_fail (by rintro n ⟨⟩)
      · next room =>
        split
        · next hr => exact reads_ok ((suffix_of_skipSpace hr).trans (List.suffix_cons _ _))
        · refine ((reads_readEntries fuel room [] _).bind fun (es, r') ↦ ?_).of_suffix
            ((suffix_skipSpace r).trans (List.suffix_cons _ _))
          exact reads_ok (List.suffix_refl _)
    · next r =>
      split
      · exact reads_fail (by rintro n ⟨⟩)
      · next room =>
        split
        · next hr => exact reads_ok ((suffix_of_skipSpace hr).trans (List.suffix_cons _ _))
        · refine ((reads_readItems fuel room [] _).bind fun (vs, r') ↦ ?_).of_suffix
            ((suffix_skipSpace r).trans (List.suffix_cons _ _))
          exact reads_ok (List.suffix_refl _)
    · split
      · exact reads_readNumber _
      · exact reads_readWord _
    · exact reads_fail (by rintro n ⟨⟩)
termination_by fuel

theorem reads_readItems (fuel room : ℕ) (acc : List Value) (s : List Char) :
    Reads s (readItems fuel room acc s) := by
  cases fuel with
  | zero => exact reads_fail (by rintro n ⟨⟩)
  | succ fuel =>
    unfold readItems
    refine (reads_readValue fuel room s).bind fun (v, r) ↦ ?_
    dsimp only
    split
    · next hr => exact reads_ok (suffix_of_skipSpace hr)
    · next hr =>
      exact (reads_readItems fuel room _ _).of_suffix
        ((suffix_skipSpace _).trans (suffix_of_skipSpace hr))
    · exact reads_fail (by rintro n ⟨⟩)
termination_by fuel

theorem reads_readEntries (fuel room : ℕ) (acc : List (Key × Value)) (s : List Char) :
    Reads s (readEntries fuel room acc s) := by
  cases fuel with
  | zero => exact reads_fail (by rintro n ⟨⟩)
  | succ fuel =>
    unfold readEntries
    split
    · next r =>
      refine ((reads_readString _ _ _ r).bind fun (name, r₁) ↦ ?_).of_suffix (List.suffix_cons _ _)
      dsimp only
      split
      · next hr₁ =>
        refine ((reads_readValue fuel room _).bind fun (v, r₃) ↦ ?_).of_suffix
          ((suffix_skipSpace _).trans (suffix_of_skipSpace hr₁))
        dsimp only
        split
        · next hr₃ => exact reads_ok (suffix_of_skipSpace hr₃)
        · next hr₃ =>
          exact (reads_readEntries fuel room _ _).of_suffix
            ((suffix_skipSpace _).trans (suffix_of_skipSpace hr₃))
        · exact reads_fail (by rintro n ⟨⟩)
      · exact reads_fail (by rintro n ⟨⟩)
    · exact reads_fail (by rintro n ⟨⟩)
termination_by fuel

end

/-- Where reading fails with an integer that is too long, its digits stand in the text. -/
theorem digits_of_read {room n : ℕ} {text : List Char} {e : ReadError}
    (h : read room text = .error e) (hn : e.cause = .longInteger n) :
    Number.longestInteger < n ∧
      ∃ ds, ds <:+: text ∧ ds.length = n ∧ ∀ d ∈ ds, d.isDigit = true := by
  unfold read at h
  extract_lets locate at h
  split at h
  · cases h
    cases hn
  · have hreads := (reads_readValue (2 * text.length + 2) room (skipSpace text)).of_suffix
      (suffix_skipSpace text)
    split at h
    · next f hf =>
      cases h
      obtain ⟨ds, hds, hculprit⟩ := hreads.culprit f hf
      obtain ⟨hlong, hdigits⟩ := hculprit n hn
      exact ⟨hlong, ds, hds, hdigits⟩
    · split at h <;> cases h
      cases hn

end Flowgraph.Json
