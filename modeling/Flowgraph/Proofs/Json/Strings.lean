import Flowgraph.Json.Reader
import Flowgraph.Json.Writer
import Mathlib

namespace Flowgraph

namespace Text

theorem hexDigits_succ (width n : ℕ) : hexDigits (width + 2) n =
    hexDigits (width + 1) (n / 16) ++ [Nat.digitChar (n % 16)] := by
  unfold hexDigits
  dsimp only
  obtain hn | hn := Nat.lt_or_ge n 16
  · rw [Nat.toDigits_of_lt_base hn, Nat.div_eq_of_lt hn, Nat.mod_eq_of_lt hn,
      Nat.toDigits_of_lt_base (by decide)]
    simp [List.replicate_succ']
  · rw [Nat.toDigits_of_base_le (by decide) hn]
    simp

theorem hexDigits_one {n : ℕ} (h : n < 16) : hexDigits 1 n = [Nat.digitChar n] := by
  unfold hexDigits
  rw [Nat.toDigits_of_lt_base h]
  rfl

theorem hexDigits_four {n : ℕ} (h : n < 0x10000) : hexDigits 4 n =
    [Nat.digitChar (n / 16 / 16 / 16), Nat.digitChar (n / 16 / 16 % 16),
      Nat.digitChar (n / 16 % 16), Nat.digitChar (n % 16)] := by
  rw [hexDigits_succ, hexDigits_succ, hexDigits_succ, hexDigits_one (by omega)]
  rfl

theorem charOf_toNat (c : Char) : charOf c.toNat = c := by
  have hvalid : c.toNat < 0xD800 ∨ 0xDFFF < c.toNat ∧ c.toNat < 0x110000 := c.valid
  unfold charOf
  rw [if_neg (by simp; omega), Char.ofNat_toNat]

end Text

namespace Json

theorem hexValue?_digitChar {n : ℕ} (h : n < 16) : hexValue? (Nat.digitChar n) = some n := by
  revert n
  decide

/-- A unit is read back if it is not the last of the text. -/
theorem unit?_hexDigits {n : ℕ} (h : n < 0x10000) {t : List Char} (ht : t ≠ []) :
    unit? (Text.hexDigits 4 n ++ t) = some (n, t) := by
  rw [Text.hexDigits_four h]
  simp only [List.cons_append, List.nil_append, unit?]
  rw [hexValue?_digitChar (by omega), hexValue?_digitChar (by omega),
    hexValue?_digitChar (by omega), hexValue?_digitChar (by omega)]
  have hvalue :
      ((n / 16 / 16 / 16 * 16 + n / 16 / 16 % 16) * 16 + n / 16 % 16) * 16 + n % 16 = n := by omega
  simp [ht, hvalue]

theorem lt_of_isHighUnit {n : ℕ} (h : isHighUnit n = true) : n < 0x10000 := by
  simp only [isHighUnit, Bool.and_eq_true, decide_eq_true_eq] at h
  omega

theorem lt_of_isLowUnit {n : ℕ} (h : isLowUnit n = true) : n < 0x10000 := by
  simp only [isLowUnit, Bool.and_eq_true, decide_eq_true_eq] at h
  omega

theorem readEscape_unit {n : ℕ} (h : n < 0x10000) (hhigh : isHighUnit n = false) {t : List Char}
    (ht : t ≠ []) :
    readEscape ('u' :: (Text.hexDigits 4 n ++ t)) = .inl (some (Text.charOf n, t)) := by
  rw [readEscape, unit?_hexDigits h ht]
  dsimp only
  rw [hhigh]
  rfl

theorem readEscape_pair {high low : ℕ} (hhigh : isHighUnit high = true)
    (hlow : isLowUnit low = true) {t : List Char} (ht : t ≠ []) :
    readEscape ('u' :: (Text.hexDigits 4 high ++ (escapedUnit low ++ t))) =
      .inl (some (pairChar high low, t)) := by
  have hlength : ¬ (Text.hexDigits 4 low ++ t).length ≤ 4 := by
    have hpos := List.length_pos_iff.2 ht
    rw [Text.hexDigits_four (lt_of_isLowUnit hlow)]
    simp only [List.length_append, List.length_cons, List.length_nil]
    omega
  rw [readEscape, unit?_hexDigits (lt_of_isHighUnit hhigh) (by simp [escapedUnit])]
  dsimp only [escapedUnit, List.cons_append]
  rw [if_pos hhigh]
  change (if (Text.hexDigits 4 low ++ t).length ≤ 4 then _ else _) = _
  rw [if_neg hlength, unit?_hexDigits (lt_of_isLowUnit hlow) ht]
  dsimp only
  rw [if_pos hlow]

/-- The units of a character beyond the first plane. -/
theorem pairChar_units {c : Char} (h : 0x10000 ≤ c.toNat) :
    isHighUnit (0xD800 + (c.toNat - 0x10000) / 0x400) = true ∧
    isLowUnit (0xDC00 + (c.toNat - 0x10000) % 0x400) = true ∧
    pairChar (0xD800 + (c.toNat - 0x10000) / 0x400) (0xDC00 + (c.toNat - 0x10000) % 0x400) = c := by
  have hvalid : c.toNat < 0xD800 ∨ 0xDFFF < c.toNat ∧ c.toNat < 0x110000 := c.valid
  refine ⟨?_, ?_, ?_⟩
  · simp [isHighUnit]
    omega
  · simp [isLowUnit]
    omega
  · unfold pairChar
    have hvalue : 0x10000 + (0xD800 + (c.toNat - 0x10000) / 0x400 - 0xD800) * 0x400 +
        (0xDC00 + (c.toNat - 0x10000) % 0x400 - 0xDC00) = c.toNat := by omega
    rw [hvalue, Char.ofNat_toNat]

section

variable (opening acc : List Char) (fuel : ℕ) {t : List Char}

theorem readString_escape {c : Char} {s : List Char} (h : readEscape s = .inl (some (c, t))) :
    readString opening (fuel + 1) acc ('\\' :: s) = readString opening fuel (c :: acc) t := by
  rw [readString, h]

theorem readString_simple {c d : Char} (h : simpleEscape? c = some d) (hu : c ≠ 'u') :
    readString opening (fuel + 1) acc ('\\' :: c :: t) = readString opening fuel (d :: acc) t := by
  refine readString_escape opening acc fuel ?_
  rw [readEscape.eq_3 c t hu, h]

theorem readString_unit {n : ℕ} (h : n < 0x10000) (hhigh : isHighUnit n = false) (ht : t ≠ []) :
    readString opening (fuel + 1) acc (escapedUnit n ++ t) =
      readString opening fuel (Text.charOf n :: acc) t :=
  readString_escape opening acc fuel (readEscape_unit h hhigh ht)

theorem readString_pair {high low : ℕ} (hhigh : isHighUnit high = true)
    (hlow : isLowUnit low = true) (ht : t ≠ []) :
    readString opening (fuel + 1) acc (escapedUnit high ++ escapedUnit low ++ t) =
      readString opening fuel (pairChar high low :: acc) t := by
  rw [List.append_assoc]
  exact readString_escape opening acc fuel (readEscape_pair hhigh hlow ht)

theorem readString_escapedChar (c : Char) (ht : t ≠ []) :
    readString opening (fuel + 1) acc (escapedChar c ++ t) =
      readString opening fuel (c :: acc) t := by
  unfold escapedChar
  split_ifs with hmark hn hr htab hf hb hprint hplane
  · rw [Bool.or_eq_true, beq_iff_eq, beq_iff_eq] at hmark
    obtain rfl | rfl := hmark <;> exact readString_simple opening acc fuel rfl (by decide)
  · obtain rfl := beq_iff_eq.1 hn
    exact readString_simple opening acc fuel rfl (by decide)
  · obtain rfl := beq_iff_eq.1 hr
    exact readString_simple opening acc fuel rfl (by decide)
  · obtain rfl := beq_iff_eq.1 htab
    exact readString_simple opening acc fuel rfl (by decide)
  · obtain rfl := beq_iff_eq.1 hf
    exact readString_simple opening acc fuel rfl (by decide)
  · obtain rfl := beq_iff_eq.1 hb
    exact readString_simple opening acc fuel rfl (by decide)
  · simp only [Bool.or_eq_true, beq_iff_eq, not_or] at hmark
    simp only [Bool.and_eq_true, decide_eq_true_eq] at hprint
    have hcontrol : ¬ c.toNat < 0x20 := by
      rw [Char.le_def, UInt32.le_iff_toNat_le] at hprint
      exact Nat.not_lt.2 hprint.1
    rw [List.singleton_append, readString.eq_5 _ _ _ _ _ hmark.1 hmark.2, if_neg hcontrol]
  · have hhigh : isHighUnit c.toNat = false := by
      have hvalid : c.toNat < 0xD800 ∨ 0xDFFF < c.toNat ∧ c.toNat < 0x110000 := c.valid
      simp only [isHighUnit, Bool.and_eq_false_iff, decide_eq_false_iff_not]
      omega
    rw [readString_unit opening acc fuel hplane hhigh ht, Text.charOf_toNat]
  · obtain ⟨hhigh, hlow, hpair⟩ := pairChar_units (Nat.not_lt.1 hplane)
    dsimp only
    rw [readString_pair opening acc fuel hhigh hlow ht, hpair]

theorem readString_flatMap (cs rest : List Char) (hfuel : cs.length < fuel) :
    readString opening fuel acc (cs.flatMap escapedChar ++ '"' :: rest) =
      .ok (String.ofList (acc.reverse ++ cs), rest) := by
  obtain ⟨fuel, rfl⟩ := Nat.exists_eq_succ_of_ne_zero (Nat.ne_zero_of_lt hfuel)
  induction cs generalizing acc fuel with
  | nil =>
    rw [List.append_nil]
    rfl
  | cons c cs ih =>
    rw [List.length_cons, Nat.succ_lt_succ_iff] at hfuel
    obtain ⟨fuel, rfl⟩ := Nat.exists_eq_succ_of_ne_zero (Nat.ne_zero_of_lt hfuel)
    rw [List.flatMap_cons, List.append_assoc, readString_escapedChar _ _ _ _ (by simp),
      ih _ _ hfuel]
    simp

theorem escapedChar_ne_nil (c : Char) : escapedChar c ≠ [] := by
  have hunit (n : ℕ) : escapedUnit n ≠ [] := List.cons_ne_nil _ _
  unfold escapedChar
  split_ifs
  case neg => exact List.append_ne_nil_of_left_ne_nil (hunit _) _
  all_goals exact List.cons_ne_nil _ _

theorem length_le_flatMap (cs : List Char) : cs.length ≤ (cs.flatMap escapedChar).length := by
  induction cs with
  | nil => exact le_rfl
  | cons c cs ih =>
    rw [List.flatMap_cons, List.length_append, List.length_cons, Nat.add_comm]
    exact Nat.add_le_add (List.length_pos_iff.2 (escapedChar_ne_nil c)) ih

/-- The rest of a written string, behind its opening quote, is read as the string. -/
theorem readString_writeString (s : String) (rest : List Char) :
    readString opening ((s.toList.flatMap escapedChar ++ '"' :: rest).length + 1) []
      (s.toList.flatMap escapedChar ++ '"' :: rest) = .ok (s, rest) := by
  have hlength := length_le_flatMap s.toList
  rw [readString_flatMap _ _ _ _ _ (by rw [List.length_append]; omega)]
  simp

end

end Json

end Flowgraph
