import Flowgraph.Text.Case
import Mathlib.Data.List.Basic
import Mathlib.Data.Nat.Bitwise
import Mathlib.Tactic.Common

namespace Flowgraph.Text

def bits (ns : List ℕ) : ℕ := ns.foldr (fun n m ↦ 2 ^ n ||| m) 0

theorem testBit_bits {ns : List ℕ} {n : ℕ} (h : n ∈ ns) : (bits ns).testBit n = true := by
  induction ns with
  | nil => cases h
  | cons m ns ih =>
    change (2 ^ m ||| bits ns).testBit n = true
    rw [Nat.testBit_lor]
    obtain rfl | h := List.mem_cons.1 h
    · rw [Nat.testBit_two_pow_self, Bool.true_or]
    · rw [ih h, Bool.or_true]

theorem disjoint_of_bits {ns ms : List ℕ} (h : bits ns &&& bits ms = 0) {n : ℕ} (hn : n ∈ ns) :
    n ∉ ms := by
  intro hm
  have hbit : (bits ns &&& bits ms).testBit n = true := by
    rw [Nat.testBit_land, testBit_bits hn, testBit_bits hm, Bool.true_and]
  rw [h, Nat.zero_testBit] at hbit
  cases hbit

namespace CharRange

def members (r : CharRange) : List ℕ :=
  (List.range ((r.last - r.first) / r.step + 1)).map fun i ↦ r.first + i * r.step

theorem mem_members {r : CharRange} {n : ℕ} (h : r.contains n = true) : n ∈ r.members := by
  unfold contains at h
  simp only [Bool.and_eq_true, decide_eq_true_eq, beq_iff_eq] at h
  obtain ⟨⟨hfirst, hlast⟩, hstep⟩ := h
  refine List.mem_map.2 ⟨(n - r.first) / r.step, List.mem_range.2 ?_, ?_⟩
  · exact Nat.lt_succ_of_le (Nat.div_le_div_right (Nat.sub_le_sub_right hlast r.first))
  · rw [Nat.div_mul_cancel (Nat.dvd_of_mod_eq_zero hstep)]
    exact Nat.add_sub_of_le hfirst

end CharRange

def upperSources : List ℕ :=
  upperShifts.flatMap (·.range.members) ++ upperExpansions.map (·.1)

/-- The code points that upper case leads to; zero stands in for what is no code point. -/
def upperTargets : List ℕ :=
  0 :: (upperShifts.flatMap fun s ↦ s.range.members.map fun n : ℕ ↦ (n + s.distance).toNat) ++
    upperExpansions.flatMap (·.2)

theorem upperTargets_notMem {n : ℕ} (h : n ∈ upperTargets) : n ∉ upperSources :=
  disjoint_of_bits (by decide +kernel) h

theorem upperForm_of_notMem {c : Char} (h : c.toNat ∉ upperSources) : upperForm c = [c] := by
  have hshifts : upperShifts.find? (·.range.contains c.toNat) = none := by
    refine List.find?_eq_none.2 fun s hs hc ↦ h (List.mem_append_left _ ?_)
    exact List.mem_flatMap.2 ⟨s, hs, CharRange.mem_members hc⟩
  have hexpansions : upperExpansions.find? (·.1 == c.toNat) = none := by
    refine List.find?_eq_none.2 fun e he hc ↦ h (List.mem_append_right _ ?_)
    exact List.mem_map.2 ⟨e, he, eq_of_beq hc⟩
  unfold upperForm mapped?
  rw [hshifts, hexpansions]
  rfl

theorem toNat_ofNat_mem_upperTargets {n : ℕ} (h : n ∈ upperTargets) :
    (Char.ofNat n).toNat ∈ upperTargets := by
  unfold Char.ofNat
  by_cases hvalid : n.isValidChar
  · rw [dif_pos hvalid]
    exact h
  · rw [dif_neg hvalid]
    exact List.mem_cons_self

/-- The upper case of a character is the character itself or comes from the tables. -/
theorem upperForm_cases (c : Char) :
    upperForm c = [c] ∨ upperForm c ≠ [] ∧ ∀ d ∈ upperForm c, d.toNat ∈ upperTargets := by
  unfold upperForm mapped?
  cases hs : upperShifts.find? (·.range.contains c.toNat) with
  | some s =>
    have hmem := List.mem_of_find?_eq_some hs
    have hc := List.find?_some hs
    refine .inr ⟨List.cons_ne_nil _ _, fun d hd ↦ ?_⟩
    rw [List.mem_singleton.1 hd]
    refine toNat_ofNat_mem_upperTargets (List.mem_append_left _ (List.mem_cons_of_mem _ ?_))
    exact List.mem_flatMap.2 ⟨s, hmem, List.mem_map.2 ⟨_, CharRange.mem_members hc, rfl⟩⟩
  | none =>
    cases he : upperExpansions.find? (·.1 == c.toNat) with
    | none => exact .inl rfl
    | some e =>
      have hmem := List.mem_of_find?_eq_some he
      have hfull : ∀ e ∈ upperExpansions, e.2 ≠ [] := by decide
      refine .inr ⟨fun hnil ↦ hfull e hmem (List.map_eq_nil_iff.1 hnil), fun d hd ↦ ?_⟩
      obtain ⟨n, hn, rfl⟩ := List.mem_map.1 hd
      exact toNat_ofNat_mem_upperTargets
        (List.mem_append_right _ (List.mem_flatMap.2 ⟨e, hmem, hn⟩))

theorem upperForm_upperForm {c d : Char} (h : d ∈ upperForm c) : upperForm d = [d] := by
  obtain hc | ⟨-, hc⟩ := upperForm_cases c
  · rw [hc] at h
    rwa [List.mem_singleton.1 h]
  · exact upperForm_of_notMem (upperTargets_notMem (hc d h))

theorem toUpper_eq_nil {s : List Char} (h : toUpper s = []) : s = [] := by
  cases s with
  | nil => rfl
  | cons c s =>
    have hc : upperForm c = [] := (List.append_eq_nil_iff.1 h).1
    obtain hself | ⟨hfull, -⟩ := upperForm_cases c
    · rw [hc] at hself
      cases hself
    · exact absurd hc hfull

theorem toUpper_toUpper (s : List Char) : toUpper (toUpper s) = toUpper s := by
  have hfixed (t : List Char) (ht : ∀ d ∈ t, upperForm d = [d]) : toUpper t = t := by
    unfold toUpper
    rw [List.flatMap_congr ht, List.flatMap_singleton']
  refine hfixed _ fun d hd ↦ ?_
  obtain ⟨c, -, hc⟩ := List.mem_flatMap.1 hd
  exact upperForm_upperForm hc

end Flowgraph.Text
