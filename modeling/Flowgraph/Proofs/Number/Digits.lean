import Flowgraph.Number.Decimal
import Mathlib

namespace Flowgraph.Number

theorem digitsValue_lt {ds : List Char} (h : ∀ c ∈ ds, c.isDigit = true) :
    digitsValue ds < 10 ^ ds.length := by
  have hfold (n : ℕ) : ds.foldl (fun n c ↦ 10 * n + (c.toNat - '0'.toNat)) n <
      (n + 1) * 10 ^ ds.length := by
    induction ds generalizing n with
    | nil => simp
    | cons c ds ih =>
      obtain ⟨hc, hds⟩ := List.forall_mem_cons.1 h
      have hdigit : c.toNat ≤ 57 := (Char.isDigit_iff_toNat.1 hc).2
      have hzero : '0'.toNat = 48 := rfl
      have hrest := ih hds (10 * n + (c.toNat - '0'.toNat))
      have hle : 10 * n + (c.toNat - '0'.toNat) + 1 ≤ (n + 1) * 10 := by omega
      calc
        _ < (10 * n + (c.toNat - '0'.toNat) + 1) * 10 ^ ds.length := hrest
        _ ≤ (n + 1) * 10 * 10 ^ ds.length := Nat.mul_le_mul_right _ hle
        _ = (n + 1) * 10 ^ (c :: ds).length := by
          rw [List.length_cons, Nat.pow_succ', Nat.mul_assoc]
  have hall := hfold 0
  rwa [Nat.zero_add, Nat.one_mul] at hall

theorem length_toString_le_iff {n : ℕ} :
    (toString n).length ≤ longestInteger ↔ n < 10 ^ longestInteger := by
  rw [Nat.toString_eq_ofList_toDigits, String.length_ofList]
  exact Nat.length_toDigits_le_iff (by decide) (by decide)

theorem isOk_integerText_iff {i : Int} :
    (integerText i).isOk = true ↔ i.natAbs < 10 ^ longestInteger := by
  unfold integerText
  dsimp only
  split
  · next h => exact iff_of_true rfl (length_toString_le_iff.1 h)
  · next h => exact iff_of_false Bool.false_ne_true (mt length_toString_le_iff.2 h)

end Flowgraph.Number
