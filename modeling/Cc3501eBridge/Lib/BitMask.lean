import Mathlib.Data.BitVec

/-!
# Single bits of a mask

A mask of `w` bits stands for a set of indices; `1#w <<< i` is the set of `i` alone, empty if `i` is
no index.  The mask operations of C are those of the set. -/

namespace Cc3501eBridge

variable {w : Nat} {mask : BitVec w} {i j : Nat}

theorem getLsbD_bit (i j : Nat) : (1#w <<< i).getLsbD j = decide (i < w ∧ i = j) := by
  rw [← BitVec.twoPow_eq, BitVec.getLsbD_twoPow, Bool.decide_and]

/-- A bit is tested. -/
theorem and_bit_ne_zero : mask &&& 1#w <<< i ≠ 0 ↔ mask.getLsbD i = true := by
  rw [← BitVec.twoPow_eq, BitVec.and_twoPow]
  cases h : mask.getLsbD i with
  | false => simp
  | true =>
      have hlt : i < w := BitVec.lt_of_getLsbD h
      refine ⟨fun _ => rfl, fun _ hz => ?_⟩
      have hbit := congrArg (·.getLsbD i) hz
      simp [hlt] at hbit

theorem and_bit_eq_zero : mask &&& 1#w <<< i = 0 ↔ mask.getLsbD i = false := by
  rw [← not_iff_not, Bool.not_eq_false]
  exact and_bit_ne_zero

/-- A bit is set. -/
theorem getLsbD_or_bit (hi : i < w) (j : Nat) :
    (mask ||| 1#w <<< i).getLsbD j = (mask.getLsbD j || decide (i = j)) := by
  rw [BitVec.getLsbD_or, getLsbD_bit]
  simp [hi]

/-- A bit is cleared. -/
theorem getLsbD_and_not_bit (j : Nat) :
    (mask &&& ~~~(1#w <<< i)).getLsbD j = (mask.getLsbD j && !decide (i = j)) := by
  rw [BitVec.getLsbD_and, BitVec.getLsbD_not, getLsbD_bit]
  cases h : mask.getLsbD j with
  | false => rfl
  | true =>
      have hj : j < w := BitVec.lt_of_getLsbD h
      by_cases hij : i = j
      · subst hij
        simp [hj]
      · simp [hj, hij]

end Cc3501eBridge
