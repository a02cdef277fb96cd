import Mathlib.Data.UInt
import Mathlib.Tactic.Common

/-!
# Low-bit masks as division and remainder

Or-ing with a mask of the low bits forgets exactly the remainder, and and-ing
with it keeps exactly the remainder.  The 64-bit forms are stated for any word
whose value is such a mask.
-/

namespace LowMask

private theorem or_eq_or_iff (bits left right : Nat) :
    left ||| (2 ^ bits - 1) = right ||| (2 ^ bits - 1) ↔
      left / 2 ^ bits = right / 2 ^ bits := by
  constructor
  · intro masked
    apply Nat.eq_of_testBit_eq
    intro index
    have above : ¬index + bits < bits := by omega
    have high := congrArg (fun value => value.testBit (index + bits)) masked
    simpa [Nat.testBit_or, Nat.testBit_two_pow_sub_one, above,
      Nat.testBit_div_two_pow] using high
  · intro blocks
    apply Nat.eq_of_testBit_eq
    intro index
    simp only [Nat.testBit_or, Nat.testBit_two_pow_sub_one]
    by_cases low : index < bits
    · simp [low]
    · have split : index - bits + bits = index := by omega
      have high := congrArg (fun value => value.testBit (index - bits)) blocks
      simpa [Nat.testBit_div_two_pow, split, low] using high

section Word

variable (bits : Nat) (mask : UInt64) (isMask : mask.toNat = 2 ^ bits - 1)

include isMask

theorem word_or_eq_or_iff (left right : UInt64) :
    left ||| mask = right ||| mask ↔
      left.toNat / 2 ^ bits = right.toNat / 2 ^ bits := by
  rw [← UInt64.toNat_inj, UInt64.toNat_or, UInt64.toNat_or, isMask]
  exact or_eq_or_iff bits left.toNat right.toNat

theorem word_and_toNat (word : UInt64) :
    (word &&& mask).toNat = word.toNat % 2 ^ bits := by
  rw [UInt64.toNat_and, isMask]
  exact Nat.and_two_pow_sub_one_eq_mod word.toNat bits

theorem word_and_ne_zero_iff (word : UInt64) :
    word &&& mask ≠ 0 ↔ word.toNat % 2 ^ bits ≠ 0 := by
  rw [← word_and_toNat bits mask isMask word, Ne, ← UInt64.toNat_inj]
  rfl

end Word

theorem word_shiftRight_toNat (bits : Nat) (word : UInt64) {shift : UInt64}
    (isShift : shift.toNat % 64 = bits) :
    (word >>> shift).toNat = word.toNat / 2 ^ bits := by
  rw [UInt64.toNat_shiftRight, isShift, Nat.shiftRight_eq_div_pow]

end LowMask
