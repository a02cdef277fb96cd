import Mathlib.Algebra.Order.Group.Nat
import Mathlib.Data.Nat.Init

/-!
# Moving through blocks of equal size

A position belongs to the block that division by the block size names.  When
the position advances by one it either stays in its block or enters the next
one at an aligned position; `count` blocks make up one block of the level above.
-/

namespace Block

/-- A position before `target` stays in the block of `target` once it is in
it. -/
theorem div_succ_eq {position target size : Nat} (before : position < target)
    (same : target / size = position / size) :
    target / size = (position + 1) / size := by
  have lower : position / size ≤ (position + 1) / size :=
    Nat.div_le_div_right (Nat.le_succ position)
  have upper : (position + 1) / size ≤ target / size :=
    Nat.div_le_div_right before
  omega

theorem aligned_of_entered {position size : Nat}
    (entered : (position + 1) / size ≠ position / size) :
    (position + 1) % size = 0 := by
  rw [Nat.succ_div] at entered
  split at entered
  · rename_i divides
    exact Nat.mod_eq_zero_of_dvd divides
  · simp at entered

private theorem div_succ_of_entered {position size : Nat}
    (entered : (position + 1) / size ≠ position / size) :
    (position + 1) / size = position / size + 1 := by
  rw [Nat.succ_div] at entered ⊢
  split at entered
  · rename_i divides
    rw [if_pos divides]
  · simp at entered

/-- Entering a block without entering one of the level above makes the digit
of the block nonzero. -/
theorem digit_ne_zero {position size count : Nat}
    (entered : (position + 1) / size ≠ position / size)
    (within : (position + 1) / (size * count) = position / (size * count)) :
    (position + 1) / size % count ≠ 0 := by
  have next := div_succ_of_entered entered
  rw [← Nat.div_div_eq_div_mul, ← Nat.div_div_eq_div_mul, next] at within
  intro zero
  rw [next] at zero
  have divides : count ∣ position / size + 1 := Nat.dvd_of_mod_eq_zero zero
  rw [Nat.succ_div, if_pos divides] at within
  omega

end Block
