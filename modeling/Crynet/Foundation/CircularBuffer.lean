import Mathlib.Data.List.Basic
import Mathlib.Logic.Function.Basic
import Mathlib.Tactic.SplitIfs

/-!
# Circular buffers

A buffer of `size` cells that is read and written going round.  What it holds
is a window: some number of cells from a starting position on, in order.  The
rules say what a window is after a cell is written behind it, after its first
cell is given up, and after it is copied to the front of another buffer.
-/

namespace CircularBuffer

variable {α : Type*}

/-- The `count` cells from `start` on, going round. -/
def window (cells : Nat → α) (size start count : Nat) : List α :=
  (List.range count).map (fun offset => cells ((start + offset) % size))

/-- How many cells lie between two positions, going round. -/
def distance (size head tail : Nat) : Nat :=
  if head ≤ tail then tail - head else tail + size - head

/-- The position after this one. -/
def next (size position : Nat) : Nat :=
  if position + 1 ≥ size then 0 else position + 1

@[simp] theorem window_length (cells : Nat → α) (size start count : Nat) :
    (window cells size start count).length = count := by
  simp [window]

@[simp] theorem window_zero (cells : Nat → α) (size start : Nat) :
    window cells size start 0 = [] := by
  simp [window]

private theorem window_succ_last (cells : Nat → α) (size start count : Nat) :
    window cells size start (count + 1) =
      window cells size start count ++ [cells ((start + count) % size)] := by
  simp [window, List.range_succ]

theorem window_succ_first (cells : Nat → α) (size start count : Nat) :
    window cells size start (count + 1) =
      cells (start % size) :: window cells size (start + 1) count := by
  simp only [window, List.range_succ_eq_map, List.map_cons, List.map_map,
    Nat.add_zero, List.cons.injEq, true_and]
  apply List.map_congr_left
  intro offset _
  have shifted : start + (offset + 1) = start + 1 + offset := by omega
  simp [shifted]

private theorem window_congr {cells others : Nat → α} {size otherSize start otherStart
    count : Nat}
    (agree : ∀ offset, offset < count →
      cells ((start + offset) % size) =
        others ((otherStart + offset) % otherSize)) :
    window cells size start count =
      window others otherSize otherStart count := by
  apply List.map_congr_left
  intro offset within
  exact agree offset (List.mem_range.mp within)

theorem window_start_mod (cells : Nat → α) (size start count : Nat) :
    window cells size (start % size) count =
      window cells size start count := by
  apply window_congr
  intro offset _
  rw [Nat.mod_add_mod]

private theorem add_mod_ne {size start first second : Nat} (before : first < second)
    (round : second < first + size) :
    (start + first) % size ≠ (start + second) % size := by
  intro same
  have gap := Nat.sub_mod_eq_zero_of_mod_eq same.symm
  have short : start + second - (start + first) = second - first := by omega
  rw [short, Nat.mod_eq_of_lt (by omega)] at gap
  omega

/-- A cell written just behind the window is not part of it. -/
theorem window_update_behind (cells : Nat → α) (start : Nat)
    {size count : Nat} (room : count < size) (value : α) :
    window (Function.update cells ((start + count) % size) value) size start
        count =
      window cells size start count := by
  apply window_congr
  intro offset within
  exact Function.update_of_ne (add_mod_ne within (by omega)) _ _

/-- Writing behind a window that has room makes it one longer. -/
theorem window_write (cells : Nat → α) (start : Nat) {size count : Nat}
    (room : count < size) (value : α) :
    window (Function.update cells ((start + count) % size) value) size start
        (count + 1) =
      window cells size start count ++ [value] := by
  rw [window_succ_last, window_update_behind cells start room, Function.update_self]

/-- A window copied to the front of a larger buffer is the same list. -/
theorem window_unrolled (cells : Nat → α) (size start : Nat)
    {copied : Nat → α} {count larger : Nat} (fits : count ≤ larger)
    (copies : ∀ offset, offset < count →
      copied offset = cells ((start + offset) % size)) :
    window copied larger 0 count = window cells size start count := by
  apply window_congr
  intro offset within
  rw [Nat.zero_add, Nat.mod_eq_of_lt (by omega)]
  exact copies offset within

section Positions

variable {size head tail : Nat}

theorem distance_lt (headWithin : head < size) (tailWithin : tail < size) :
    distance size head tail < size := by
  unfold distance
  split <;> omega

theorem distance_eq_zero_iff (headWithin : head < size) :
    distance size head tail = 0 ↔ head = tail := by
  unfold distance
  split <;> omega

theorem distance_reaches (headWithin : head < size) (tailWithin : tail < size) :
    (head + distance size head tail) % size = tail := by
  unfold distance
  split
  · rw [Nat.add_sub_cancel' (by assumption), Nat.mod_eq_of_lt tailWithin]
  · have total : head + (tail + size - head) = tail + size := by omega
    rw [total, Nat.add_mod_right, Nat.mod_eq_of_lt tailWithin]

theorem next_eq_mod (within : head < size) :
    next size head = (head + 1) % size := by
  unfold next
  split
  · have last : head + 1 = size := by omega
    rw [last, Nat.mod_self]
  · rw [Nat.mod_eq_of_lt (by omega)]

theorem next_lt (within : head < size) : next size head < size := by
  unfold next
  split <;> omega

/-- Moving the tail on adds one, unless that closes the round. -/
theorem distance_next_tail (headWithin : head < size)
    (tailWithin : tail < size) (apart : head ≠ next size tail) :
    distance size head (next size tail) = distance size head tail + 1 := by
  unfold next at apart ⊢
  simp only [distance]
  split_ifs at apart ⊢ <;> omega

/-- When moving the tail on closes the round, every cell is in use. -/
theorem distance_full (headWithin : head < size) (tailWithin : tail < size)
    (closed : head = next size tail) :
    distance size head tail + 1 = size := by
  unfold next at closed
  simp only [distance]
  split_ifs at closed ⊢ <;> omega

/-- Moving the head on takes one away. -/
theorem distance_next_head (headWithin : head < size)
    (tailWithin : tail < size) (apart : head ≠ tail) :
    distance size (next size head) tail + 1 = distance size head tail := by
  simp only [next, distance]
  split_ifs <;> omega

end Positions

end CircularBuffer
