import Mathlib.Data.UInt

/-!
# Skipping occupied values of a wrapping 64-bit counter

The allocators walk a 64-bit counter past zero and past every occupied value.
The counter takes each of its `2 ^ 64` values once before it comes back to
where it started, so a walk of that many steps that finds no free value goes
on forever; the search answers no value exactly then.
-/

namespace ModularCounter

/-- Number of values of the counter. -/
abbrev period : Nat := 18446744073709551616

/-- The loop `while (value == 0 || occupied(value)) ++value`, for at most the
given number of rounds. -/
def skipOccupied (occupied : UInt64 → Bool) : Nat → UInt64 → Option UInt64
  | 0, _ => none
  | rounds + 1, value =>
      if value = 0 ∨ occupied value = true then
        skipOccupied occupied rounds (value + 1)
      else
        some value

/-- The first value from `counter` on that is neither zero nor occupied. -/
def firstFree (occupied : UInt64 → Bool) (counter : UInt64) : Option UInt64 :=
  skipOccupied occupied period counter

variable {occupied : UInt64 → Bool}

/-- Runs of the loop that end, however many rounds they take. -/
inductive Skips (occupied : UInt64 → Bool) : UInt64 → UInt64 → Prop where
  | stop {value : UInt64} :
      ¬(value = 0 ∨ occupied value = true) →
      Skips occupied value value
  | skip {value found : UInt64} :
      value = 0 ∨ occupied value = true →
      Skips occupied (value + 1) found →
      Skips occupied value found

private theorem skipOccupied_some
    {rounds : Nat} {value found : UInt64}
    (result : skipOccupied occupied rounds value = some found) :
    found ≠ 0 ∧ occupied found = false := by
  induction rounds generalizing value with
  | zero => simp [skipOccupied] at result
  | succ rounds induction =>
      simp only [skipOccupied] at result
      split at result
      · exact induction result
      · rename_i free
        simp only [Option.some.injEq] at result
        subst result
        simpa using free

theorem firstFree_some {counter found : UInt64}
    (result : firstFree occupied counter = some found) :
    found ≠ 0 ∧ occupied found = false :=
  skipOccupied_some result

/-- A counter that already stands on a free value is not moved. -/
theorem firstFree_of_free {counter : UInt64}
    (nonzero : counter ≠ 0) (free : occupied counter = false) :
    firstFree occupied counter = some counter := by
  have notSkipped : ¬(counter = 0 ∨ occupied counter = true) := by
    simp [nonzero, free]
  show skipOccupied occupied (18446744073709551615 + 1) counter = some counter
  rw [skipOccupied, if_neg notSkipped]

/-- A counter that has come around is moved on to one. -/
theorem firstFree_zero (free : occupied 1 = false) :
    firstFree occupied 0 = some 1 := by
  have notSkipped : ¬((0 : UInt64) + 1 = 0 ∨ occupied (0 + 1) = true) := by
    rw [UInt64.zero_add, free]
    decide
  show skipOccupied occupied (18446744073709551614 + 1 + 1) 0 = some 1
  rw [skipOccupied, if_pos (Or.inl rfl), skipOccupied, if_neg notSkipped,
    UInt64.zero_add]

/-- While the occupied values are the first ones and the counter stands on the
next, that is what it gives out. -/
theorem firstFree_numbered {count : Nat} (few : count + 1 < 2 ^ 64)
    (bounded : ∀ value, occupied value = true → value.toNat ≤ count) :
    firstFree occupied (UInt64.ofNat (count + 1)) =
      some (UInt64.ofNat (count + 1)) := by
  have value : (UInt64.ofNat (count + 1)).toNat = count + 1 :=
    UInt64.toNat_ofNat_of_lt' few
  apply firstFree_of_free
  · intro zero
    rw [zero] at value
    cases value
  · by_contra taken
    have bound := bounded _ (Bool.not_eq_false _ ▸ taken)
    omega

private theorem Skips.of_skipOccupied {rounds : Nat} {value found : UInt64}
    (result : skipOccupied occupied rounds value = some found) :
    Skips occupied value found := by
  induction rounds generalizing value with
  | zero => simp [skipOccupied] at result
  | succ rounds induction =>
      simp only [skipOccupied] at result
      split at result
      · rename_i taken
        exact Skips.skip taken (induction result)
      · rename_i free
        cases result
        exact Skips.stop free

theorem Skips.free {value found : UInt64}
    (skips : Skips occupied value found) :
    found ≠ 0 ∧ occupied found = false := by
  induction skips with
  | stop free => simpa using free
  | skip _ _ induction => exact induction

/-- The value a number of rounds ahead, seen one round later. -/
private theorem advance (value : UInt64) (distance : Nat) :
    value + 1 + UInt64.ofNat distance =
      value + UInt64.ofNat (distance + 1) := by
  have later : UInt64.ofNat (distance + 1) = UInt64.ofNat distance + 1 :=
    UInt64.ofNat_add distance 1
  rw [later, UInt64.add_assoc, UInt64.add_comm 1]

/-- A run of values to be skipped is walked through to its end. -/
theorem skipOccupied_of_distance {distance rounds : Nat} {value : UInt64}
    (enough : distance < rounds)
    (taken : ∀ ahead, ahead < distance →
      value + UInt64.ofNat ahead = 0 ∨
        occupied (value + UInt64.ofNat ahead) = true)
    (free : ¬(value + UInt64.ofNat distance = 0 ∨
      occupied (value + UInt64.ofNat distance) = true)) :
    skipOccupied occupied rounds value =
      some (value + UInt64.ofNat distance) := by
  induction distance generalizing value rounds with
  | zero =>
      obtain ⟨rest, rfl⟩ := Nat.exists_eq_succ_of_ne_zero (by omega : rounds ≠ 0)
      have here : value + UInt64.ofNat 0 = value := UInt64.add_zero value
      rw [here] at free ⊢
      rw [skipOccupied, if_neg free]
  | succ distance induction =>
      obtain ⟨rest, rfl⟩ := Nat.exists_eq_succ_of_ne_zero (by omega : rounds ≠ 0)
      have first : value = 0 ∨ occupied value = true := by
        have here := taken 0 (Nat.succ_pos distance)
        have start : value + UInt64.ofNat 0 = value := UInt64.add_zero value
        rwa [start] at here
      rw [skipOccupied, if_pos first, ← advance]
      apply induction (by omega)
      · intro ahead near
        rw [advance]
        exact taken (ahead + 1) (by omega)
      · rw [advance]
        exact free

/-- One turn of the counter is enough to come to a free value. -/
theorem firstFree_exists {value : UInt64} (counter : UInt64)
    (nonzero : value ≠ 0) (free : occupied value = false) :
    ∃ found, firstFree occupied counter = some found := by
  classical
  have arrives : counter + UInt64.ofNat (value - counter).toNat = value := by
    rw [UInt64.ofNat_toNat, UInt64.add_comm, UInt64.sub_add_cancel]
  have there : ¬(counter + UInt64.ofNat (value - counter).toNat = 0 ∨
      occupied (counter + UInt64.ofNat (value - counter).toNat) = true) := by
    rw [arrives]
    simp [nonzero, free]
  have stops : ∃ distance, ¬(counter + UInt64.ofNat distance = 0 ∨
      occupied (counter + UInt64.ofNat distance) = true) :=
    ⟨(value - counter).toNat, there⟩
  have near : Nat.find stops ≤ (value - counter).toNat :=
    Nat.find_min' stops there
  have turn : (value - counter).toNat < period :=
    (value - counter).toNat_lt_size
  refine ⟨_, skipOccupied_of_distance (Nat.lt_of_le_of_lt near turn) ?_
    (Nat.find_spec stops)⟩
  intro ahead closer
  exact not_not.mp (Nat.find_min stops closer)

/-- The search finds what the loop stops at, and finds nothing exactly when
the loop goes on forever. -/
theorem firstFree_some_iff {counter found : UInt64} :
    firstFree occupied counter = some found ↔
      Skips occupied counter found := by
  constructor
  · exact Skips.of_skipOccupied
  · intro skips
    obtain ⟨nonzero, free⟩ := skips.free
    obtain ⟨other, search⟩ := firstFree_exists counter nonzero free
    have same : other = found := by
      have result := Skips.of_skipOccupied search
      clear search nonzero free
      induction skips with
      | stop free =>
          cases result with
          | stop _ => rfl
          | skip taken _ => exact absurd taken free
      | skip taken _ induction =>
          cases result with
          | stop free => exact absurd taken free
          | skip _ rest => exact induction rest
    rw [search, same]

end ModularCounter
