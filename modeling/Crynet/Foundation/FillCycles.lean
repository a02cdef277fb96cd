import Mathlib.Algebra.BigOperators.Group.Finset.Basic
import Mathlib.Algebra.Order.Ring.Nat
import Mathlib.Data.Nat.Count
import Mathlib.Data.Set.Operations
import Mathlib.Order.Bounds.Defs

/-!
# Fill cycles

A level rises from zero and falls back.  Its history is a list of samples.  It
is cut where a sample is zero; the pieces are the cycles, and the greatest
sample of a cycle is its crest.  Every crest has a weight, and the weight of
a history is the sum over its cycles.  A meter that is shown one sample after
the other knows the weight so far, and does not notice samples left out on a
way down.

The weight of interest counts the thresholds below a crest when each threshold
is twice the one before.
-/

namespace FillCycles

/-- The thresholds `base * 2 ^ round` below a level.  A round from `level` on
has its threshold above. -/
def exceeded (base level : Nat) : Nat :=
  Nat.count (fun round => base * 2 ^ round < level) level

def cycles (levels : List Nat) : List (List Nat) :=
  levels.splitOn 0

def crest (cycle : List Nat) : Nat :=
  cycle.foldr max 0

def total (weight : Nat → Nat) (levels : List Nat) : Nat :=
  ((cycles levels).map fun cycle => weight (crest cycle)).sum

section Thresholds

variable {base level : Nat}

/-- The thresholds below a level are the first ones. -/
theorem lt_exceeded_iff (positive : 0 < base) (round : Nat) :
    round < exceeded base level ↔ base * 2 ^ round < level := by
  have early : ∀ other, base * 2 ^ other < level → other < level := by
    intro other below
    have grows : other < 2 ^ other := Nat.lt_two_pow_self
    have scaled : 2 ^ other ≤ base * 2 ^ other :=
      Nat.le_mul_of_pos_left _ positive
    omega
  have rises : ∀ {lower upper : Nat}, lower ≤ upper →
      base * 2 ^ lower ≤ base * 2 ^ upper := by
    intro lower upper ordered
    apply Nat.mul_le_mul_left
    exact Nat.pow_le_pow_right Nat.zero_lt_two ordered
  constructor
  · intro counted
    by_contra above
    have inside : exceeded base level ≤ level := Nat.count_le _
    obtain ⟨rest, split⟩ := Nat.exists_eq_add_of_le
      (Nat.le_of_lt (Nat.lt_of_lt_of_le counted inside))
    have above : ∀ other < rest, ¬base * 2 ^ (round + other) < level := by
      intro other _ below
      have higher := rises (Nat.le_add_right round other)
      omega
    have fewer : exceeded base level ≤ round := by
      calc exceeded base level
          = Nat.count (fun other => base * 2 ^ other < level)
              (round + rest) := congrArg (Nat.count _) split
        _ = Nat.count (fun other => base * 2 ^ other < level) round := by
              rw [Nat.count_add, Nat.count_of_forall_not above, Nat.add_zero]
        _ ≤ round := Nat.count_le _
    omega
  · intro below
    have all : Nat.count (fun other => base * 2 ^ other < level) (round + 1) =
        round + 1 := by
      apply Nat.count_of_forall
      intro other earlier
      exact Nat.lt_of_le_of_lt (rises (Nat.le_of_lt_succ earlier)) below
    have inside : round + 1 ≤ level := early round below
    have more := Nat.count_monotone
      (fun other => base * 2 ^ other < level) inside
    unfold exceeded
    omega

theorem exceeded_le_iff (positive : 0 < base) (round : Nat) :
    exceeded base level ≤ round ↔ level ≤ base * 2 ^ round := by
  have below : round < exceeded base level ↔ base * 2 ^ round < level :=
    lt_exceeded_iff positive round
  omega

theorem exceeded_monotone (positive : 0 < base) :
    Monotone (exceeded base) := by
  intro low high ordered
  apply (exceeded_le_iff positive _).mpr
  have bound := (exceeded_le_iff positive _).mp
    (Nat.le_refl (exceeded base high))
  omega

/-- A higher level below the same next threshold. -/
theorem exceeded_eq (positive : 0 < base) {crest : Nat}
    (higher : crest ≤ level)
    (fits : level ≤ base * 2 ^ exceeded base crest) :
    exceeded base level = exceeded base crest := by
  apply Nat.le_antisymm
  · exact (exceeded_le_iff positive _).mpr fits
  · exact exceeded_monotone positive higher

/-- The first level above the next threshold. -/
theorem exceeded_succ (positive : 0 < base) {crest : Nat}
    (passed : level = base * 2 ^ exceeded base crest + 1) :
    exceeded base level = exceeded base crest + 1 := by
  apply Nat.le_antisymm
  · apply (exceeded_le_iff positive _).mpr
    have some : 0 < base * 2 ^ exceeded base crest :=
      Nat.mul_pos positive (Nat.two_pow_pos _)
    rw [Nat.pow_succ, ← Nat.mul_assoc]
    omega
  · apply (lt_exceeded_iff positive _).mpr
    omega

end Thresholds

/-- What is remembered of a history: the weight of the cycles that are over,
the crest of the present one, and the greatest sample. -/
@[ext] structure Meter where
  past : Nat
  present : Nat
  greatest : Nat
  bounded : present ≤ greatest

namespace Meter

def unused : Meter :=
  { past := 0, present := 0, greatest := 0, bounded := Nat.le_refl 0 }

variable (weight : Nat → Nat)

def sample (meter : Meter) (level : Nat) : Meter :=
  { past :=
      if level = 0 then meter.past + weight meter.present else meter.past
    present := if level = 0 then 0 else max meter.present level
    greatest := max meter.greatest level
    bounded := by
      have bounded := meter.bounded
      split
      · omega
      · omega }

def read (levels : List Nat) : Meter :=
  levels.foldl (sample weight) unused

/-- The weight of the history. -/
def reading (meter : Meter) : Nat :=
  meter.past + weight meter.present

variable {weight : Nat → Nat} {meter : Meter} {low high level : Nat}

theorem read_snoc (levels : List Nat) (level : Nat) :
    read weight (levels ++ [level]) =
      (read weight levels).sample weight level :=
  List.foldl_concat _ _ _ _

/-- A sample that is no news. -/
theorem sample_same (nothing : weight 0 = 0) (known : level ≤ meter.present)
    (emptied : level = 0 → meter.present = 0) :
    meter.sample weight level = meter := by
  have bounded := meter.bounded
  by_cases zero : level = 0
  · have empty := emptied zero
    ext
    · simp [sample, zero, empty, nothing]
    · simp [sample, zero, empty]
    · simp [sample, zero]
  · ext
    · simp [sample, zero]
    · simp [sample, zero, known]
    · exact Nat.max_eq_left (Nat.le_trans known bounded)

/-- Samples left out on a way down. -/
theorem sample_fall (nothing : weight 0 = 0) (falls : low ≤ high)
    (known : high ≤ meter.present) :
    (meter.sample weight high).sample weight low = meter.sample weight low := by
  have bounded := meter.bounded
  have news : max meter.present high = meter.present := Nat.max_eq_left known
  by_cases zero : high = 0
  · have lower : low = 0 := by omega
    ext
    · simp [sample, zero, lower, nothing]
    · simp [sample, lower]
    · simp [sample, zero, lower]
  · ext
    · simp [sample, zero, news]
    · simp [sample, zero, news]
    · show max (max meter.greatest high) low = max meter.greatest low
      omega

/-- A level below the present crest adds nothing. -/
theorem reading_sample_le (nothing : weight 0 = 0)
    (known : level ≤ meter.present) :
    (meter.sample weight level).reading weight = meter.reading weight := by
  by_cases zero : level = 0
  · simp [reading, sample, zero, nothing]
  · simp [reading, sample, zero, known]

theorem greatest_sample_le (known : level ≤ meter.present) :
    (meter.sample weight level).greatest = meter.greatest :=
  Nat.max_eq_left (Nat.le_trans known meter.bounded)

/-- The meter goes on from where it is, with the first cycle of the rest as
the rest of the present cycle. -/
theorem reading_foldl (levels : List Nat) (meter : Meter) :
    ∃ first later, cycles levels = first :: later ∧
      (levels.foldl (sample weight) meter).reading weight =
        meter.past + weight (max meter.present (crest first)) +
          (later.map fun cycle => weight (crest cycle)).sum := by
  induction levels generalizing meter with
  | nil =>
      refine ⟨[], [], List.splitOn_nil 0, ?_⟩
      simp [reading, crest]
  | cons level levels induction =>
      obtain ⟨first, later, split, same⟩ :=
        induction (meter.sample weight level)
      unfold cycles at split
      rw [cycles, List.splitOn_cons_eq_if_modifyHead, split, List.foldl_cons,
        same]
      by_cases zero : level = 0
      · refine ⟨[], first :: later, by simp [zero], ?_⟩
        simp [sample, zero, crest, Nat.add_assoc]
      · refine ⟨level :: first, later, by simp [zero], ?_⟩
        simp [sample, zero, crest, Nat.max_assoc]

/-- A meter that has seen a whole history shows its weight. -/
theorem reading_read (levels : List Nat) :
    (read weight levels).reading weight = FillCycles.total weight levels := by
  obtain ⟨first, later, split, same⟩ := @reading_foldl weight levels unused
  rw [read, same, FillCycles.total, split]
  simp [unused]

private theorem greatest_foldl (levels : List Nat) (meter : Meter) :
    (levels.foldl (sample weight) meter).greatest =
      levels.foldl max meter.greatest := by
  induction levels generalizing meter with
  | nil => rfl
  | cons level levels induction => exact induction (meter.sample weight level)

theorem greatest_read {levels : List Nat} (sampled : levels ≠ []) :
    IsGreatest {level | level ∈ levels} (read weight levels).greatest := by
  have largest : (read weight levels).greatest = levels.max sampled := by
    rw [read, greatest_foldl, List.foldl_max_eq_max sampled]
    exact Nat.zero_max _
  rw [largest]
  exact ⟨List.max_mem sampled, fun _ member => List.le_max_of_mem member⟩

private theorem reading_mono (rising : Monotone weight) :
    meter.reading weight ≤ (meter.sample weight level).reading weight := by
  by_cases zero : level = 0
  · simp [reading, sample, zero]
  · have higher : weight meter.present ≤ weight (max meter.present level) :=
      rising (Nat.le_max_left _ _)
    simp only [reading, sample, zero, if_false]
    omega

private theorem weight_le_reading (rising : Monotone weight) :
    weight level ≤ (meter.sample weight level).reading weight := by
  have higher : weight level ≤ weight (meter.sample weight level).present := by
    apply rising
    simp only [sample]
    split
    · omega
    · omega
  exact Nat.le_trans higher (Nat.le_add_left _ _)

end Meter

variable {weight : Nat → Nat}

/-- A zero separates what comes before it from what comes after it. -/
theorem total_zero (before after : List Nat) :
    total weight (before ++ 0 :: after) =
      total weight before + total weight after := by
  simp [total, cycles, List.splitOn_append_cons_self]

private theorem total_snoc_le (rising : Monotone weight) (levels : List Nat)
    (level : Nat) : total weight levels ≤ total weight (levels ++ [level]) := by
  rw [← Meter.reading_read, ← Meter.reading_read, Meter.read_snoc]
  exact Meter.reading_mono rising

/-- Every level reached counts. -/
theorem weight_le_total (rising : Monotone weight) {levels : List Nat}
    {level : Nat} (member : level ∈ levels) :
    weight level ≤ total weight levels := by
  induction levels using List.reverseRecOn with
  | nil => cases member
  | append_singleton levels last induction =>
      rcases List.mem_append.mp member with earlier | here
      · exact Nat.le_trans (induction earlier) (total_snoc_le rising _ _)
      · rw [List.mem_singleton.mp here, ← Meter.reading_read, Meter.read_snoc]
        exact Meter.weight_le_reading rising

theorem total_eq_zero (nothing : weight 0 = 0) {levels : List Nat}
    (zeros : ∀ level ∈ levels, level = 0) : total weight levels = 0 := by
  induction levels with
  | nil => simpa [total, cycles, crest] using nothing
  | cons level levels induction =>
      have first : level = 0 := zeros level List.mem_cons_self
      have empty : total weight [] = 0 := by
        simpa [total, cycles, crest] using nothing
      have split := @total_zero weight [] levels
      rw [List.nil_append, empty, Nat.zero_add] at split
      rw [first, split]
      exact induction fun other member =>
        zeros other (List.mem_cons_of_mem _ member)

/-- A history that does not come back to zero is one cycle. -/
theorem total_le_of_ne_zero (rising : Monotone weight) {levels : List Nat}
    {level : Nat} (nonzero : 0 ∉ levels)
    (bound : ∀ other ∈ levels, other ≤ level) :
    total weight levels ≤ weight level := by
  have whole : cycles levels = [levels] := by
    apply List.splitOnP_eq_singleton
    intro other member
    exact beq_eq_false_iff_ne.mpr fun zero => nonzero (zero ▸ member)
  have low : crest levels ≤ level := by
    clear whole nonzero
    induction levels with
    | nil => exact Nat.zero_le _
    | cons other levels induction =>
        apply Nat.max_le.mpr
        exact ⟨bound other List.mem_cons_self, induction fun another member =>
          bound another (List.mem_cons_of_mem _ member)⟩
  rw [total, whole]
  simpa using rising low

/-- The sum of a family in which one level rises. -/
theorem sum_risen {Index : Type*} [Fintype Index] [DecidableEq Index]
    {before after : Index → Nat} {risen : Index} {rise : Nat}
    (others : ∀ other, other ≠ risen → after other = before other)
    (higher : after risen = before risen + rise) :
    ∑ index, after index = ∑ index, before index + rise := by
  have rest : ∑ index ∈ Finset.univ.erase risen, after index =
      ∑ index ∈ Finset.univ.erase risen, before index := by
    apply Finset.sum_congr rfl
    intro other member
    exact others other (Finset.ne_of_mem_erase member)
  have raised := Finset.add_sum_erase _ after (Finset.mem_univ risen)
  have level := Finset.add_sum_erase _ before (Finset.mem_univ risen)
  omega

/-- The greatest of a family in which one level rises. -/
theorem greatest_risen {Index : Type*} {before after : Index → Nat}
    {risen : Index} {level top : Nat}
    (others : ∀ other, other ≠ risen → after other = before other)
    (rise : after risen = max (before risen) level)
    (greatest : IsGreatest (Set.range before) top) :
    IsGreatest (Set.range after) (max top level) := by
  have known : ∀ other, before other ≤ top :=
    fun other => greatest.2 (Set.mem_range_self other)
  obtain ⟨other, attained⟩ := greatest.1
  constructor
  · by_cases higher : top ≤ level
    · refine ⟨risen, ?_⟩
      have lower := known risen
      show after risen = max top level
      omega
    · refine ⟨other, ?_⟩
      show after other = max top level
      by_cases same : other = risen
      · subst same
        rw [rise, attained]
      · rw [others other same, attained]
        omega
  · rintro _ ⟨other, rfl⟩
    have lower := known other
    show after other ≤ max top level
    by_cases same : other = risen
    · subst same
      omega
    · have kept := others other same
      omega

end FillCycles
