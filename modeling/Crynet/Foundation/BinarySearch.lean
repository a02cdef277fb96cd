import Mathlib.Data.List.Basic

/-!
# Binary search

The search for one key among ordered elements, told only how the element at an
index compares with the key.  It ends at an element equal to the key or at the
position where the key belongs.  In a table whose keys increase, the search
therefore finds what a linear search finds, and the position where it ends is
one where an entry with the key can be inserted.
-/

namespace BinarySearch

/-- Where a search ended. -/
inductive Outcome where
  | found (index : Nat)
  | missing (position : Nat)
  deriving DecidableEq, Repr

/-- Search the indices from `first` up to, not including, `stop`. -/
def search (order : Nat → Ordering) : Nat → Nat → Nat → Outcome
  | 0, first, _ => .missing first
  | rounds + 1, first, stop =>
      if first < stop then
        let middle := (first + (stop - 1)) / 2
        match order middle with
        | .eq => .found middle
        | .lt => search order rounds (middle + 1) stop
        | .gt => search order rounds first middle
      else
        .missing first

/-- The elements before the key, then the one equal to it, then the rest. -/
structure Ordered (order : Nat → Ordering) (count : Nat) : Prop where
  below : ∀ low high, low < high → high < count →
    order high ≠ .gt → order low = .lt
  above : ∀ low high, low < high → high < count →
    order low ≠ .lt → order high = .gt

variable {order : Nat → Ordering} {count : Nat}

private theorem search_found {rounds first stop index : Nat}
    (ended : search order rounds first stop = .found index) :
    order index = .eq ∧ first ≤ index ∧ index < stop := by
  induction rounds generalizing first stop with
  | zero => simp [search] at ended
  | succ rounds induction =>
      simp only [search] at ended
      split at ended
      · rename_i inside
        split at ended
        · rename_i same
          obtain rfl := Outcome.found.inj ended
          exact ⟨same, by omega, by omega⟩
        · obtain ⟨same, low, high⟩ := induction ended
          exact ⟨same, by omega, high⟩
        · obtain ⟨same, low, high⟩ := induction ended
          exact ⟨same, low, by omega⟩
      · simp at ended

/-- A search that misses ends between the smaller elements and the larger. -/
theorem search_missing (ordered : Ordered order count)
    {rounds first stop position : Nat} (enough : stop ≤ first + rounds)
    (start : first ≤ stop) (bounded : stop ≤ count)
    (smaller : ∀ index, index < first → order index = .lt)
    (larger : ∀ index, stop ≤ index → index < count → order index = .gt)
    (ended : search order rounds first stop = .missing position) :
    position ≤ count ∧ (∀ index, index < position → order index = .lt) ∧
      ∀ index, position ≤ index → index < count → order index = .gt := by
  induction rounds generalizing first stop with
  | zero =>
      obtain rfl := Outcome.missing.inj ended
      have met : stop = first := by omega
      exact ⟨by omega, smaller, by rwa [met] at larger⟩
  | succ rounds induction =>
      simp only [search] at ended
      split at ended
      · rename_i inside
        have middleLow : first ≤ (first + (stop - 1)) / 2 := by omega
        have middleHigh : (first + (stop - 1)) / 2 < stop := by omega
        split at ended
        · simp at ended
        · rename_i less
          apply induction (by omega) (by omega) bounded ?_ larger ended
          intro index before
          rcases Nat.lt_or_eq_of_le (Nat.le_of_lt_succ before) with
            lower | same
          · exact ordered.below index _ lower (by omega) (by simp [less])
          · rw [same, less]
        · rename_i greater
          apply induction (by omega) (by omega) (by omega) smaller ?_ ended
          intro index after within
          rcases Nat.lt_or_eq_of_le after with higher | same
          · exact ordered.above _ index higher within (by simp [greater])
          · rw [← same, greater]
      · obtain rfl := Outcome.missing.inj ended
        have met : stop = first := by omega
        exact ⟨by omega, smaller, by rwa [met] at larger⟩

/-- A whole search, with one round for each element. -/
theorem search_whole_missing (ordered : Ordered order count) {position : Nat}
    (ended : search order count 0 count = .missing position) :
    position ≤ count ∧ (∀ index, index < position → order index = .lt) ∧
      ∀ index, position ≤ index → index < count → order index = .gt := by
  apply search_missing ordered (by omega) (by omega) (Nat.le_refl _) ?_ ?_ ended
  · intro index before
    omega
  · intro index after within
    omega

section Tables

variable {Entry Key : Type*} [Ord Key] {key : Entry → Key}
variable {entries : List Entry} {sought : Key}

/-- How the key of the entry at an index compares with the one sought. -/
def tableOrder (key : Entry → Key) (entries : List Entry) (sought : Key)
    (index : Nat) : Ordering :=
  match entries[index]? with
  | some entry => compare (key entry) sought
  | none => .gt

/-- A table whose keys increase. -/
def Increasing (key : Entry → Key) (entries : List Entry) : Prop :=
  entries.Pairwise fun first second => compare (key first) (key second) = .lt

private theorem tableOrder_of_lt {index : Nat} (within : index < entries.length) :
    tableOrder key entries sought index = compare (key entries[index]) sought := by
  simp only [tableOrder, List.getElem?_eq_getElem within]

private theorem ne_of_compare_lt [Std.TransOrd Key] {first second : Key}
    (less : compare first second = .lt) : first ≠ second := by
  rintro rfl
  have self : compare first first = .eq := Std.ReflCmp.compare_self
  rw [less] at self
  simp at self

theorem Increasing.ordered [Std.TransOrd Key]
    (increasing : Increasing key entries) (sought : Key) :
    Ordered (tableOrder key entries sought) entries.length := by
  constructor
  · intro low high below within upper
    have smaller := List.pairwise_iff_getElem.mp increasing low high
      (by omega) within below
    rw [tableOrder_of_lt within] at upper
    rw [tableOrder_of_lt (by omega)]
    exact Std.TransCmp.lt_of_lt_of_isLE smaller
      (Ordering.isLE_iff_ne_gt.mpr upper)
  · intro low high below within lower
    have smaller := List.pairwise_iff_getElem.mp increasing low high
      (by omega) within below
    rw [tableOrder_of_lt (by omega)] at lower
    rw [tableOrder_of_lt within]
    exact Std.TransCmp.gt_of_gt_of_isGE (Std.OrientedCmp.gt_of_lt smaller)
      (Ordering.isGE_iff_ne_lt.mpr lower)

/-- Where the search misses, the smaller keys end and the larger begin. -/
theorem Increasing.missing [Std.TransOrd Key]
    (increasing : Increasing key entries) {position : Nat}
    (ended : search (tableOrder key entries sought) entries.length 0
      entries.length = .missing position) :
    (∀ entry ∈ entries.take position, compare (key entry) sought = .lt) ∧
      ∀ entry ∈ entries.drop position, compare (key entry) sought = .gt := by
  obtain ⟨_, smaller, larger⟩ :=
    search_whole_missing (increasing.ordered sought) ended
  constructor
  · intro entry member
    obtain ⟨index, within, rfl⟩ := List.mem_take_iff_getElem.mp member
    have order := smaller index (by omega)
    rwa [tableOrder_of_lt (by omega)] at order
  · intro entry member
    obtain ⟨index, within, rfl⟩ := List.mem_drop_iff_getElem.mp member
    have order := larger (position + index) (by omega) (by omega)
    rwa [tableOrder_of_lt (by omega)] at order

/-- An entry with the key can be inserted where the search misses. -/
theorem Increasing.insert [Std.TransOrd Key]
    (increasing : Increasing key entries) {position : Nat} {entry : Entry}
    (ended : search (tableOrder key entries (key entry)) entries.length 0
      entries.length = .missing position) :
    Increasing key
      (entries.take position ++ entry :: entries.drop position) := by
  obtain ⟨smaller, larger⟩ := increasing.missing ended
  apply List.pairwise_append.mpr
  refine ⟨increasing.sublist (List.take_sublist _ _), ?_, ?_⟩
  · apply List.pairwise_cons.mpr
    refine ⟨?_, increasing.sublist (List.drop_sublist _ _)⟩
    intro later member
    exact Std.OrientedCmp.lt_of_gt (larger later member)
  · intro earlier before later member
    rcases List.mem_cons.mp member with rfl | after
    · exact smaller earlier before
    · exact Std.TransCmp.lt_trans (smaller earlier before)
        (Std.OrientedCmp.lt_of_gt (larger later after))

/-- What a linear search of a table finds. -/
def linear {Entry Key : Type*} [DecidableEq Key] (key : Entry → Key)
    (entries : List Entry) (sought : Key) : Option Entry :=
  entries.find? fun entry => key entry = sought

/-- An entry that is found is the one a linear search finds. -/
theorem Increasing.found [DecidableEq Key] [Std.TransOrd Key]
    [Std.LawfulEqOrd Key] (increasing : Increasing key entries)
    {rounds stop index : Nat}
    (ended : search (tableOrder key entries sought) rounds 0 stop =
      .found index) :
    linear key entries sought = entries[index]? ∧ index < entries.length := by
  obtain ⟨same, _, _⟩ := search_found ended
  have within : index < entries.length := by
    by_contra outside
    simp [tableOrder, List.getElem?_eq_none (Nat.not_lt.mp outside)] at same
  rw [tableOrder_of_lt within] at same
  have equal := Std.LawfulEqCmp.eq_of_compare same
  refine ⟨?_, within⟩
  rw [linear, List.getElem?_eq_getElem within, List.find?_eq_some_iff_getElem]
  refine ⟨decide_eq_true equal, index, within, rfl, ?_⟩
  intro earlier before
  have smaller := List.pairwise_iff_getElem.mp increasing earlier index
    (by omega) within before
  have different : key entries[earlier] ≠ sought := by
    rw [← equal]
    exact ne_of_compare_lt smaller
  simp [different]

/-- Where the search misses, so does a linear search. -/
theorem Increasing.linear_missing [DecidableEq Key] [Std.TransOrd Key]
    (increasing : Increasing key entries) {position : Nat}
    (ended : search (tableOrder key entries sought) entries.length 0
      entries.length = .missing position) :
    linear key entries sought = none := by
  obtain ⟨smaller, larger⟩ := increasing.missing ended
  apply List.find?_eq_none.mpr
  intro entry member same
  have equal : key entry = sought := of_decide_eq_true same
  have self : compare (key entry) sought = .eq := by
    rw [equal]
    exact Std.ReflCmp.compare_self
  rw [← List.take_append_drop position entries] at member
  rcases List.mem_append.mp member with before | after
  · simp [smaller entry before] at self
  · simp [larger entry after] at self

/-- What a linear search finds after an insertion of a new key. -/
theorem linear_insert {Entry Key : Type*} [DecidableEq Key]
    {key : Entry → Key} {entries : List Entry} {position : Nat}
    {entry : Entry}
    (absent : linear key entries (key entry) = none) (other : Key) :
    linear key (entries.take position ++ entry :: entries.drop position) other =
      if key entry = other then some entry else linear key entries other := by
  split
  · rename_i same
    rw [← same]
    have none : linear key (entries.take position) (key entry) = none := by
      apply List.find?_eq_none.mpr
      intro earlier member
      exact List.find?_eq_none.mp absent earlier (List.mem_of_mem_take member)
    rw [linear] at none
    simp [linear, List.find?_append, none]
  · rename_i different
    rw [linear, List.find?_append, List.find?_cons_of_neg (by simp [different]),
      ← List.find?_append, List.take_append_drop]
    rfl

/-- What a linear search finds once some entries have been taken out. -/
theorem Increasing.linear_filter [DecidableEq Key] [Std.TransOrd Key]
    (increasing : Increasing key entries) (keep : Entry → Bool) (other : Key) :
    linear key (entries.filter keep) other =
      (linear key entries other).filter keep := by
  induction entries with
  | nil => rfl
  | cons entry entries induction =>
      obtain ⟨head, tail⟩ := List.pairwise_cons.mp increasing
      have below := induction tail
      by_cases same : key entry = other
      · have none : linear key entries other = none := by
          apply List.find?_eq_none.mpr
          intro later member alike
          apply ne_of_compare_lt (head later member)
          rw [same, of_decide_eq_true alike]
        have first : linear key (entry :: entries) other = some entry :=
          List.find?_cons_of_pos (by simp [same])
        rw [none] at below
        rw [first]
        cases kept : keep entry with
        | true => simp [linear, Option.filter, kept, same]
        | false => simpa [Option.filter, kept] using below
      · have skipped : linear key (entry :: entries) other =
            linear key entries other :=
          List.find?_cons_of_neg (by simp [same])
        rw [skipped, ← below]
        cases kept : keep entry with
        | true => simp [linear, kept, same]
        | false => simp [linear, kept]

end Tables

end BinarySearch
