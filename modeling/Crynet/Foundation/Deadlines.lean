import Mathlib.Algebra.Order.Group.Multiset
import Mathlib.Data.List.Pairwise
import Mathlib.Data.List.Sort
import Mathlib.Data.Multiset.Filter

/-!
# Items with deadlines

What is due at a time, in the order of deadline and rank, and what is left
waiting.  The rank tells items of one deadline apart; a list that is strictly
ordered and holds exactly the expired items is the due list, whatever way it
was computed.
-/

namespace Deadlines

variable {α : Type*} (deadline rank : α → Nat)

/-- Order by deadline, then by rank. -/
def NotAfter (first second : α) : Prop :=
  deadline first < deadline second ∨
    deadline first = deadline second ∧ rank first ≤ rank second

/-- The strict form of the order. -/
def Before (first second : α) : Prop :=
  deadline first < deadline second ∨
    deadline first = deadline second ∧ rank first < rank second

instance : DecidableRel (NotAfter deadline rank) := fun first second =>
  inferInstanceAs (Decidable (deadline first < deadline second ∨
    deadline first = deadline second ∧ rank first ≤ rank second))

instance : Std.Total (NotAfter deadline rank) where
  total first second := by
    unfold NotAfter
    omega

instance : IsTrans α (NotAfter deadline rank) where
  trans first second third := by
    unfold NotAfter
    omega

/-- The items whose deadline has come, in order. -/
def due (now : Nat) (items : List α) : List α :=
  (items.filter fun item => deadline item ≤ now).insertionSort
    (NotAfter deadline rank)

/-- The items whose deadline is still to come. -/
def waiting (now : Nat) (items : List α) : List α :=
  items.filter fun item => now < deadline item

variable {deadline rank}

private theorem Before.notAfter {first second : α}
    (before : Before deadline rank first second) :
    NotAfter deadline rank first second := by
  rcases before with earlier | ⟨together, lower⟩
  · exact Or.inl earlier
  · exact Or.inr ⟨together, Nat.le_of_lt lower⟩

private theorem not_before_of_notAfter {first second : α}
    (ordered : NotAfter deadline rank first second) :
    ¬Before deadline rank second first := by
  unfold NotAfter at ordered
  unfold Before
  omega

section Split

variable {now : Nat} {items handed : List α} {rest : Multiset α}

/-- A split into expired and unexpired items is the one `waiting` makes. -/
theorem waiting_eq
    (split : (items : Multiset α) = (handed : Multiset α) + rest)
    (expired : ∀ item ∈ handed, deadline item ≤ now)
    (unexpired : ∀ item ∈ rest, now < deadline item) :
    (waiting deadline now items : Multiset α) = rest := by
  have none : (handed : Multiset α).filter
      (fun item => now < deadline item) = 0 := by
    apply Multiset.filter_eq_nil.mpr
    intro item member
    have reached := expired item (Multiset.mem_coe.mp member)
    omega
  rw [waiting, ← Multiset.filter_coe, split, Multiset.filter_add, none,
    zero_add]
  exact Multiset.filter_eq_self.mpr unexpired

/-- A strictly ordered list of the expired items is the due list. -/
theorem due_eq
    (split : (items : Multiset α) = (handed : Multiset α) + rest)
    (expired : ∀ item ∈ handed, deadline item ≤ now)
    (unexpired : ∀ item ∈ rest, now < deadline item)
    (ordered : handed.Pairwise (Before deadline rank)) :
    due deadline rank now items = handed := by
  have all : (handed : Multiset α).filter
      (fun item => deadline item ≤ now) = handed := by
    apply Multiset.filter_eq_self.mpr
    intro item member
    exact expired item (Multiset.mem_coe.mp member)
  have none : rest.filter (fun item => deadline item ≤ now) = 0 := by
    apply Multiset.filter_eq_nil.mpr
    intro item member
    have future := unexpired item member
    omega
  have same : (items.filter fun item => deadline item ≤ now).Perm handed := by
    apply Multiset.coe_eq_coe.mp
    rw [← Multiset.filter_coe, split, Multiset.filter_add, all, none,
      add_zero]
  have permuted : (due deadline rank now items).Perm handed :=
    (List.perm_insertionSort _ _).trans same
  have weakly : handed.Pairwise (NotAfter deadline rank) :=
    ordered.imp Before.notAfter
  refine permuted.eq_of_pairwise ?_ (List.pairwise_insertionSort _ _) weakly
  intro first second firstMember secondMember lower upper
  by_contra different
  have symmetric : Std.Symm fun first second =>
      Before deadline rank first second ∨
        Before deadline rank second first :=
    ⟨fun _ _ either => either.symm⟩
  have comparable : handed.Pairwise fun first second =>
      Before deadline rank first second ∨
        Before deadline rank second first :=
    ordered.imp Or.inl
  have either := comparable.forall (permuted.subset firstMember) secondMember
    different
  rcases either with before | after
  · exact not_before_of_notAfter upper before
  · exact not_before_of_notAfter lower after

end Split

end Deadlines
