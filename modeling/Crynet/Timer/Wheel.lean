import Crynet.Timer.Placement
import Mathlib.Algebra.BigOperators.Group.Finset.Piecewise
import Mathlib.Data.Fintype.Basic
import Mathlib.Tactic.Abel

/-!
# What the wheel operations do to the buckets

One lemma for each operation of the timer queue, in terms of its buckets and
of the multiset of all pending entries.  `move_bucket` ends exactly when no
entry of the bucket goes back to it, and then distributes the bucket in order.
-/

namespace Crynet

namespace BucketIndex

theorem mem_all (position : BucketIndex) : position ∈ all := by
  cases position with
  | near index => simp [all]
  | level level index => simp [all]

private theorem all_nodup : all.Nodup := by
  apply List.nodup_append.mpr
  refine ⟨?_, ?_, ?_⟩
  · apply List.Nodup.map _ (List.nodup_finRange 256)
    intro left right same
    exact near.inj same
  · apply List.nodup_flatMap.mpr
    constructor
    · intro chosen _
      apply List.Nodup.map _ (List.nodup_finRange 64)
      intro left right same
      exact (level.inj same).2
    · apply List.Pairwise.imp _ (List.nodup_finRange 4)
      intro left right different position leftMember rightMember
      obtain ⟨_, _, rfl⟩ := List.mem_map.mp leftMember
      obtain ⟨_, _, same⟩ := List.mem_map.mp rightMember
      exact different (level.inj same).1.symm
  · intro left leftMember right rightMember same
    obtain ⟨_, _, rfl⟩ := List.mem_map.mp leftMember
    obtain ⟨_, _, rightMember⟩ := List.mem_flatMap.mp rightMember
    obtain ⟨_, _, rfl⟩ := List.mem_map.mp rightMember
    cases same

instance : Fintype BucketIndex :=
  ⟨⟨all, all_nodup⟩, mem_all⟩

end BucketIndex

namespace TimerQueue

/-- All pending entries, wherever they are kept. -/
def pending (queue : TimerQueue) : Multiset TimerEntry :=
  ∑ position, (queue.buckets position : Multiset TimerEntry)

theorem mem_pending {queue : TimerQueue} {entry : TimerEntry} :
    entry ∈ queue.pending ↔
      ∃ position, entry ∈ queue.buckets position := by
  simp [pending, Multiset.mem_sum]

/-- Replacing one bucket exchanges its entries. -/
theorem pending_setBucket (queue : TimerQueue) (position : BucketIndex)
    (entries : List TimerEntry) :
    (queue.setBucket position entries).pending + queue.buckets position =
      queue.pending + entries := by
  show (∑ other, (Function.update queue.buckets position entries other :
    Multiset TimerEntry)) + queue.buckets position = queue.pending + entries
  have pushed : (fun other => (Function.update queue.buckets position entries
      other : Multiset TimerEntry)) =
        Function.update
          (fun other => (queue.buckets other : Multiset TimerEntry))
          position entries := by
    funext other
    by_cases same : other = position
    · subst same
      simp
    · simp [same]
  rw [pushed, Finset.sum_update_of_mem (Finset.mem_univ position), pending,
    ← Finset.add_sum_erase Finset.univ _ (Finset.mem_univ position),
    Finset.sdiff_singleton_eq_erase]
  abel

theorem pending_congr {queue next : TimerQueue}
    (same : next.buckets = queue.buckets) : next.pending = queue.pending := by
  rw [pending, pending, same]

theorem pending_countP (queue : TimerQueue) (chosen : TimerEntry → Prop)
    [DecidablePred chosen] :
    (BucketIndex.all.map fun position =>
      (queue.buckets position).countP chosen).sum =
        Multiset.countP chosen queue.pending := by
  have listed : (BucketIndex.all.map fun position =>
      (queue.buckets position).countP chosen).sum =
        ∑ position, (queue.buckets position).countP chosen := rfl
  rw [listed, pending, ← Multiset.coe_countPAddMonoidHom, map_sum]
  apply Finset.sum_congr rfl
  intro position _
  simp

theorem pending_filter (queue : TimerQueue) (chosen : TimerEntry → Prop)
    [DecidablePred chosen] :
    { queue with buckets := fun position =>
        (queue.buckets position).filter chosen }.pending =
      queue.pending.filter chosen := by
  apply Multiset.ext.mpr
  intro entry
  rw [Multiset.count_filter, pending, pending, Multiset.count_sum',
    Multiset.count_sum']
  by_cases kept : chosen entry
  · rw [if_pos kept]
    apply Finset.sum_congr rfl
    intro position _
    simp [List.count_filter, kept]
  · rw [if_neg kept]
    apply Finset.sum_eq_zero
    intro position _
    simp [kept]

attribute [irreducible] pending

@[simp] theorem setBucket_buckets (queue : TimerQueue)
    (position : BucketIndex) (entries : List TimerEntry) :
    (queue.setBucket position entries).buckets =
      Function.update queue.buckets position entries := rfl

@[simp] theorem setBucket_currentTick (queue : TimerQueue)
    (position : BucketIndex) (entries : List TimerEntry) :
    (queue.setBucket position entries).currentTick = queue.currentTick := rfl

theorem mem_addEntry {queue : TimerQueue} {entry candidate : TimerEntry}
    {position : BucketIndex} :
    candidate ∈ (queue.addEntry entry).buckets position ↔
      candidate ∈ queue.buckets position ∨
        candidate = entry ∧
          position = bucketFor entry.expireTick queue.currentTick := by
  by_cases here : position = bucketFor entry.expireTick queue.currentTick
  · simp [addEntry, ← here]
  · simp [addEntry, here]

theorem pending_addEntry (queue : TimerQueue) (entry : TimerEntry) :
    (queue.addEntry entry).pending = entry ::ₘ queue.pending := by
  let position := bucketFor entry.expireTick queue.currentTick
  have exchanged := queue.pending_setBucket position
    (queue.buckets position ++ [entry])
  have balanced : (queue.addEntry entry).pending + queue.buckets position =
      (entry ::ₘ queue.pending) + queue.buckets position := by
    rw [← Multiset.singleton_add]
    refine Eq.trans exchanged ?_
    rw [← Multiset.coe_add, Multiset.coe_singleton]
    abel
  exact add_right_cancel balanced

/-- Taking the first entry of a bucket out. -/
theorem pending_setBucket_tail {queue : TimerQueue} {position : BucketIndex}
    {entry : TimerEntry} {rest : List TimerEntry}
    (content : queue.buckets position = entry :: rest) :
    entry ::ₘ (queue.setBucket position rest).pending = queue.pending := by
  have exchanged := queue.pending_setBucket position rest
  rw [content, ← Multiset.cons_coe, ← Multiset.singleton_add] at exchanged
  have balanced : (entry ::ₘ (queue.setBucket position rest).pending) +
      (rest : Multiset TimerEntry) = queue.pending + rest := by
    rw [← Multiset.singleton_add, ← exchanged]
    abel
  exact add_right_cancel balanced

/-- An entry of the bucket that goes back to it keeps the loop of
`move_bucket` going for any number of rounds. -/
theorem moveLoop_none
    {queue : TimerQueue} {position : BucketIndex} {entry : TimerEntry}
    (member : entry ∈ queue.buckets position)
    (returns : bucketFor entry.expireTick queue.currentTick = position)
    (rounds : Nat) : moveLoop rounds queue position = none := by
  induction rounds generalizing queue with
  | zero =>
      have nonempty : queue.buckets position ≠ [] :=
        List.ne_nil_of_mem member
      simp [moveLoop, nonempty]
  | succ rounds induction =>
      cases content : queue.buckets position with
      | nil =>
          rw [content] at member
          cases member
      | cons first rest =>
          simp only [moveLoop, content]
          apply induction
          · rw [content] at member
            by_cases back :
                bucketFor first.expireTick queue.currentTick = position
            · simp only [addEntry, setBucket_currentTick, back,
                setBucket_buckets, Function.update_self, List.mem_append,
                List.mem_singleton]
              rcases List.mem_cons.mp member with same | inRest
              · exact Or.inr same
              · exact Or.inl inRest
            · have other : entry ≠ first := by
                intro same
                exact back (same ▸ returns)
              have elsewhere : position ≠
                  bucketFor first.expireTick queue.currentTick :=
                Ne.symm back
              simp only [addEntry, setBucket_currentTick, setBucket_buckets,
                Function.update_of_ne elsewhere, Function.update_self]
              exact (List.mem_cons.mp member).resolve_left other
          · simpa [addEntry] using returns

/-- The buckets after every entry of one bucket has been added again. -/
def distribute (queue : TimerQueue) (position : BucketIndex)
    (entries : List TimerEntry) : BucketIndex → List TimerEntry :=
  fun other =>
    if other = position then []
    else queue.buckets other ++ entries.filter fun entry =>
      bucketFor entry.expireTick queue.currentTick = other

private theorem moveLoop_some
    {queue : TimerQueue} {position : BucketIndex} {entries : List TimerEntry}
    (content : queue.buckets position = entries)
    (leaves : ∀ entry ∈ entries,
      bucketFor entry.expireTick queue.currentTick ≠ position) :
    moveLoop entries.length queue position =
      some { queue with buckets := queue.distribute position entries } := by
  induction entries generalizing queue with
  | nil =>
      have unchanged : queue.distribute position [] = queue.buckets := by
        funext other
        by_cases same : other = position
        · simp [distribute, same, content]
        · simp [distribute, same]
      simp [moveLoop, content, unchanged]
  | cons entry rest induction =>
      have elsewhere :
          bucketFor entry.expireTick queue.currentTick ≠ position :=
        leaves entry List.mem_cons_self
      let next := (queue.setBucket position rest).addEntry entry
      have nextContent : next.buckets position = rest := by
        simp [next, addEntry, Function.update_of_ne elsewhere.symm]
      have nextLeaves : ∀ candidate ∈ rest,
          bucketFor candidate.expireTick next.currentTick ≠ position := by
        intro candidate member
        exact leaves candidate (List.mem_cons_of_mem _ member)
      have tail := induction nextContent nextLeaves
      have distributed : next.distribute position rest =
          queue.distribute position (entry :: rest) := by
        funext other
        by_cases same : other = position
        · simp [distribute, same]
        · by_cases target :
            bucketFor entry.expireTick queue.currentTick = other
          · subst target
            simp [distribute, same, next, addEntry, List.append_assoc]
          · have apart : other ≠
                bucketFor entry.expireTick queue.currentTick :=
              fun equality => target equality.symm
            simp [distribute, same, next, addEntry, target,
              Function.update_of_ne apart]
      simp only [List.length_cons, moveLoop, content]
      rw [tail, distributed]
      rfl

private theorem moveLoop_pending
    {rounds : Nat} {queue moved : TimerQueue} {position : BucketIndex}
    (ended : moveLoop rounds queue position = some moved) :
    moved.pending = queue.pending := by
  induction rounds generalizing queue with
  | zero =>
      simp only [moveLoop] at ended
      split at ended
      · cases ended
        rfl
      · cases ended
  | succ rounds induction =>
      cases content : queue.buckets position with
      | nil =>
          simp only [moveLoop, content, Option.some.injEq] at ended
          rw [ended]
      | cons entry rest =>
          simp only [moveLoop, content] at ended
          rw [induction ended, pending_addEntry,
            pending_setBucket_tail content]

/-- `move_bucket` goes on forever exactly when an entry of the bucket goes back
to it; no number of rounds helps then. -/
theorem moveBucket_none_iff (queue : TimerQueue) (position : BucketIndex) :
    queue.moveBucket position = none ↔
      ∃ entry ∈ queue.buckets position,
        bucketFor entry.expireTick queue.currentTick = position := by
  constructor
  · intro endless
    by_contra none
    have leaves : ∀ entry ∈ queue.buckets position,
        bucketFor entry.expireTick queue.currentTick ≠ position := by
      intro entry member same
      exact none ⟨entry, member, same⟩
    rw [moveBucket, moveLoop_some rfl leaves] at endless
    cases endless
  · rintro ⟨entry, member, same⟩
    exact moveLoop_none member same _

theorem moveBucket_some
    {queue moved : TimerQueue} {position : BucketIndex}
    (ended : queue.moveBucket position = some moved) :
    moved = { queue with
      buckets := queue.distribute position (queue.buckets position) } ∧
      (∀ entry ∈ queue.buckets position,
        bucketFor entry.expireTick queue.currentTick ≠ position) ∧
      moved.pending = queue.pending := by
  have leaves : ∀ entry ∈ queue.buckets position,
      bucketFor entry.expireTick queue.currentTick ≠ position := by
    intro entry member same
    have endless := (queue.moveBucket_none_iff position).mpr
      ⟨entry, member, same⟩
    rw [endless] at ended
    cases ended
  have distributed := @moveLoop_some queue position _ rfl leaves
  have conserved := moveLoop_pending ended
  rw [moveBucket, distributed, Option.some.injEq] at ended
  exact ⟨ended.symm, leaves, conserved⟩

theorem mem_distribute
    {queue : TimerQueue} {position other : BucketIndex}
    {entries : List TimerEntry} {entry : TimerEntry} :
    entry ∈ queue.distribute position entries other ↔
      other ≠ position ∧ (entry ∈ queue.buckets other ∨
        entry ∈ entries ∧
          bucketFor entry.expireTick queue.currentTick = other) := by
  unfold distribute
  by_cases same : other = position
  · simp [same]
  · simp [same]

end TimerQueue

end Crynet
