import Crynet.Timer.Wheel

/-!
# The placement invariant of the wheel

Every entry outside bucket zero of the top level sits in the seat of its
expire tick and has not expired.  The invariant holds in every state the queue
can reach, whatever the delays; one round of `poll_expired` hands out exactly
the entries that expire at the ticks it visits, apart from those left in
bucket zero of the top level, which no round ever touches.
-/

namespace Crynet

/-- The expire tick as a number. -/
abbrev TimerEntry.expire (entry : TimerEntry) : Nat :=
  entry.expireTick.toNat

namespace TimerQueue

/-- The current tick as a number. -/
abbrev tick (queue : TimerQueue) : Nat :=
  queue.currentTick.toNat

/-- The bucket no cascade visits. -/
abbrev idleBucket : BucketIndex := .level 3 0

structure WellPlaced (queue : TimerQueue) : Prop where
  idle : ∀ entry ∈ queue.buckets idleBucket, entry.expire / topSpan % 64 = 0
  seated : ∀ position, position ≠ idleBucket →
    ∀ entry ∈ queue.buckets position,
      queue.tick ≤ entry.expire ∧ position = seat entry.expire queue.tick

/-- Every entry outside the idle bucket expires later than now. -/
def Later (queue : TimerQueue) : Prop :=
  ∀ position, position ≠ idleBucket →
    ∀ entry ∈ queue.buckets position, queue.tick < entry.expire

/-- Entries of one bucket that expire together are in the order in which they
were scheduled. -/
def Ordered (queue : TimerQueue) : Prop :=
  ∀ position, (queue.buckets position).Pairwise fun first second =>
    first.expire = second.expire → first.serial < second.serial

theorem new_wellPlaced (now : TimePoint) : (new now).WellPlaced := by
  constructor
  · intro entry member
    cases member
  · intro position _ entry member
    cases member

namespace WellPlaced

/-- Removing entries keeps the invariant. -/
theorem of_subset {queue next : TimerQueue} (placed : queue.WellPlaced)
    (sameTick : next.currentTick = queue.currentTick)
    (fewer : ∀ position, next.buckets position ⊆ queue.buckets position) :
    next.WellPlaced := by
  constructor
  · intro entry member
    exact placed.idle entry (fewer _ member)
  · intro position elsewhere entry member
    rw [tick, sameTick]
    exact placed.seated position elsewhere entry (fewer _ member)

theorem addEntry {queue : TimerQueue} (placed : queue.WellPlaced)
    {entry : TimerEntry} (unexpired : queue.tick ≤ entry.expire) :
    (queue.addEntry entry).WellPlaced := by
  have target : bucketFor entry.expireTick queue.currentTick =
      seat entry.expire queue.tick := bucketFor_eq _ _
  constructor
  · intro candidate member
    rcases mem_addEntry.mp member with old | ⟨added, here⟩
    · exact placed.idle candidate old
    · rw [added]
      have idle := target.symm.trans here.symm
      exact ((seat_eq_idle_iff _ _).mp idle).2
  · intro position elsewhere candidate member
    rcases mem_addEntry.mp member with old | ⟨added, here⟩
    · exact placed.seated position elsewhere candidate old
    · rw [added]
      exact ⟨unexpired, here.trans target⟩

end WellPlaced

private theorem currentBucket_eq (queue : TimerQueue) :
    queue.currentBucket = .near (Fin.ofNat 256 queue.tick) := by
  rw [currentBucket, nearIndex_eq]

/-- What `collect_current_bucket` hands out expires at the current tick. -/
theorem expire_of_current {queue : TimerQueue} (placed : queue.WellPlaced)
    {entry : TimerEntry} (member : entry ∈ queue.buckets queue.currentBucket) :
    entry.expire = queue.tick := by
  have elsewhere : queue.currentBucket ≠ idleBucket := by
    simp [currentBucket]
  obtain ⟨_, here⟩ := placed.seated _ elsewhere entry member
  rw [currentBucket_eq] at here
  exact eq_of_seat_current here.symm

theorem collect_buckets (queue : TimerQueue) :
    queue.collectCurrentBucket.2.buckets =
      Function.update queue.buckets queue.currentBucket [] := rfl

@[simp] theorem collect_currentTick (queue : TimerQueue) :
    queue.collectCurrentBucket.2.currentTick = queue.currentTick := rfl

theorem collect_tick (queue : TimerQueue) :
    queue.collectCurrentBucket.2.tick = queue.tick := rfl

theorem collect_subset (queue : TimerQueue) (position : BucketIndex) :
    queue.collectCurrentBucket.2.buckets position ⊆
      queue.buckets position := by
  rw [collect_buckets]
  by_cases here : position = queue.currentBucket
  · subst here
    simp
  · simp [here]

theorem WellPlaced.collect {queue : TimerQueue} (placed : queue.WellPlaced) :
    queue.collectCurrentBucket.2.WellPlaced :=
  placed.of_subset rfl queue.collect_subset

theorem later_collect {queue : TimerQueue} (placed : queue.WellPlaced) :
    queue.collectCurrentBucket.2.Later := by
  intro position elsewhere entry member
  obtain ⟨unexpired, here⟩ :=
    placed.seated position elsewhere entry (queue.collect_subset _ member)
  rcases Nat.lt_or_eq_of_le unexpired with pending | due
  · exact pending
  · exfalso
    rw [← due, seat_self, ← currentBucket_eq] at here
    rw [here, collect_buckets, Function.update_self] at member
    cases member

theorem collect_entries (queue : TimerQueue) :
    queue.collectCurrentBucket.1.map Firing.entry =
      queue.buckets queue.currentBucket := by
  simp [collectCurrentBucket, List.map_map, Function.comp_def]

/-- Collecting moves the entries of the current bucket out of the queue. -/
theorem collect_pending (queue : TimerQueue) :
    queue.pending =
      (queue.collectCurrentBucket.1.map Firing.entry : Multiset TimerEntry) +
        queue.collectCurrentBucket.2.pending := by
  have exchanged := queue.pending_setBucket queue.currentBucket []
  have emptied : queue.collectCurrentBucket.2.pending =
      (queue.setBucket queue.currentBucket []).pending :=
    pending_congr queue.collect_buckets
  rw [Multiset.coe_nil, add_zero] at exchanged
  rw [collect_entries, emptied, add_comm]
  exact exchanged.symm

theorem collect_ticks {queue : TimerQueue} (placed : queue.WellPlaced)
    {firing : Firing} (member : firing ∈ queue.collectCurrentBucket.1) :
    firing.tick = queue.currentTick ∧ firing.entry.expire = queue.tick := by
  obtain ⟨entry, inBucket, rfl⟩ := List.mem_map.mp member
  exact ⟨rfl, expire_of_current placed inBucket⟩

/-- `advance_tick` is the cascade of the carried bucket, if there is one. -/
theorem advanceTick_cases {queue next : TimerQueue}
    (advanced : queue.advanceTick = some next) :
    (carryBucket (queue.currentTick + 1) = none ∧
      next = { queue with currentTick := queue.currentTick + 1 }) ∨
    ∃ position, carryBucket (queue.currentTick + 1) = some position ∧
      { queue with currentTick := queue.currentTick + 1 }.moveBucket
        position = some next := by
  unfold advanceTick at advanced
  cases carried : carryBucket (queue.currentTick + 1) with
  | none =>
      simp only [carried, Option.some.injEq] at advanced
      exact Or.inl ⟨rfl, advanced.symm⟩
  | some position =>
      simp only [carried] at advanced
      exact Or.inr ⟨position, rfl, advanced⟩

theorem advanceTick_none_iff (queue : TimerQueue) :
    queue.advanceTick = none ↔
      ∃ position, carryBucket (queue.currentTick + 1) = some position ∧
        ∃ entry ∈ queue.buckets position,
          bucketFor entry.expireTick (queue.currentTick + 1) = position := by
  unfold advanceTick
  cases carried : carryBucket (queue.currentTick + 1) with
  | none => simp only [carried, reduceCtorEq, false_and, exists_false]
  | some position =>
      simp only [carried, Option.some.injEq, exists_eq_left']
      exact moveBucket_none_iff _ position

theorem toNat_succ {word : UInt64} (small : word.toNat + 1 < 2 ^ 64) :
    (word + 1).toNat = word.toNat + 1 := by
  rw [UInt64.toNat_add]
  exact Nat.mod_eq_of_lt small

/-- The carried bucket of a positive tick is not the idle bucket. -/
theorem carried_ne_idle {current : Nat} {position : BucketIndex}
    (carried : carry (current + 1) = some position) :
    position ≠ idleBucket := by
  intro same
  rw [same] at carried
  obtain ⟨_, digit, indexed⟩ :=
    (carry_eq_level_iff (Nat.succ_ne_zero current)).mp carried
  apply digit
  have value := congrArg Fin.val indexed
  exact value.symm

end TimerQueue

end Crynet
