import Crynet.Timer.Invariant

/-!
# Sweeping the wheel forward

A sweep takes the queue from one tick to a later one and hands out entries on
the way.  Collecting a bucket and advancing a tick are sweeps, and sweeps
compose, so a round of `poll_expired` is one and the whole loop is one.  A
round has no result exactly when the top level comes around to the bucket of
an entry whose block lies a lap further on.
-/

namespace Crynet

namespace TimerQueue

/-- The order in which timers are handed out. -/
def Precedes (first second : TimerEntry) : Prop :=
  first.expire < second.expire ∨
    first.expire = second.expire ∧ first.serial < second.serial

/-- The stored size is the number of entries kept. -/
def Counted (queue : TimerQueue) : Prop :=
  queue.pendingSize = queue.pending.card

theorem Counted.of_eq {queue next : TimerQueue} (counted : queue.Counted)
    (sameSize : next.pendingSize = queue.pendingSize)
    (samePending : next.pending = queue.pending) : next.Counted := by
  rw [Counted, sameSize, samePending]
  exact counted

/-- What holds between the states before and after `rounds` ticks during which
`firings` were handed out. -/
structure Swept (queue : TimerQueue) (rounds : Nat) (firings : List Firing)
    (next : TimerQueue) : Prop where
  tick : next.tick = queue.tick + rounds
  placed : next.WellPlaced
  conserved : queue.pending =
    (firings.map Firing.entry : Multiset TimerEntry) + next.pending
  idle : next.buckets idleBucket = queue.buckets idleBucket
  due : ∀ firing ∈ firings, firing.entry.expireTick = firing.tick ∧
    queue.tick ≤ firing.tick.toNat ∧ firing.tick.toNat ≤ next.tick
  bucketsOrdered : queue.Ordered → next.Ordered
  firingsOrdered : queue.Ordered →
    (firings.map Firing.entry).Pairwise Precedes
  counted : queue.Counted → next.Counted
  sameTimerId : next.nextTimerId = queue.nextTimerId
  sameScheduled : next.scheduled = queue.scheduled

namespace Swept

theorem refl {queue : TimerQueue} (placed : queue.WellPlaced) :
    Swept queue 0 [] queue where
  tick := rfl
  placed := placed
  conserved := by simp
  idle := rfl
  due := by simp
  bucketsOrdered := id
  firingsOrdered := by simp
  counted := id
  sameTimerId := rfl
  sameScheduled := rfl

/-- Two sweeps in a row are one, when everything the first hands out is due
before anything the second does. -/
theorem trans
    {queue middle next : TimerQueue} {rounds more : Nat}
    {firings later : List Firing}
    (first : Swept queue rounds firings middle)
    (second : Swept middle more later next)
    (apart : ∀ early ∈ firings, ∀ late ∈ later,
      early.tick.toNat < late.tick.toNat) :
    Swept queue (rounds + more) (firings ++ later) next where
  tick := by
    rw [second.tick, first.tick, Nat.add_assoc]
  placed := second.placed
  conserved := by
    rw [first.conserved, second.conserved, List.map_append,
      ← Multiset.coe_add, add_assoc]
  idle := second.idle.trans first.idle
  due := by
    intro firing member
    have forward : queue.tick ≤ middle.tick := by
      rw [first.tick]
      exact Nat.le_add_right _ _
    have onward : middle.tick ≤ next.tick := by
      rw [second.tick]
      exact Nat.le_add_right _ _
    rcases List.mem_append.mp member with early | late
    · obtain ⟨same, lower, upper⟩ := first.due firing early
      exact ⟨same, lower, upper.trans onward⟩
    · obtain ⟨same, lower, upper⟩ := second.due firing late
      exact ⟨same, forward.trans lower, upper⟩
  bucketsOrdered := by
    intro ordered
    exact second.bucketsOrdered (first.bucketsOrdered ordered)
  firingsOrdered := by
    intro ordered
    rw [List.map_append]
    apply List.pairwise_append.mpr
    refine ⟨first.firingsOrdered ordered,
      second.firingsOrdered (first.bucketsOrdered ordered), ?_⟩
    intro entry entryMember other otherMember
    obtain ⟨early, earlyMember, rfl⟩ := List.mem_map.mp entryMember
    obtain ⟨late, lateMember, rfl⟩ := List.mem_map.mp otherMember
    have before := apart early earlyMember late lateMember
    left
    rw [TimerEntry.expire, TimerEntry.expire, (first.due early earlyMember).1,
      (second.due late lateMember).1]
    exact before
  counted := by
    intro counted
    exact second.counted (first.counted counted)
  sameTimerId := second.sameTimerId.trans first.sameTimerId
  sameScheduled := second.sameScheduled.trans first.sameScheduled

/-- The clock plays no part in a sweep. -/
theorem setPoint
    {queue next : TimerQueue} {rounds : Nat} {firings : List Firing}
    (sweep : Swept queue rounds firings next) (point : TimePoint) :
    Swept queue rounds firings { next with currentPoint := point } where
  tick := sweep.tick
  placed := sweep.placed.of_subset rfl fun _ _ member => member
  conserved := by
    rw [sweep.conserved]
    exact congrArg _ (Eq.symm (pending_congr rfl))
  idle := sweep.idle
  due := sweep.due
  bucketsOrdered := sweep.bucketsOrdered
  firingsOrdered := sweep.firingsOrdered
  counted := by
    intro counted
    exact (sweep.counted counted).of_eq rfl (pending_congr rfl)
  sameTimerId := sweep.sameTimerId
  sameScheduled := sweep.sameScheduled

end Swept

theorem Later.setPoint {queue : TimerQueue} (quiet : queue.Later)
    (point : TimePoint) : { queue with currentPoint := point }.Later := quiet

/-- Collecting the current bucket is a sweep of no ticks. -/
theorem collect_swept {queue : TimerQueue} (placed : queue.WellPlaced) :
    Swept queue 0 queue.collectCurrentBucket.1
      queue.collectCurrentBucket.2 where
  tick := rfl
  placed := placed.collect
  conserved := queue.collect_pending
  idle := by
    have elsewhere : idleBucket ≠ queue.currentBucket := by
      simp [currentBucket]
    rw [collect_buckets, Function.update_of_ne elsewhere]
  due := by
    intro firing member
    obtain ⟨now, expires⟩ := collect_ticks placed member
    have same : firing.entry.expireTick = firing.tick := by
      rw [now]
      exact UInt64.toNat_inj.mp expires
    rw [now]
    exact ⟨same.trans now, Nat.le_refl _, Nat.le_refl _⟩
  bucketsOrdered := by
    intro ordered position
    rw [collect_buckets]
    by_cases here : position = queue.currentBucket
    · rw [here, Function.update_self]
      exact List.Pairwise.nil
    · rw [Function.update_of_ne here]
      exact ordered position
  firingsOrdered := by
    intro ordered
    rw [collect_entries]
    apply List.Pairwise.imp_of_mem _ (ordered queue.currentBucket)
    intro first second firstMember secondMember increasing
    have together : first.expire = second.expire := by
      rw [expire_of_current placed firstMember,
        expire_of_current placed secondMember]
    exact Or.inr ⟨together, increasing together⟩
  counted := by
    intro counted
    have conserved := congrArg Multiset.card queue.collect_pending
    rw [Multiset.card_add, Multiset.coe_card, List.length_map] at conserved
    have fewer : queue.collectCurrentBucket.2.pendingSize =
        queue.pendingSize - queue.collectCurrentBucket.1.length := by
      simp [collectCurrentBucket]
    rw [Counted, fewer, counted, conserved]
    exact Nat.add_sub_cancel_left _ _
  sameTimerId := rfl
  sameScheduled := rfl

/-- A tick that cascades nothing moves no entry. -/
private theorem advance_still
    {queue : TimerQueue} (placed : queue.WellPlaced) (quiet : queue.Later)
    (small : queue.tick + 1 < 2 ^ 64)
    (carried : carry (queue.tick + 1) = none) :
    Swept queue 1 []
      { queue with currentTick := queue.currentTick + 1 } where
  tick := toNat_succ small
  placed := by
    constructor
    · exact placed.idle
    · intro position elsewhere entry member
      have pending := quiet position elsewhere entry member
      obtain ⟨_, here⟩ := placed.seated position elsewhere entry member
      simp only [tick, toNat_succ small]
      refine ⟨pending, ?_⟩
      rw [seat_stable pending (here ▸ elsewhere) (by simp [carried])]
      exact here
  conserved := by
    rw [List.map_nil, Multiset.coe_nil, zero_add]
    exact pending_congr rfl
  idle := rfl
  due := by simp
  bucketsOrdered := id
  firingsOrdered := by simp
  counted := by
    intro counted
    exact counted.of_eq rfl (pending_congr rfl)
  sameTimerId := rfl
  sameScheduled := rfl

/-- A tick that cascades a bucket seats its entries again. -/
private theorem advance_cascade
    {queue moved : TimerQueue} {position : BucketIndex}
    (placed : queue.WellPlaced) (quiet : queue.Later)
    (small : queue.tick + 1 < 2 ^ 64)
    (carried : carry (queue.tick + 1) = some position)
    (ended : { queue with currentTick := queue.currentTick + 1 }.moveBucket
      position = some moved) :
    Swept queue 1 [] moved := by
  have notIdle := carried_ne_idle carried
  obtain ⟨rfl, leaves, conserved⟩ := moveBucket_some ended
  have target : ∀ entry : TimerEntry,
      bucketFor entry.expireTick (queue.currentTick + 1) =
        seat entry.expire (queue.tick + 1) := by
    intro entry
    rw [bucketFor_eq, toNat_succ small]
  have staysOut : ∀ entry ∈ queue.buckets position,
      bucketFor entry.expireTick (queue.currentTick + 1) ≠ idleBucket := by
    intro entry member
    obtain ⟨_, here⟩ := placed.seated position notIdle entry member
    rw [target]
    exact seat_ne_idle (quiet position notIdle entry member) (here ▸ notIdle)
  have idle : distribute { queue with currentTick := queue.currentTick + 1 }
      position (queue.buckets position) idleBucket =
        queue.buckets idleBucket := by
    have none : (queue.buckets position).filter (fun entry =>
        bucketFor entry.expireTick (queue.currentTick + 1) = idleBucket) =
          [] := by
      apply List.filter_eq_nil_iff.mpr
      intro entry member
      simpa using staysOut entry member
    simp [distribute, Ne.symm notIdle, none]
  exact {
    tick := toNat_succ small
    placed := by
      constructor
      · intro entry member
        simp only [idle] at member
        exact placed.idle entry member
      · intro other elsewhere entry member
        obtain ⟨different, old | ⟨cascaded, here⟩⟩ := mem_distribute.mp member
        · have pending := quiet other elsewhere entry old
          obtain ⟨_, here⟩ := placed.seated other elsewhere entry old
          simp only [tick, toNat_succ small]
          refine ⟨pending, ?_⟩
          have kept : carry (queue.tick + 1) ≠
              some (seat entry.expire queue.tick) := by
            rw [carried, ← here]
            intro same
            exact different (Option.some.inj same).symm
          rw [seat_stable pending (here ▸ elsewhere) kept]
          exact here
        · simp only [tick, toNat_succ small]
          exact ⟨quiet position notIdle entry cascaded,
            here.symm.trans (target entry)⟩
    conserved := by
      rw [conserved, List.map_nil, Multiset.coe_nil, zero_add]
      exact pending_congr rfl
    idle := idle
    due := by simp
    bucketsOrdered := by
      intro ordered other
      show (distribute _ position (queue.buckets position) other).Pairwise _
      unfold distribute
      by_cases same : other = position
      · rw [if_pos same]
        exact List.Pairwise.nil
      · rw [if_neg same]
        apply List.pairwise_append.mpr
        refine ⟨ordered other, (ordered position).filter _, ?_⟩
        intro old oldMember cascaded cascadedMember together
        exfalso
        obtain ⟨inPosition, here⟩ := List.mem_filter.mp cascadedMember
        have moves := of_decide_eq_true here
        by_cases resting : other = idleBucket
        · exact staysOut cascaded inPosition (moves.trans resting)
        · obtain ⟨_, oldSeat⟩ := placed.seated other resting old oldMember
          obtain ⟨_, newSeat⟩ :=
            placed.seated position notIdle cascaded inPosition
          apply same
          rw [oldSeat, newSeat, together]
    firingsOrdered := by simp
    counted := by
      intro counted
      exact counted.of_eq rfl (conserved.trans (pending_congr rfl))
    sameTimerId := rfl
    sameScheduled := rfl }

/-- Advancing a tick is a sweep that hands out nothing. -/
theorem advance_swept
    {queue next : TimerQueue} (placed : queue.WellPlaced)
    (quiet : queue.Later) (small : queue.tick + 1 < 2 ^ 64)
    (advanced : queue.advanceTick = some next) : Swept queue 1 [] next := by
  have carryEq : carryBucket (queue.currentTick + 1) =
      carry (queue.tick + 1) := by
    rw [carryBucket_eq, toNat_succ small]
  rcases advanceTick_cases advanced with ⟨still, rfl⟩ | ⟨position, found, ended⟩
  · exact advance_still placed quiet small (carryEq ▸ still)
  · exact advance_cascade placed quiet small (carryEq ▸ found) ended

private theorem pollRound_cases
    {queue next : TimerQueue} {firings : List Firing}
    (polled : queue.pollRound = some (firings, next)) :
    ∃ advanced,
      queue.collectCurrentBucket.2.advanceTick = some advanced ∧
      firings = queue.collectCurrentBucket.1 ++
        advanced.collectCurrentBucket.1 ∧
      next = advanced.collectCurrentBucket.2 := by
  unfold pollRound at polled
  cases advanced : queue.collectCurrentBucket.2.advanceTick with
  | none => simp [advanced] at polled
  | some middle =>
      simp only [advanced, Option.some.injEq, Prod.mk.injEq] at polled
      exact ⟨middle, rfl, polled.1.symm, polled.2.symm⟩

/-- One round of `poll_expired` is a sweep of one tick. -/
theorem pollRound_swept
    {queue next : TimerQueue} {firings : List Firing}
    (placed : queue.WellPlaced) (small : queue.tick + 1 < 2 ^ 64)
    (polled : queue.pollRound = some (firings, next)) :
    Swept queue 1 firings next ∧ next.Later := by
  obtain ⟨advanced, stepped, rfl, rfl⟩ := pollRound_cases polled
  have drained := collect_swept placed
  have moved := advance_swept drained.placed (later_collect placed) small
    stepped
  have collected := collect_swept moved.placed
  have halfway := drained.trans moved (by simp)
  rw [List.append_nil] at halfway
  have whole := halfway.trans collected (by
    intro early earlyMember late lateMember
    have lower := (drained.due early earlyMember).2.2
    have upper := (collected.due late lateMember).2.1
    have passed := moved.tick
    omega)
  exact ⟨whole, later_collect moved.placed⟩

/-- A round that starts without expired entries hands out later ones only. -/
theorem pollRound_fresh
    {queue next : TimerQueue} {firings : List Firing}
    (placed : queue.WellPlaced) (quiet : queue.Later)
    (small : queue.tick + 1 < 2 ^ 64)
    (polled : queue.pollRound = some (firings, next))
    {firing : Firing} (member : firing ∈ firings) :
    queue.tick < firing.tick.toNat := by
  obtain ⟨advanced, stepped, rfl, rfl⟩ := pollRound_cases polled
  rcases List.mem_append.mp member with early | late
  · exfalso
    obtain ⟨entry, inBucket, rfl⟩ := List.mem_map.mp early
    have now := expire_of_current placed inBucket
    have pending := quiet queue.currentBucket (by simp [currentBucket]) entry
      inBucket
    omega
  · have moved := advance_swept placed.collect (later_collect placed) small
      stepped
    have lower := ((collect_swept moved.placed).due firing late).2.1
    have passed := moved.tick
    have sameTick : queue.collectCurrentBucket.2.tick = queue.tick := rfl
    omega

private theorem advanceTick_currentPoint {queue next : TimerQueue}
    (advanced : queue.advanceTick = some next) :
    next.currentPoint = queue.currentPoint := by
  rcases advanceTick_cases advanced with ⟨_, rfl⟩ | ⟨position, _, ended⟩
  · rfl
  · obtain ⟨rfl, _, _⟩ := moveBucket_some ended
    rfl

private theorem pollLoop_succ
    {rounds : Nat} {queue final : TimerQueue} {firings : List Firing}
    (polled : pollLoop (rounds + 1) queue = some (firings, final)) :
    ∃ early next later, queue.pollRound = some (early, next) ∧
      pollLoop rounds next = some (later, final) ∧
      firings = early ++ later := by
  simp only [pollLoop] at polled
  cases first : queue.pollRound with
  | none => simp [first] at polled
  | some step =>
      obtain ⟨early, next⟩ := step
      simp only [first] at polled
      cases rest : pollLoop rounds next with
      | none => simp [rest] at polled
      | some step =>
          obtain ⟨later, last⟩ := step
          simp only [rest, Option.some.injEq, Prod.mk.injEq] at polled
          obtain ⟨rfl, rfl⟩ := polled
          exact ⟨early, next, later, rfl, rest, rfl⟩

/-- The loop of `poll_expired` leaves the clock alone. -/
theorem pollLoop_currentPoint
    {rounds : Nat} {queue final : TimerQueue} {firings : List Firing}
    (polled : pollLoop rounds queue = some (firings, final)) :
    final.currentPoint = queue.currentPoint := by
  induction rounds generalizing queue firings with
  | zero =>
      simp only [pollLoop, Option.some.injEq, Prod.mk.injEq] at polled
      rw [polled.2]
  | succ rounds induction =>
      obtain ⟨early, next, later, first, rest, _⟩ := pollLoop_succ polled
      obtain ⟨advanced, stepped, _, rfl⟩ := pollRound_cases first
      refine (induction rest).trans ?_
      show advanced.currentPoint = queue.collectCurrentBucket.2.currentPoint
      exact advanceTick_currentPoint stepped

/-- The loop of `poll_expired` is a sweep; from a state without expired entries
it hands out later ones only. -/
theorem pollLoop_swept
    {rounds : Nat} {queue final : TimerQueue} {firings : List Firing}
    (placed : queue.WellPlaced) (small : queue.tick + rounds < 2 ^ 64)
    (polled : pollLoop rounds queue = some (firings, final)) :
    Swept queue rounds firings final ∧ (0 < rounds → final.Later) ∧
      (queue.Later → ∀ firing ∈ firings, queue.tick < firing.tick.toNat) := by
  induction rounds generalizing queue firings with
  | zero =>
      simp only [pollLoop, Option.some.injEq, Prod.mk.injEq] at polled
      obtain ⟨rfl, rfl⟩ := polled
      exact ⟨Swept.refl placed, by simp, by simp⟩
  | succ rounds induction =>
      obtain ⟨early, next, later, first, rest, rfl⟩ := pollLoop_succ polled
      have room : queue.tick + 1 < 2 ^ 64 := by omega
      obtain ⟨sweep, quiet⟩ := pollRound_swept placed room first
      have reached := sweep.tick
      obtain ⟨onward, ends, fresh⟩ :=
        induction sweep.placed (by omega) rest
      have apart : ∀ before ∈ early, ∀ after ∈ later,
          before.tick.toNat < after.tick.toNat := by
        intro before beforeMember after afterMember
        have upper := (sweep.due before beforeMember).2.2
        have lower := fresh quiet after afterMember
        omega
      refine ⟨?_, ?_, ?_⟩
      · rw [Nat.add_comm rounds 1]
        exact sweep.trans onward apart
      · intro _
        by_cases more : 0 < rounds
        · exact ends more
        · have none : rounds = 0 := by omega
          subst none
          simp only [pollLoop, Option.some.injEq, Prod.mk.injEq] at rest
          rw [← rest.2]
          exact quiet
      · intro start firing member
        rcases List.mem_append.mp member with before | after
        · exact pollRound_fresh placed start room first before
        · have lower := (onward.due firing after).2.1
          omega

/-- The cursor of the top level stands at the entry's bucket, but the entry's
block lies at least a lap further on. -/
def Overtakes (current : Nat) (entry : TimerEntry) : Prop :=
  current % topSpan = 0 ∧ current / topSpan % 64 ≠ 0 ∧
    entry.expire / topSpan % 64 = current / topSpan % 64 ∧
    current / topSpan < entry.expire / topSpan

private theorem not_overtakes_of_idle
    {queue : TimerQueue} (placed : queue.WellPlaced) {entry : TimerEntry}
    (member : entry ∈ queue.buckets idleBucket) (current : Nat) :
    ¬Overtakes current entry := by
  rintro ⟨_, digit, same, _⟩
  exact digit (same.symm.trans (placed.idle entry member))

/-- Where an overtaken entry sits just before. -/
private theorem seat_of_overtakes {entry : TimerEntry} {current : Nat}
    (overtaken : Overtakes (current + 1) entry) :
    seat entry.expire current =
      .level 3 (Fin.ofNat 64 ((current + 1) / topSpan)) := by
  obtain ⟨_, _, same, ahead⟩ := overtaken
  apply seat_eq_level_iff.mpr
  refine ⟨?_, Or.inl rfl, ?_⟩
  · have span : levelSpan 3 = topSpan := rfl
    have lower : current / topSpan ≤ (current + 1) / topSpan :=
      Nat.div_le_div_right (Nat.le_succ current)
    rw [span]
    omega
  · apply Fin.ext
    exact same.symm

theorem pollRound_none_iff_advance (queue : TimerQueue) :
    queue.pollRound = none ↔
      queue.collectCurrentBucket.2.advanceTick = none := by
  unfold pollRound
  cases advanced : queue.collectCurrentBucket.2.advanceTick with
  | none => simp only [advanced]
  | some middle => simp only [advanced, reduceCtorEq]

/-- A round has no result exactly when it reaches a tick that overtakes a
pending entry. -/
theorem pollRound_none_iff
    {queue : TimerQueue} (placed : queue.WellPlaced)
    (small : queue.tick + 1 < 2 ^ 64) :
    queue.pollRound = none ↔
      ∃ entry ∈ queue.pending, Overtakes (queue.tick + 1) entry := by
  have carryEq : carryBucket (queue.currentTick + 1) =
      carry (queue.tick + 1) := by
    rw [carryBucket_eq, toNat_succ small]
  have target : ∀ entry : TimerEntry,
      bucketFor entry.expireTick (queue.currentTick + 1) =
        seat entry.expire (queue.tick + 1) := by
    intro entry
    rw [bucketFor_eq, toNat_succ small]
  rw [pollRound_none_iff_advance, advanceTick_none_iff]
  simp only [collect_currentTick, carryEq, target]
  constructor
  · rintro ⟨position, carried, entry, member, returned⟩
    have notIdle := carried_ne_idle carried
    have pending := later_collect placed position notIdle entry member
    obtain ⟨_, here⟩ := placed.collect.seated position notIdle entry member
    rw [here] at carried returned
    obtain ⟨index, top⟩ := top_of_returned pending carried returned
    have elsewhere := (seat_cascaded pending carried).mp returned
    obtain ⟨_, _, indexed⟩ := seat_eq_level_iff.mp top
    rw [collect_tick] at top carried pending elsewhere
    rw [top] at carried
    obtain ⟨aligned, digit, reached⟩ :=
      (carry_eq_level_iff (Nat.succ_ne_zero _)).mp carried
    have sameDigit := congrArg Fin.val (indexed.symm.trans reached)
    have notBehind : (queue.tick + 1) / topSpan ≤ entry.expire / topSpan :=
      Nat.div_le_div_right pending
    refine ⟨entry, mem_pending.mpr ⟨position, queue.collect_subset _ member⟩,
      aligned, digit, sameDigit, ?_⟩
    omega
  · rintro ⟨entry, member, overtaken⟩
    have seated := seat_of_overtakes overtaken
    obtain ⟨aligned, digit, same, ahead⟩ := overtaken
    have pending : queue.tick < entry.expire := by
      by_contra expired
      have lower : entry.expire / topSpan ≤ (queue.tick + 1) / topSpan :=
        Nat.div_le_div_right (by omega)
      omega
    have carried : carry (queue.tick + 1) =
        some (seat entry.expire queue.tick) := by
      rw [seated]
      exact (carry_eq_level_iff (Nat.succ_ne_zero _)).mpr
        ⟨aligned, digit, rfl⟩
    obtain ⟨position, inBucket⟩ := mem_pending.mp member
    have notIdle : position ≠ idleBucket := by
      intro idle
      rw [idle] at inBucket
      exact not_overtakes_of_idle placed inBucket _
        ⟨aligned, digit, same, ahead⟩
    obtain ⟨_, here⟩ := placed.seated position notIdle entry inBucket
    have kept : entry ∈ queue.collectCurrentBucket.2.buckets position := by
      have elsewhere : position ≠ queue.currentBucket := by
        rw [here, seated]
        simp [currentBucket]
      rw [collect_buckets, Function.update_of_ne elsewhere]
      exact inBucket
    have returned := (seat_cascaded pending carried).mpr
      (Nat.ne_of_gt ahead)
    exact ⟨position, here ▸ carried, entry, kept, returned.trans here.symm⟩

/-- The loop of `poll_expired` has no result exactly when one of the ticks it
reaches overtakes a pending entry. -/
theorem pollLoop_none_iff
    {rounds : Nat} {queue : TimerQueue} (placed : queue.WellPlaced)
    (small : queue.tick + rounds < 2 ^ 64) :
    pollLoop rounds queue = none ↔
      ∃ entry ∈ queue.pending, ∃ current, queue.tick < current ∧
        current ≤ queue.tick + rounds ∧ Overtakes current entry := by
  induction rounds generalizing queue with
  | zero =>
      simp only [pollLoop, reduceCtorEq, false_iff]
      rintro ⟨_, _, current, after, before, _⟩
      omega
  | succ rounds induction =>
      have room : queue.tick + 1 < 2 ^ 64 := by omega
      have ends := pollRound_none_iff placed room
      cases first : queue.pollRound with
      | none =>
          obtain ⟨entry, member, overtaken⟩ := ends.mp first
          simp only [pollLoop, first, true_iff]
          exact ⟨entry, member, queue.tick + 1, by omega, by omega, overtaken⟩
      | some step =>
          obtain ⟨early, next⟩ := step
          obtain ⟨sweep, _⟩ := pollRound_swept placed room first
          have reached := sweep.tick
          have spared : ∀ entry ∈ queue.pending,
              ¬Overtakes (queue.tick + 1) entry := by
            intro entry member overtaken
            have stuck := ends.mpr ⟨entry, member, overtaken⟩
            rw [first] at stuck
            cases stuck
          have rest : pollLoop (rounds + 1) queue = none ↔
              pollLoop rounds next = none := by
            simp only [pollLoop, first]
            cases pollLoop rounds next with
            | none => simp
            | some step => simp
          rw [rest, induction sweep.placed (by omega)]
          constructor
          · rintro ⟨entry, member, current, after, before, overtaken⟩
            have kept : entry ∈ queue.pending := by
              rw [sweep.conserved]
              exact Multiset.mem_add.mpr (Or.inr member)
            exact ⟨entry, kept, current, by omega, by omega, overtaken⟩
          · rintro ⟨entry, member, current, after, before, overtaken⟩
            have later : queue.tick + 1 < current := by
              rcases Nat.lt_or_eq_of_le after with further | now
              · exact further
              · exfalso
                rw [← now] at overtaken
                exact spared entry member overtaken
            rw [sweep.conserved] at member
            rcases Multiset.mem_add.mp member with fired | kept
            · exfalso
              obtain ⟨firing, inFirings, rfl⟩ :=
                List.mem_map.mp (Multiset.mem_coe.mp fired)
              obtain ⟨same, _, upper⟩ := sweep.due firing inFirings
              have expires : firing.entry.expire ≤ queue.tick + 1 := by
                rw [TimerEntry.expire, same]
                omega
              have behind : firing.entry.expire / topSpan ≤
                  current / topSpan :=
                Nat.div_le_div_right (by omega)
              have ahead := overtaken.2.2.2
              omega
            · exact ⟨entry, kept, current, by omega, by omega, overtaken⟩

end TimerQueue

end Crynet
