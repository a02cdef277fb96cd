import Crynet.Timer.Sweep

/-!
# What each operation of the timer queue does

One lemma for each public operation, in terms of the multiset of pending
entries, and the invariant that all of them keep: besides the placement of the
entries it says how they are numbered and how the tick follows the clock.
-/

namespace Crynet

namespace TimerQueue

/-- What holds of a queue constructed at `start`, after any operations. -/
structure Sound (start : TimePoint) (queue : TimerQueue) : Prop where
  placed : queue.WellPlaced
  ordered : queue.Ordered
  counted : queue.Counted
  distinct : (queue.pending.map TimerEntry.serial).Nodup
  numbered : ∀ entry ∈ queue.pending, entry.serial < queue.scheduled ∧
    entry.timerId = UInt64.ofNat (entry.serial + 1)
  nextNumber : queue.nextTimerId = UInt64.ofNat (queue.scheduled + 1)
  clocked : queue.currentPoint.toInt =
    start.toInt + queue.tick * nanosecondsPerMillisecond

theorem pending_new (now : TimePoint) : (new now).pending = 0 := by
  apply Multiset.eq_zero_of_forall_notMem
  intro entry member
  obtain ⟨position, inBucket⟩ := mem_pending.mp member
  cases inBucket

theorem new_sound (now : TimePoint) : Sound now (new now) where
  placed := new_wellPlaced now
  ordered := fun _ => List.Pairwise.nil
  counted := by
    rw [Counted, pending_new]
    rfl
  distinct := by simp [pending_new]
  numbered := by simp [pending_new]
  nextNumber := rfl
  clocked := by
    simp [new, tick]

namespace Sound

variable {start : TimePoint} {queue : TimerQueue}

/-- The clock bounds the tick: time points have 64 bits. -/
theorem tick_lt (sound : Sound start queue) :
    queue.tick * 1000000 < 2 ^ 64 := by
  have clocked := sound.clocked
  have upper := queue.currentPoint.toInt_lt
  have lower := start.le_toInt
  simp only [nanosecondsPerMillisecond] at clocked
  omega

end Sound

private theorem delayTicks_toNat (delay : Int64) :
    (delayTicks delay).toNat = delay.toInt.toNat := by
  unfold delayTicks
  by_cases negative : delay ≤ 0
  · rw [if_pos negative]
    have sign := Int64.le_iff_toInt_le.mp negative
    rw [Int64.toInt_zero] at sign
    rw [Int.toNat_of_nonpos sign]
    rfl
  · rw [if_neg negative]
    have positive : 0 ≤ delay :=
      Int64.le_of_lt (Int64.not_le.mp negative)
    rw [Int64.toNat_toUInt64_of_le positive, Int64.toNat_toInt]

section ScheduleAfter

variable (queue : TimerQueue) (targetHandle : ServiceHandle)
variable (sessionId : SessionId) (delay : Int64) (payloadText : Text)

/-- The sum of tick and delay does not wrap. -/
theorem newEntry_expire (small : queue.tick < 2 ^ 63) :
    (queue.newEntry targetHandle sessionId delay payloadText).expire =
      queue.tick + delay.toInt.toNat := by
  have bound := Int64.toInt_lt delay
  have room : queue.currentTick.toNat < 2 ^ 63 := small
  show (queue.currentTick + delayTicks delay).toNat = _
  rw [UInt64.toNat_add, delayTicks_toNat]
  apply Nat.mod_eq_of_lt
  omega

private theorem scheduleAfter_buckets :
    (queue.scheduleAfter targetHandle sessionId delay payloadText).2.buckets =
      (queue.addEntry
        (queue.newEntry targetHandle sessionId delay payloadText)).buckets :=
  rfl

theorem scheduleAfter_pending :
    (queue.scheduleAfter targetHandle sessionId delay payloadText).2.pending =
      queue.newEntry targetHandle sessionId delay payloadText ::ₘ
        queue.pending := by
  rw [← pending_addEntry]
  exact pending_congr rfl

theorem scheduleAfter_sound {start : TimePoint} {queue : TimerQueue}
    (sound : Sound start queue) :
    Sound start
      (queue.scheduleAfter targetHandle sessionId delay payloadText).2 := by
  let entry := queue.newEntry targetHandle sessionId delay payloadText
  have bound := sound.tick_lt
  have expires : entry.expire = queue.tick + delay.toInt.toNat :=
    queue.newEntry_expire _ _ _ _ (by omega)
  have added :=
    queue.scheduleAfter_pending targetHandle sessionId delay payloadText
  have buckets :=
    queue.scheduleAfter_buckets targetHandle sessionId delay payloadText
  have unused : entry.serial ∉ queue.pending.map TimerEntry.serial := by
    intro member
    obtain ⟨other, otherMember, same⟩ := Multiset.mem_map.mp member
    have below := (sound.numbered other otherMember).1
    rw [same] at below
    exact Nat.lt_irrefl _ below
  exact {
    placed := by
      have unexpired : queue.tick ≤ entry.expire := by
        rw [expires]
        exact Nat.le_add_right _ _
      have placed := sound.placed.addEntry unexpired
      exact placed.of_subset rfl fun _ _ member => member
    ordered := by
      intro position
      rw [buckets]
      show ((queue.addEntry entry).buckets position).Pairwise _
      simp only [addEntry, setBucket_buckets]
      by_cases here : position =
          bucketFor entry.expireTick queue.currentTick
      · rw [here, Function.update_self]
        apply List.pairwise_append.mpr
        refine ⟨sound.ordered _, List.pairwise_singleton _ _, ?_⟩
        intro old oldMember last lastMember _
        rw [List.mem_singleton.mp lastMember]
        exact (sound.numbered old (mem_pending.mpr ⟨_, oldMember⟩)).1
      · rw [Function.update_of_ne here]
        exact sound.ordered position
    counted := by
      rw [Counted, added, Multiset.card_cons, ← sound.counted]
      rfl
    distinct := by
      rw [added, Multiset.map_cons]
      exact Multiset.nodup_cons.mpr ⟨unused, sound.distinct⟩
    numbered := by
      intro candidate member
      show candidate.serial < queue.scheduled + 1 ∧ _
      rw [added] at member
      rcases Multiset.mem_cons.mp member with same | old
      · rw [same]
        exact ⟨Nat.lt_succ_self _, sound.nextNumber⟩
      · obtain ⟨below, named⟩ := sound.numbered candidate old
        exact ⟨Nat.lt_succ_of_lt below, named⟩
    nextNumber := by
      show queue.nextTimerId + 1 = UInt64.ofNat (queue.scheduled + 1 + 1)
      rw [sound.nextNumber, UInt64.ofNat_add (queue.scheduled + 1) 1]
      rfl
    clocked := sound.clocked }

end ScheduleAfter

/-- Removing entries keeps the invariant. -/
theorem Sound.of_removed
    {start : TimePoint} {queue next : TimerQueue} {removed : Multiset TimerEntry}
    (sound : Sound start queue)
    (conserved : queue.pending = removed + next.pending)
    (fewer : ∀ position,
      (next.buckets position).Sublist (queue.buckets position))
    (counted : next.Counted)
    (sameTick : next.currentTick = queue.currentTick)
    (sameNext : next.nextTimerId = queue.nextTimerId)
    (sameScheduled : next.scheduled = queue.scheduled)
    (samePoint : next.currentPoint = queue.currentPoint) :
    Sound start next where
  placed := sound.placed.of_subset sameTick fun position =>
    (fewer position).subset
  ordered := fun position => (sound.ordered position).sublist (fewer position)
  counted := counted
  distinct := by
    have distinct := sound.distinct
    rw [conserved, Multiset.map_add] at distinct
    exact (Multiset.nodup_add.mp distinct).2.1
  numbered := by
    intro entry member
    rw [sameScheduled]
    apply sound.numbered entry
    rw [conserved]
    exact Multiset.mem_add.mpr (Or.inr member)
  nextNumber := by rw [sameNext, sameScheduled, sound.nextNumber]
  clocked := by
    rw [samePoint, tick, sameTick]
    exact sound.clocked

theorem cancel_false
    {queue next : TimerQueue} {timerId : TimerId}
    (cancelled : queue.cancel timerId = (false, next)) :
    next = queue ∧ ∀ entry ∈ queue.pending, entry.timerId ≠ timerId := by
  unfold cancel removeByTimerId at cancelled
  cases search : BucketIndex.all.find? fun position =>
      (queue.buckets position).any fun entry => entry.timerId == timerId with
  | none =>
      simp only [search, Prod.mk.injEq, true_and] at cancelled
      refine ⟨cancelled.symm, ?_⟩
      intro entry member same
      obtain ⟨position, inBucket⟩ := mem_pending.mp member
      have absent := List.find?_eq_none.mp search position
        (BucketIndex.mem_all position)
      apply absent
      apply List.any_eq_true.mpr
      exact ⟨entry, inBucket, beq_iff_eq.mpr same⟩
  | some position => simp [search] at cancelled

/-- A cancellation that succeeds takes one entry with the identifier out. -/
theorem cancel_true
    {queue next : TimerQueue} {timerId : TimerId}
    (cancelled : queue.cancel timerId = (true, next)) :
    ∃ entry, entry.timerId = timerId ∧
      queue.pending = entry ::ₘ next.pending ∧
      (∀ position,
        (next.buckets position).Sublist (queue.buckets position)) ∧
      (∀ position, ∀ other ∈ queue.buckets position,
        other ∈ next.buckets position ∨ other.timerId = timerId) ∧
      next = { queue with
        pendingSize := queue.pendingSize - 1, buckets := next.buckets } := by
  unfold cancel removeByTimerId at cancelled
  cases search : BucketIndex.all.find? fun position =>
      (queue.buckets position).any fun entry => entry.timerId == timerId with
  | none => simp [search] at cancelled
  | some position =>
      have found := List.find?_some search
      obtain ⟨witness, inBucket, named⟩ := List.any_eq_true.mp found
      obtain ⟨entry, before, after, _, sameId, split, erased⟩ :=
        @List.exists_of_eraseP _ (fun entry => entry.timerId == timerId) _ _
          inBucket named
      simp only [search, Prod.mk.injEq, true_and] at cancelled
      subst cancelled
      refine ⟨entry, beq_iff_eq.mp sameId, ?_, ?_, ?_, rfl⟩
      · have exchanged := queue.pending_setBucket position
          ((queue.buckets position).eraseP fun entry =>
            entry.timerId == timerId)
        have taken : (queue.buckets position : Multiset TimerEntry) =
            entry ::ₘ ((queue.buckets position).eraseP fun entry =>
              entry.timerId == timerId : Multiset TimerEntry) := by
          rw [erased, split, Multiset.cons_coe]
          exact Multiset.coe_eq_coe.mpr List.perm_middle
        rw [taken, Multiset.add_cons] at exchanged
        have balanced := exchanged.symm
        rw [← Multiset.cons_add] at balanced
        refine (add_right_cancel balanced).trans ?_
        exact congrArg (entry ::ₘ ·) (pending_congr rfl)
      · intro other
        show List.Sublist (Function.update queue.buckets position _ other) _
        by_cases here : other = position
        · subst here
          rw [Function.update_self]
          exact List.eraseP_sublist
        · rw [Function.update_of_ne here]
      · intro other kept member
        show kept ∈ Function.update queue.buckets position _ other ∨ _
        by_cases here : other = position
        · subst here
          rw [Function.update_self]
          by_cases asked : kept.timerId = timerId
          · exact Or.inr asked
          · left
            apply (List.mem_eraseP_of_neg _).mpr member
            simpa using asked
        · rw [Function.update_of_ne here]
          exact Or.inl member

theorem cancel_sound
    {start : TimePoint} {queue : TimerQueue} (sound : Sound start queue)
    (timerId : TimerId) : Sound start (queue.cancel timerId).2 := by
  cases cancelled : queue.cancel timerId with
  | mk found next =>
      cases found with
      | false =>
          rw [(cancel_false cancelled).1]
          exact sound
      | true =>
          obtain ⟨entry, _, conserved, fewer, _, shape⟩ :=
            cancel_true cancelled
          have conserved' : queue.pending = {entry} + next.pending := by
            rw [Multiset.singleton_add]
            exact conserved
          apply sound.of_removed conserved' fewer
          · have size := sound.counted
            rw [Counted, conserved, Multiset.card_cons] at size
            rw [Counted, shape]
            show queue.pendingSize - 1 = _
            rw [size]
            exact congrArg Multiset.card (pending_congr (by rfl))
          all_goals rw [shape]

theorem cancelForTarget_removed
    (queue : TimerQueue) (targetHandle : ServiceHandle) :
    (queue.cancelForTarget targetHandle).1 =
      queue.pending.countP fun entry => entry.targetHandle = targetHandle := by
  rw [← pending_countP]
  simp only [cancelForTarget, removeByTarget]
  apply congrArg List.sum
  apply List.map_congr_left
  intro position _
  apply List.countP_congr
  intro entry _
  rw [beq_iff_eq, decide_eq_true_iff]

theorem cancelForTarget_pending
    (queue : TimerQueue) (targetHandle : ServiceHandle) :
    (queue.cancelForTarget targetHandle).2.pending =
      queue.pending.filter fun entry => entry.targetHandle ≠ targetHandle := by
  refine Eq.trans ?_ (queue.pending_filter _)
  apply pending_congr
  funext position
  apply List.filter_congr
  intro entry _
  rw [Bool.eq_iff_iff, bne_iff_ne, decide_eq_true_iff]

theorem cancelForTarget_sound
    {start : TimePoint} {queue : TimerQueue} (sound : Sound start queue)
    (targetHandle : ServiceHandle) :
    Sound start (queue.cancelForTarget targetHandle).2 := by
  have kept := queue.cancelForTarget_pending targetHandle
  have split := Multiset.filter_add_not
    (fun entry : TimerEntry => entry.targetHandle = targetHandle)
    queue.pending
  have conserved : queue.pending =
      queue.pending.filter (fun entry => entry.targetHandle = targetHandle) +
        (queue.cancelForTarget targetHandle).2.pending := by
    rw [kept]
    exact split.symm
  apply sound.of_removed conserved
  · intro position
    exact List.filter_sublist
  · have size : (queue.cancelForTarget targetHandle).2.pendingSize =
        queue.pendingSize - (queue.cancelForTarget targetHandle).1 := rfl
    have total := sound.counted
    rw [Counted, conserved, Multiset.card_add] at total
    rw [Counted, size, total, cancelForTarget_removed,
      Multiset.countP_eq_card_filter]
    exact Nat.add_sub_cancel_left _ _
  all_goals simp only [cancelForTarget, removeByTarget]

/-- Truncated division rounds down here: a clock that is behind counts as
zero. -/
theorem elapsed_eq (queue : TimerQueue) (now : TimePoint) :
    queue.elapsed now =
      ((now.toInt - queue.currentPoint.toInt) / 1000000).toNat := by
  unfold elapsed
  by_cases behind : now ≤ queue.currentPoint
  · rw [if_pos behind]
    have order := Int64.le_iff_toInt_le.mp behind
    omega
  · rw [if_neg behind]
    have order := Int64.lt_iff_toInt_lt.mp (Int64.not_le.mp behind)
    have positive : 0 ≤ now.toInt - queue.currentPoint.toInt := by omega
    rw [Int.tdiv_eq_ediv_of_nonneg positive]
    rfl

theorem elapsed_le (queue : TimerQueue) (now : TimePoint) :
    queue.elapsed now = 0 ∨
      queue.currentPoint.toInt +
        queue.elapsed now * nanosecondsPerMillisecond ≤ now.toInt := by
  rw [elapsed_eq]
  simp only [nanosecondsPerMillisecond]
  omega

private theorem pollFirings_cases
    {now : TimePoint} {queue next : TimerQueue} {firings : List Firing}
    (polled : queue.pollFirings now = some (firings, next)) :
    ∃ advanced, pollLoop (queue.elapsed now) queue = some (firings, advanced) ∧
      next = { advanced with
        currentPoint := advanced.currentPoint +
          Int64.ofInt (queue.elapsed now * nanosecondsPerMillisecond) } := by
  unfold pollFirings at polled
  cases looped : pollLoop (queue.elapsed now) queue with
  | none => simp [looped] at polled
  | some result =>
      obtain ⟨fired, advanced⟩ := result
      simp only [looped, Option.some.injEq, Prod.mk.injEq] at polled
      obtain ⟨rfl, rfl⟩ := polled
      exact ⟨advanced, rfl, rfl⟩

theorem pollFirings_none_iff (queue : TimerQueue) (now : TimePoint) :
    queue.pollFirings now = none ↔
      pollLoop (queue.elapsed now) queue = none := by
  unfold pollFirings
  cases pollLoop (queue.elapsed now) queue with
  | none => simp
  | some result => simp

/-- The tick after a poll is the number of whole milliseconds since the start,
unless it was ahead already. -/
theorem Sound.tick_add_elapsed
    {start : TimePoint} {queue : TimerQueue} (sound : Sound start queue)
    (now : TimePoint) :
    queue.tick + queue.elapsed now =
      max queue.tick ((now.toInt - start.toInt) / 1000000).toNat := by
  have clocked := sound.clocked
  simp only [nanosecondsPerMillisecond] at clocked
  rw [elapsed_eq]
  omega

/-- A poll never takes the tick past the 64 bits of its counter. -/
theorem Sound.tick_add_elapsed_lt
    {start : TimePoint} {queue : TimerQueue} (sound : Sound start queue)
    (now : TimePoint) :
    queue.tick + queue.elapsed now < 2 ^ 63 := by
  have bound := sound.tick_lt
  have clocked := sound.clocked
  have lower := start.le_toInt
  have upper := now.toInt_lt
  have reach := queue.elapsed_le now
  simp only [nanosecondsPerMillisecond] at clocked reach
  omega

/-- Adding whole milliseconds up to `now` to the clock does not overflow. -/
theorem point_add_elapsed (queue : TimerQueue) (now : TimePoint) :
    (queue.currentPoint +
      Int64.ofInt (queue.elapsed now * nanosecondsPerMillisecond)).toInt =
        queue.currentPoint.toInt +
          queue.elapsed now * nanosecondsPerMillisecond := by
  have reach := queue.elapsed_le now
  have lower := queue.currentPoint.le_toInt
  have highest := queue.currentPoint.toInt_lt
  have upper := now.toInt_lt
  rw [Int64.toInt_add, Int64.toInt_ofInt, Int.add_bmod_bmod]
  have size : Int64.size = 18446744073709551616 := rfl
  simp only [nanosecondsPerMillisecond, size] at reach ⊢
  apply Int.bmod_eq_of_le
  · omega
  · omega

/-- A poll is a sweep over the elapsed ticks that moves the clock along. -/
theorem pollFirings_some
    {start now : TimePoint} {queue next : TimerQueue} {firings : List Firing}
    (sound : Sound start queue)
    (polled : queue.pollFirings now = some (firings, next)) :
    Swept queue (queue.elapsed now) firings next ∧
      next.currentPoint.toInt = queue.currentPoint.toInt +
        queue.elapsed now * nanosecondsPerMillisecond ∧
      (0 < queue.elapsed now → next.Later) := by
  obtain ⟨advanced, looped, rfl⟩ := pollFirings_cases polled
  have room := sound.tick_add_elapsed_lt now
  obtain ⟨sweep, quiet, _⟩ :=
    pollLoop_swept sound.placed (by omega) looped
  refine ⟨sweep.setPoint _, ?_, fun more => (quiet more).setPoint _⟩
  rw [pollLoop_currentPoint looped]
  exact queue.point_add_elapsed now

/-- A poll that does not advance the tick changes nothing. -/
theorem pollFirings_still
    {now : TimePoint} {queue : TimerQueue} (still : queue.elapsed now = 0) :
    queue.pollFirings now = some ([], queue) := by
  simp [pollFirings, still, pollLoop]

theorem pollFirings_sound
    {start now : TimePoint} {queue next : TimerQueue} {firings : List Firing}
    (sound : Sound start queue)
    (polled : queue.pollFirings now = some (firings, next)) :
    Sound start next := by
  obtain ⟨sweep, reached, _⟩ := pollFirings_some sound polled
  exact {
    placed := sweep.placed
    ordered := sweep.bucketsOrdered sound.ordered
    counted := sweep.counted sound.counted
    distinct := by
      have distinct := sound.distinct
      rw [sweep.conserved, Multiset.map_add] at distinct
      exact (Multiset.nodup_add.mp distinct).2.1
    numbered := by
      intro entry member
      rw [sweep.sameScheduled]
      apply sound.numbered entry
      rw [sweep.conserved]
      exact Multiset.mem_add.mpr (Or.inr member)
    nextNumber := by
      rw [sweep.sameTimerId, sweep.sameScheduled, sound.nextNumber]
    clocked := by
      have clocked := sound.clocked
      have ticks := sweep.tick
      simp only [nanosecondsPerMillisecond] at clocked reached ⊢
      rw [reached, clocked, ticks]
      push_cast
      omega }

end TimerQueue

end Crynet
