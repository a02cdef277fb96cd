import Crynet.Timer.Run

/-!
# When polling ends

`move_bucket` pops from the list that `add_entry` may push to.  A poll returns
exactly when the top level never comes around to the bucket of a pending entry
a lap early, and that cannot happen while timers are set for at most a lap
ahead, or for a block whose digit is zero.
-/

namespace Crynet

namespace TimerQueue

/-- The cascade of the next `advance_tick`, if there is one, puts every entry
of its bucket into another bucket. -/
def CascadeLeaves (queue : TimerQueue) : Prop :=
  ∀ position, carryBucket (queue.currentTick + 1) = some position →
    ∀ entry ∈ queue.buckets position,
      bucketFor entry.expireTick (queue.currentTick + 1) ≠ position

/-- So does every cascade of the loop of `poll_expired`. -/
def CascadesLeave : Nat → TimerQueue → Prop
  | 0, _ => True
  | rounds + 1, queue =>
      queue.collectCurrentBucket.2.CascadeLeaves ∧
        ∀ firings next, queue.pollRound = some (firings, next) →
          CascadesLeave rounds next

/-- The poll returns, and every cascade it makes empties its bucket. -/
def Settles (queue : TimerQueue) (now : TimePoint) : Prop :=
  queue.pollExpired now ≠ none ∧ CascadesLeave (queue.elapsed now) queue

/-- A tick on the way to `now` overtakes a pending entry. -/
def Overtaken (queue : TimerQueue) (now : TimePoint) : Prop :=
  ∃ entry ∈ queue.pending, ∃ current, queue.tick < current ∧
    current ≤ queue.tick + queue.elapsed now ∧ Overtakes current entry

/-- No tick to come overtakes a pending entry. -/
def NeverOvertaken (queue : TimerQueue) : Prop :=
  ∀ entry ∈ queue.pending, ∀ current, queue.tick < current →
    ¬Overtakes current entry

private theorem NeverOvertaken.of_fewer
    {queue next : TimerQueue} (spared : queue.NeverOvertaken)
    (onward : queue.tick ≤ next.tick)
    (fewer : ∀ entry ∈ next.pending, entry ∈ queue.pending) :
    next.NeverOvertaken := by
  intro entry member current after
  exact spared entry (fewer entry member) current
    (Nat.lt_of_le_of_lt onward after)

private theorem cascadeLeaves_iff (queue : TimerQueue) :
    queue.CascadeLeaves ↔ queue.advanceTick ≠ none := by
  constructor
  · intro leaves endless
    obtain ⟨position, carried, entry, member, returned⟩ :=
      (advanceTick_none_iff queue).mp endless
    exact leaves position carried entry member returned
  · intro ends position carried entry member returned
    apply ends
    exact (advanceTick_none_iff queue).mpr
      ⟨position, carried, entry, member, returned⟩

private theorem cascadesLeave_iff (rounds : Nat) (queue : TimerQueue) :
    CascadesLeave rounds queue ↔ pollLoop rounds queue ≠ none := by
  induction rounds generalizing queue with
  | zero => simp [CascadesLeave, pollLoop]
  | succ rounds induction =>
      cases first : queue.pollRound with
      | none =>
          have stuck : queue.collectCurrentBucket.2.advanceTick = none :=
            (pollRound_none_iff_advance queue).mp first
          simp [CascadesLeave, cascadeLeaves_iff, pollLoop, first, stuck]
      | some step =>
          obtain ⟨firings, next⟩ := step
          have moves : queue.collectCurrentBucket.2.advanceTick ≠ none := by
            intro stuck
            have none := (pollRound_none_iff_advance queue).mpr stuck
            rw [first] at none
            cases none
          have rest := induction next
          constructor
          · rintro ⟨_, onward⟩
            have continues := rest.mp (onward firings next first)
            simp only [pollLoop, first]
            cases looped : pollLoop rounds next with
            | none => exact absurd looped continues
            | some result => simp
          · intro ends
            refine ⟨(cascadeLeaves_iff _).mpr moves, ?_⟩
            intro others after same
            rw [first, Option.some.injEq, Prod.mk.injEq] at same
            rw [← same.2]
            apply rest.mpr
            intro stuck
            apply ends
            simp only [pollLoop, first, stuck]

theorem pollExpired_none_iff
    {start : TimePoint} {queue : TimerQueue} (sound : Sound start queue)
    (now : TimePoint) : queue.pollExpired now = none ↔ queue.Overtaken now := by
  have room := sound.tick_add_elapsed_lt now
  rw [pollExpired, Option.map_eq_none_iff, pollFirings_none_iff]
  exact pollLoop_none_iff sound.placed (by omega)

/-- In a sound state a poll settles exactly when it overtakes nothing. -/
theorem settles_iff
    {start : TimePoint} {queue : TimerQueue} (sound : Sound start queue)
    (now : TimePoint) : queue.Settles now ↔ ¬queue.Overtaken now := by
  have returns : queue.pollExpired now ≠ none ↔
      pollLoop (queue.elapsed now) queue ≠ none := by
    rw [pollExpired, Ne, Option.map_eq_none_iff, pollFirings_none_iff]
  rw [Settles, cascadesLeave_iff, ← returns, and_self, Ne,
    pollExpired_none_iff sound]

end TimerQueue

namespace TimerRun

open TimerQueue

/-- A timer is set for at most a lap of the top level ahead, or for a block
whose digit is zero. -/
def WithinLap (run : TimerRun) : TimerOperation → Prop
  | .scheduleAfter targetHandle sessionId delay payloadText =>
      let entry :=
        run.queue.newEntry targetHandle sessionId delay payloadText
      entry.expire / topSpan ≤ run.queue.tick / topSpan + 64 ∨
        entry.expire / topSpan % 64 = 0
  | _ => True

/-- An entry at most a lap ahead is reached before it is overtaken. -/
theorem not_overtakes_of_withinLap
    {entry : TimerEntry} {tick current : Nat} (after : tick < current)
    (near : entry.expire / topSpan ≤ tick / topSpan + 64 ∨
      entry.expire / topSpan % 64 = 0) : ¬Overtakes current entry := by
  rintro ⟨aligned, digit, same, ahead⟩
  rcases near with lap | zero
  · have later : tick / topSpan < current / topSpan := by
      apply (Nat.div_lt_iff_lt_mul (by decide)).mpr
      rw [Nat.div_mul_cancel (Nat.dvd_of_mod_eq_zero aligned)]
      exact after
    omega
  · exact digit (same.symm.trans zero)

private theorem neverOvertaken_step
    {start : TimePoint} {run next : TimerRun} {operation : TimerOperation}
    (sound : run.queue.Sound start) (spared : run.queue.NeverOvertaken)
    (near : run.WithinLap operation)
    (stepped : run.step operation = .ok next) :
    next.queue.NeverOvertaken := by
  obtain ⟨answer, performed, _⟩ := step_ok stepped
  have effect := perform_effect performed
  generalize next.queue = queue at effect ⊢
  cases effect with
  | scheduled targetHandle sessionId delay payloadText =>
      intro entry member current after
      rw [scheduleAfter_pending] at member
      rcases Multiset.mem_cons.mp member with new | old
      · rw [new]
        exact not_overtakes_of_withinLap after near
      · exact spared entry old current after
  | removed _ fewer sameTick _ _ _ =>
      apply spared.of_fewer
      · rw [tick, tick, sameTick]
      · intro entry member
        obtain ⟨position, inBucket⟩ := mem_pending.mp member
        exact mem_pending.mpr ⟨position, (fewer position).subset inBucket⟩
  | polled polled =>
      obtain ⟨sweep, _, _⟩ := pollFirings_some sound polled
      apply spared.of_fewer
      · rw [sweep.tick]
        exact Nat.le_add_right _ _
      · intro entry member
        rw [sweep.conserved]
        exact Multiset.mem_add.mpr (Or.inr member)

/-- Nothing is overtaken in a run that sets every timer within a lap. -/
theorem new_reaches_neverOvertaken
    {start : TimePoint} {operations : List TimerOperation} {run : TimerRun}
    (reached : Reaches WithinLap (new start) operations run) :
    run.queue.Sound start ∧ run.queue.NeverOvertaken := by
  apply reached.invariant
    (fun run => run.queue.Sound start ∧ run.queue.NeverOvertaken)
  · refine ⟨new_sound start, ?_⟩
    intro entry member
    have none : entry ∈ (0 : Multiset TimerEntry) := by
      rw [← pending_new start]
      exact member
    cases none
  · rintro current operation next ⟨sound, spared⟩ near stepped
    exact ⟨step_sound sound stepped,
      neverOvertaken_step sound spared near stepped⟩

/-- A poll that overtakes nothing is a step, and it hands out what it takes
from the pending entries. -/
theorem poll_ok
    {start now : TimePoint} {run : TimerRun} (sound : run.queue.Sound start)
    (spared : ¬run.queue.Overtaken now) :
    ∃ next, run.step (.pollExpired now) = .ok next ∧
      next.queue.tick =
        max run.queue.tick ((now.toInt - start.toInt) / 1000000).toNat ∧
      ∀ entry ∈ next.queue.pending, entry ∈ run.queue.pending := by
  have ends : run.queue.pollFirings now ≠ none := by
    intro endless
    apply spared
    apply (pollExpired_none_iff sound now).mp
    rw [pollExpired, endless]
    rfl
  obtain ⟨⟨firings, queue⟩, polled⟩ := Option.ne_none_iff_exists'.mp ends
  obtain ⟨sweep, _, _⟩ := pollFirings_some sound polled
  refine ⟨⟨queue, run.handedOut ++ firings⟩, ?_, ?_, ?_⟩
  · simp [step, perform, polled]
  · rw [← sound.tick_add_elapsed]
    exact sweep.tick
  · intro entry member
    rw [sweep.conserved]
    exact Multiset.mem_add.mpr (Or.inr member)

/-- In every reachable state a poll settles exactly when no tick on its way
overtakes a pending entry; in a run that sets every timer within a lap every
poll does. -/
theorem polls_settle
    {start : TimePoint} {operations : List TimerOperation} {run : TimerRun} :
    (Reaches anyStep (new start) operations run →
      ∀ now, run.queue.Settles now ↔ ¬run.queue.Overtaken now) ∧
    (Reaches WithinLap (new start) operations run →
      ∀ now, run.queue.Settles now) := by
  constructor
  · intro reached now
    exact settles_iff (new_reaches_sound reached) now
  · intro reached now
    have spared := new_reaches_neverOvertaken reached
    apply (settles_iff spared.1 now).mpr
    rintro ⟨entry, member, current, after, _, overtaken⟩
    exact spared.2 entry member current after overtaken

/-- One timer, set exactly a lap ahead, is polled past its expiry. -/
theorem polls_settle_lapAhead :
    (((TimerQueue.new 0).scheduleAfter 1 0 4294967296 []).2.Settles
        4294967297000000 ↔
      ¬((TimerQueue.new 0).scheduleAfter 1 0 4294967296 []).2.Overtaken
        4294967297000000) ∧
    ((TimerQueue.new 0).scheduleAfter 1 0 4294967296 []).2.Settles
      4294967297000000 := by
  let operation := TimerOperation.scheduleAfter 1 0 4294967296 []
  let run : TimerRun :=
    ⟨((TimerQueue.new 0).scheduleAfter 1 0 4294967296 []).2, []⟩
  have reached : Reaches WithinLap (new 0) [operation] run :=
    Transition.Execution.single (Or.inr (by decide)) rfl
  have settle := @polls_settle 0 [operation] run
  constructor
  · exact settle.1 (reached.weaken fun _ _ _ => trivial) 4294967297000000
  · exact settle.2 reached 4294967297000000

/-- A timer set a lap and one block ahead hangs the poll that reaches the
block before. -/
theorem poll_endless :
    ∃ operations run, Reaches anyStep (new 0) operations run ∧
      run.queue.pollExpired 67108864000000 = none := by
  let operation := TimerOperation.scheduleAfter 1 0 4362076160 []
  let run : TimerRun :=
    ⟨((TimerQueue.new 0).scheduleAfter 1 0 4362076160 []).2, []⟩
  have reached : Reaches anyStep (new 0) [operation] run :=
    Transition.Execution.single trivial rfl
  refine ⟨[operation], run, reached, ?_⟩
  apply (pollExpired_none_iff (new_reaches_sound reached) _).mpr
  refine ⟨(TimerQueue.new 0).newEntry 1 0 4362076160 [], ?_, 67108864, ?_⟩
  · show _ ∈ ((TimerQueue.new 0).scheduleAfter 1 0 4362076160 []).2.pending
    rw [scheduleAfter_pending]
    exact Multiset.mem_cons_self _ _
  · refine ⟨by decide, by decide, by decide, by decide, by decide, by decide⟩

end TimerRun

end Crynet
