import Crynet.Timer.Termination

/-!
# Which timers are handed out

A timer that nobody cancels is handed out once, at its expire tick, unless
`add_entry` put it into bucket zero of the top level, which no cascade ever
visits.  From the schedule call on a timer is either awaited, in a bucket that
will be cascaded, or delivered; one operation keeps that, so a run does.
-/

namespace Crynet

namespace TimerRun

open TimerQueue

/-- An operation that does not cancel the timer. -/
def Spares (entry : TimerEntry) (_ : TimerRun) (operation : TimerOperation) :
    Prop :=
  ¬Removes entry operation

/-- The firings of one timer so far. -/
def firingsOf (run : TimerRun) (entry : TimerEntry) : List Firing :=
  run.handedOut.filter fun firing => firing.entry = entry

/-- The timer has been handed out, once and at its expire tick, and no bucket
holds it. -/
def Delivered (run : TimerRun) (entry : TimerEntry) : Prop :=
  run.firingsOf entry = [⟨entry.expireTick, entry⟩] ∧
    ∀ position, entry ∉ run.queue.buckets position

/-- The timer is pending where a cascade will find it. -/
structure Awaited (run : TimerRun) (setAt : Nat) (entry : TimerEntry) :
    Prop where
  silent : run.firingsOf entry = []
  pending : entry ∈ run.queue.pending
  cascades : entry ∉ run.queue.buckets idleBucket
  future : run.queue.tick < entry.expire ∨ run.queue.tick = setAt

/-- Everything handed out so far was scheduled before. -/
def Recorded (run : TimerRun) : Prop :=
  ∀ firing ∈ run.handedOut, firing.entry.serial < run.queue.scheduled

private theorem recorded_step
    {start : TimePoint} {run next : TimerRun} {operation : TimerOperation}
    (sound : run.queue.Sound start) (recorded : run.Recorded)
    (stepped : run.step operation = .ok next) : next.Recorded := by
  obtain ⟨answer, performed, handed⟩ := step_ok stepped
  have effect := perform_effect performed
  intro firing member
  rw [handed] at member
  generalize next.queue = queue at effect ⊢
  cases effect with
  | scheduled targetHandle sessionId delay payloadText =>
      rw [TimerAnswer.firings_scheduled, List.append_nil] at member
      exact Nat.lt_succ_of_lt (recorded firing member)
  | removed _ _ _ _ sameScheduled silent =>
      rw [silent, List.append_nil] at member
      rw [sameScheduled]
      exact recorded firing member
  | polled polled =>
      obtain ⟨sweep, _, _⟩ := pollFirings_some sound polled
      rw [sweep.sameScheduled]
      rcases List.mem_append.mp member with old | new
      · exact recorded firing old
      · apply (sound.numbered firing.entry _).1
        rw [sweep.conserved]
        apply Multiset.mem_add.mpr
        exact Or.inl (Multiset.mem_coe.mpr (List.mem_map_of_mem new))

private theorem new_reaches_recorded
    {permitted : TimerRun → TimerOperation → Prop} {start : TimePoint}
    {run : TimerRun} {operations : List TimerOperation}
    (reached : Reaches permitted (new start) operations run) :
    run.queue.Sound start ∧ run.Recorded := by
  apply reached.invariant (fun run => run.queue.Sound start ∧ run.Recorded)
  · refine ⟨new_sound start, ?_⟩
    intro firing member
    cases member
  · rintro current operation next ⟨sound, recorded⟩ _ stepped
    exact ⟨step_sound sound stepped, recorded_step sound recorded stepped⟩

private theorem notMem_bucket
    {queue : TimerQueue} {entry : TimerEntry} {position : BucketIndex}
    (absent : entry ∉ queue.pending) : entry ∉ queue.buckets position := by
  intro member
  exact absent (mem_pending.mpr ⟨position, member⟩)

/-- The firings of one poll contain an entry at most once. -/
theorem filter_firings_of_mem
    {start now : TimePoint} {queue next : TimerQueue} {firings : List Firing}
    (sound : Sound start queue)
    (polled : queue.pollFirings now = some (firings, next))
    {entry : TimerEntry} (fired : entry ∈ firings.map Firing.entry) :
    firings.filter (fun firing => firing.entry = entry) =
        [⟨entry.expireTick, entry⟩] ∧ entry ∉ next.pending := by
  obtain ⟨sweep, _, _⟩ := pollFirings_some sound polled
  have distinct := Multiset.Nodup.of_map _ sound.distinct
  rw [sweep.conserved, Multiset.nodup_add] at distinct
  obtain ⟨once, _, apart⟩ := distinct
  refine ⟨?_, Multiset.disjoint_left.mp apart (Multiset.mem_coe.mpr fired)⟩
  have single : (firings.filter fun firing => firing.entry = entry).length =
      1 := by
    rw [← List.countP_eq_length_filter]
    have counted := List.count_eq_one_of_mem (Multiset.coe_nodup.mp once) fired
    rw [List.count, List.countP_map] at counted
    rw [← counted]
    apply List.countP_congr
    intro firing _
    simp
  obtain ⟨firing, only⟩ := List.length_eq_one_iff.mp single
  have member : firing ∈ firings.filter fun firing =>
      firing.entry = entry := by
    rw [only]
    exact List.mem_singleton_self firing
  obtain ⟨inFirings, same⟩ := List.mem_filter.mp member
  have sameEntry : firing.entry = entry := of_decide_eq_true same
  obtain ⟨now, _, _⟩ := sweep.due firing inFirings
  rw [only, ← sameEntry, now]

/-- One operation that does not cancel an awaited timer leaves it awaited, or
delivers it. -/
theorem awaited_step
    {start : TimePoint} {run next : TimerRun} {operation : TimerOperation}
    {setAt : Nat} {entry : TimerEntry} (sound : run.queue.Sound start)
    (awaited : run.Awaited setAt entry) (spared : Spares entry run operation)
    (stepped : run.step operation = .ok next) :
    next.Awaited setAt entry ∨ next.Delivered entry := by
  obtain ⟨answer, performed, handed⟩ := step_ok stepped
  have effect := perform_effect performed
  obtain ⟨queue, handedOut⟩ := next
  simp only at effect handed
  subst handed
  obtain ⟨silent, pending, cascades, future⟩ := awaited
  cases effect with
  | scheduled targetHandle sessionId delay payloadText =>
      left
      refine ⟨?_, ?_, ?_, future⟩
      · rw [firingsOf, TimerAnswer.firings_scheduled, List.append_nil]
        exact silent
      · rw [scheduleAfter_pending]
        exact Multiset.mem_cons_of_mem pending
      · intro member
        rcases mem_addEntry.mp member with old | ⟨same, _⟩
        · exact cascades old
        · have below := (sound.numbered entry pending).1
          rw [same] at below
          exact Nat.lt_irrefl _ below
  | removed kept fewer sameTick _ _ quiet =>
      left
      refine ⟨?_, ?_, ?_, ?_⟩
      · rw [firingsOf, quiet, List.append_nil]
        exact silent
      · obtain ⟨position, inBucket⟩ := mem_pending.mp pending
        have stays := (kept position entry inBucket).resolve_right spared
        exact mem_pending.mpr ⟨position, stays⟩
      · intro member
        exact cascades ((fewer idleBucket).subset member)
      · rw [tick, sameTick]
        exact future
  | @polled now firings _ polled =>
      obtain ⟨sweep, _, quiet⟩ := pollFirings_some sound polled
      by_cases fired : entry ∈ firings.map Firing.entry
      · right
        obtain ⟨once, gone⟩ := filter_firings_of_mem sound polled fired
        refine ⟨?_, fun position => notMem_bucket gone⟩
        rw [firingsOf, TimerAnswer.firings_polled, List.filter_append]
        rw [firingsOf] at silent
        rw [silent, once, List.nil_append]
      · left
        have kept : entry ∈ queue.pending := by
          rw [sweep.conserved] at pending
          rcases Multiset.mem_add.mp pending with taken | kept
          · exact absurd (Multiset.mem_coe.mp taken) fired
          · exact kept
        have awake : entry ∉ queue.buckets idleBucket := by
          rw [sweep.idle]
          exact cascades
        have none : firings.filter (fun firing => firing.entry = entry) =
            [] := by
          apply List.filter_eq_nil_iff.mpr
          intro firing member same
          apply fired
          rw [← of_decide_eq_true same]
          exact List.mem_map_of_mem member
        refine ⟨?_, kept, awake, ?_⟩
        · rw [firingsOf, TimerAnswer.firings_polled, List.filter_append, none,
            List.append_nil]
          exact silent
        · by_cases moved : 0 < run.queue.elapsed now
          · left
            obtain ⟨position, inBucket⟩ := mem_pending.mp kept
            have elsewhere : position ≠ idleBucket := by
              intro idle
              rw [idle] at inBucket
              exact awake inBucket
            exact quiet moved position elsewhere entry inBucket
          · have still : run.queue.elapsed now = 0 := by omega
            rw [sweep.tick, still]
            exact future

private theorem scheduled_le_step
    {start : TimePoint} {run next : TimerRun} {operation : TimerOperation}
    (sound : run.queue.Sound start)
    (stepped : run.step operation = .ok next) :
    run.queue.scheduled ≤ next.queue.scheduled := by
  obtain ⟨answer, performed, _⟩ := step_ok stepped
  have effect := perform_effect performed
  generalize next.queue = queue at effect ⊢
  cases effect with
  | scheduled targetHandle sessionId delay payloadText =>
      exact Nat.le_succ _
  | removed _ _ _ _ sameScheduled _ => rw [sameScheduled]
  | polled polled =>
      obtain ⟨sweep, _, _⟩ := pollFirings_some sound polled
      rw [sweep.sameScheduled]

/-- The timer has been set, and no bucket holds it. -/
structure Gone (run : TimerRun) (entry : TimerEntry) : Prop where
  issued : entry.serial < run.queue.scheduled
  absent : entry ∉ run.queue.pending

theorem gone_of_cancelForTarget
    {start : TimePoint} {run next : TimerRun} {targetHandle : ServiceHandle}
    {entry : TimerEntry} (sound : run.queue.Sound start)
    (pending : entry ∈ run.queue.pending)
    (targets : entry.targetHandle = targetHandle)
    (stepped : run.step (.cancelForTarget targetHandle) = .ok next) :
    next.Gone entry := by
  have numbered := (sound.numbered entry pending).1
  refine ⟨Nat.lt_of_lt_of_le numbered (scheduled_le_step sound stepped), ?_⟩
  obtain ⟨answer, performed, _⟩ := step_ok stepped
  obtain ⟨_, same⟩ := Prod.mk.inj (Option.some.inj performed)
  rw [← same, cancelForTarget_pending, Multiset.mem_filter, not_and, not_not]
  exact fun _ => targets

/-- One operation neither brings a timer back that is gone nor hands it out. -/
theorem gone_step
    {start : TimePoint} {run next : TimerRun} {operation : TimerOperation}
    {entry : TimerEntry} (sound : run.queue.Sound start)
    (gone : run.Gone entry) (stepped : run.step operation = .ok next) :
    next.Gone entry ∧ next.firingsOf entry = run.firingsOf entry := by
  have issued := Nat.lt_of_lt_of_le gone.issued
    (scheduled_le_step sound stepped)
  obtain ⟨answer, performed, handed⟩ := step_ok stepped
  have effect := perform_effect performed
  obtain ⟨queue, handedOut⟩ := next
  simp only at effect handed
  subst handed
  have absent := gone.absent
  cases effect with
  | scheduled targetHandle sessionId delay payloadText =>
      refine ⟨⟨issued, ?_⟩, ?_⟩
      · rw [scheduleAfter_pending, Multiset.mem_cons, not_or]
        refine ⟨?_, absent⟩
        intro same
        have below := gone.issued
        rw [same] at below
        exact Nat.lt_irrefl _ below
      · rw [firingsOf, TimerAnswer.firings_scheduled, List.append_nil]
        rfl
  | removed _ fewer _ _ _ quiet =>
      refine ⟨⟨issued, ?_⟩, ?_⟩
      · intro member
        obtain ⟨position, inBucket⟩ := mem_pending.mp member
        exact absent
          (mem_pending.mpr ⟨position, (fewer position).subset inBucket⟩)
      · rw [firingsOf, quiet, List.append_nil]
        rfl
  | @polled now firings _ polled =>
      obtain ⟨sweep, _, _⟩ := pollFirings_some sound polled
      rw [sweep.conserved, Multiset.mem_add, not_or] at absent
      obtain ⟨notFired, notKept⟩ := absent
      refine ⟨⟨issued, notKept⟩, ?_⟩
      have none : firings.filter (fun firing => firing.entry = entry) =
          [] := by
        apply List.filter_eq_nil_iff.mpr
        intro firing member same
        apply notFired
        rw [← of_decide_eq_true same]
        exact Multiset.mem_coe.mpr (List.mem_map_of_mem member)
      rw [firingsOf, TimerAnswer.firings_polled, List.filter_append, none,
        List.append_nil]
      rfl

/-- The run lemma of timers that are gone. -/
theorem gone_reaches {permitted : TimerRun → TimerOperation → Prop}
    {start : TimePoint} {run final : TimerRun}
    {operations : List TimerOperation} {entry : TimerEntry}
    (sound : run.queue.Sound start) (gone : run.Gone entry)
    (reached : Reaches permitted run operations final) :
    final.Gone entry ∧ final.firingsOf entry = run.firingsOf entry := by
  have all : final.queue.Sound start ∧ final.Gone entry ∧
      final.firingsOf entry = run.firingsOf entry := by
    apply reached.invariant fun current => current.queue.Sound start ∧
      current.Gone entry ∧ current.firingsOf entry = run.firingsOf entry
    · exact ⟨sound, gone, rfl⟩
    · rintro current operation next ⟨sound, gone, same⟩ _ stepped
      obtain ⟨stays, silent⟩ := gone_step sound gone stepped
      exact ⟨step_sound sound stepped, stays, silent.trans same⟩
  exact all.2

/-- One operation cannot bring a delivered timer back. -/
theorem delivered_step
    {start : TimePoint} {run next : TimerRun} {operation : TimerOperation}
    {entry : TimerEntry} (sound : run.queue.Sound start)
    (issued : entry.serial < run.queue.scheduled)
    (delivered : run.Delivered entry)
    (stepped : run.step operation = .ok next) : next.Delivered entry := by
  obtain ⟨once, nowhere⟩ := delivered
  have absent : entry ∉ run.queue.pending := by
    intro member
    obtain ⟨position, inBucket⟩ := mem_pending.mp member
    exact nowhere position inBucket
  obtain ⟨gone, silent⟩ := gone_step sound ⟨issued, absent⟩ stepped
  exact ⟨silent.trans once, fun position => notMem_bucket gone.absent⟩

/-- An entry of the idle bucket stays there until it is cancelled. -/
theorem idle_step
    {start : TimePoint} {run next : TimerRun} {operation : TimerOperation}
    {entry : TimerEntry} (sound : run.queue.Sound start)
    (idle : entry ∈ run.queue.buckets idleBucket)
    (spared : Spares entry run operation)
    (stepped : run.step operation = .ok next) :
    entry ∈ next.queue.buckets idleBucket := by
  obtain ⟨answer, performed, _⟩ := step_ok stepped
  have effect := perform_effect performed
  generalize next.queue = queue at effect ⊢
  cases effect with
  | scheduled targetHandle sessionId delay payloadText =>
      exact mem_addEntry.mpr (Or.inl idle)
  | removed kept _ _ _ _ _ =>
      exact (kept idleBucket entry idle).resolve_right spared
  | polled polled =>
      obtain ⟨sweep, _, _⟩ := pollFirings_some sound polled
      rw [sweep.idle]
      exact idle

/-- The block of an expire tick is the current one, or its digit is not
zero. -/
def Reachable (expire current : Nat) : Prop :=
  expire / topSpan = current / topSpan ∨ expire / topSpan % 64 ≠ 0

private theorem not_reachable_iff (expire current : Nat) :
    ¬Reachable expire current ↔ seat expire current = idleBucket := by
  rw [seat_eq_idle_iff, Reachable, not_or, not_not]

section

variable {start : TimePoint} {before after : List TimerOperation}
variable {run armed final : TimerRun}
variable {targetHandle : ServiceHandle} {sessionId : SessionId}
variable {delay : Int64} {payloadText : Text}

private theorem armed_eq
    (stepped : run.step
      (.scheduleAfter targetHandle sessionId delay payloadText) = .ok armed) :
    armed = ⟨(run.queue.scheduleAfter targetHandle sessionId delay
      payloadText).2, run.handedOut⟩ := by
  simpa [step, perform] using stepped.symm

/-- A timer set for a reachable block is awaited. -/
theorem armed_awaited
    (sound : run.queue.Sound start) (recorded : run.Recorded)
    (stepped : run.step
      (.scheduleAfter targetHandle sessionId delay payloadText) = .ok armed)
    (reachable : Reachable
      (run.queue.newEntry targetHandle sessionId delay payloadText).expire
      run.queue.tick) :
    armed.Awaited run.queue.tick
      (run.queue.newEntry targetHandle sessionId delay payloadText) := by
  obtain rfl := armed_eq stepped
  refine ⟨?_, ?_, ?_, Or.inr rfl⟩
  · apply List.filter_eq_nil_iff.mpr
    intro firing member same
    have below := recorded firing member
    rw [of_decide_eq_true same] at below
    exact Nat.lt_irrefl _ below
  · rw [scheduleAfter_pending]
    exact Multiset.mem_cons_self _ _
  · intro member
    rcases mem_addEntry.mp member with old | ⟨_, idle⟩
    · have below :=
        (sound.numbered _ (mem_pending.mpr ⟨idleBucket, old⟩)).1
      exact Nat.lt_irrefl _ below
    · rw [bucketFor_eq] at idle
      exact (not_reachable_iff _ _).mpr idle.symm reachable

/-- A timer set for any other block sits in the idle bucket. -/
theorem armed_idle
    (stepped : run.step
      (.scheduleAfter targetHandle sessionId delay payloadText) = .ok armed)
    (unreachable : ¬Reachable
      (run.queue.newEntry targetHandle sessionId delay payloadText).expire
      run.queue.tick) :
    run.queue.newEntry targetHandle sessionId delay payloadText ∈
      armed.queue.buckets idleBucket := by
  obtain rfl := armed_eq stepped
  apply mem_addEntry.mpr
  right
  refine ⟨rfl, ?_⟩
  rw [bucketFor_eq]
  exact ((not_reachable_iff _ _).mp unreachable).symm

/-- When the tick has been advanced to its expire tick, a timer that nobody
cancelled has been delivered if and only if its block was reachable when it was
set. -/
theorem delivered_iff_reachable
    (reached : Reaches anyStep (new start) before run)
    (stepped : run.step
      (.scheduleAfter targetHandle sessionId delay payloadText) = .ok armed)
    (later : Reaches
      (Spares (run.queue.newEntry targetHandle sessionId delay payloadText))
      armed after final)
    (advanced : run.queue.tick < final.queue.tick)
    (due : (run.queue.newEntry targetHandle sessionId delay payloadText).expire
      ≤ final.queue.tick) :
    final.Delivered
        (run.queue.newEntry targetHandle sessionId delay payloadText) ↔
      Reachable
        (run.queue.newEntry targetHandle sessionId delay payloadText).expire
        run.queue.tick := by
  obtain ⟨sound, recorded⟩ := new_reaches_recorded reached
  have armedSound : armed.queue.Sound start := step_sound sound stepped
  generalize named : run.queue.newEntry targetHandle sessionId delay
    payloadText = entry at *
  constructor
  · intro delivered
    by_contra unreachable
    have initially := armed_idle stepped (named ▸ unreachable)
    rw [named] at initially
    have stays : final.queue.Sound start ∧
        entry ∈ final.queue.buckets idleBucket := by
      apply later.invariant (fun current => current.queue.Sound start ∧
        entry ∈ current.queue.buckets idleBucket)
      · exact ⟨armedSound, initially⟩
      · rintro current operation next ⟨sound, idle⟩ spared moved
        exact ⟨step_sound sound moved, idle_step sound idle spared moved⟩
    exact delivered.2 idleBucket stays.2
  · intro reachable
    have initially := armed_awaited sound recorded stepped (named ▸ reachable)
    rw [named] at initially
    have tracked : final.queue.Sound start ∧
        entry.serial < final.queue.scheduled ∧
        (final.Awaited run.queue.tick entry ∨ final.Delivered entry) := by
      apply later.invariant (fun current => current.queue.Sound start ∧
        entry.serial < current.queue.scheduled ∧
        (current.Awaited run.queue.tick entry ∨ current.Delivered entry))
      · exact ⟨armedSound, (armedSound.numbered entry initially.pending).1,
          Or.inl initially⟩
      · rintro current operation next ⟨sound, issued, tracked⟩ spared moved
        refine ⟨step_sound sound moved,
          Nat.lt_of_lt_of_le issued (scheduled_le_step sound moved), ?_⟩
        rcases tracked with awaited | delivered
        · exact awaited_step sound awaited spared moved
        · exact Or.inr (delivered_step sound issued delivered moved)
    rcases tracked.2.2 with awaited | delivered
    · exfalso
      have future := awaited.future
      omega
    · exact delivered

end

/-- A timer of 300 ms set at the start is delivered by a poll after a
second. -/
theorem delivered_after_second :
    ∃ final : TimerRun,
      final.Delivered ((TimerQueue.new 0).newEntry 1 0 300 []) ∧
        Reachable ((TimerQueue.new 0).newEntry 1 0 300 []).expire 0 := by
  let entry := (TimerQueue.new 0).newEntry 1 0 300 []
  let armed : TimerRun :=
    ⟨((TimerQueue.new 0).scheduleAfter 1 0 300 []).2, []⟩
  have stepped : (new 0).step (.scheduleAfter 1 0 300 []) = .ok armed := rfl
  have sound : armed.queue.Sound 0 := step_sound (new_sound 0) stepped
  have spared : ¬armed.queue.Overtaken 1000000000 := by
    rintro ⟨other, member, current, after, _, overtaken⟩
    have added := (TimerQueue.new 0).scheduleAfter_pending 1 0 300 []
    rw [added, pending_new] at member
    rw [Multiset.mem_singleton.mp member] at overtaken
    exact not_overtakes_of_withinLap after (Or.inr (by decide)) overtaken
  obtain ⟨final, polled, reachedTick, _⟩ := poll_ok sound spared
  have advanced : final.queue.tick = 1000 := reachedTick
  have reachable : Reachable entry.expire (new 0).queue.tick :=
    Or.inl (by decide)
  refine ⟨final, ?_, reachable⟩
  apply (delivered_iff_reachable Transition.Execution.nil stepped
    (Transition.Execution.single _ polled) _ _).mpr reachable
  · intro removes
    exact removes
  · rw [advanced]
    decide
  · rw [advanced]
    decide

/-- A timer of 300 ms set 100 ms before the tick crosses a multiple of 2^32 is
still in its bucket 800 ms after its expiry. -/
theorem timer_stranded :
    ∃ run armed final : TimerRun,
      Reaches anyStep (new 0) [.pollExpired 4294967196000000] run ∧
      run.step (.scheduleAfter 1 0 300 []) = .ok armed ∧
      Reaches (Spares (run.queue.newEntry 1 0 300 [])) armed
        [.pollExpired 4294968296000000] final ∧
      (run.queue.newEntry 1 0 300 []).expire + 800 = final.queue.tick ∧
      run.queue.newEntry 1 0 300 [] ∈ final.queue.buckets idleBucket ∧
      ¬final.Delivered (run.queue.newEntry 1 0 300 []) := by
  have unset : ¬(new 0).queue.Overtaken 4294967196000000 := by
    rintro ⟨entry, member, _⟩
    have none : entry ∈ (0 : Multiset TimerEntry) := by
      rw [← pending_new 0]
      exact member
    cases none
  obtain ⟨run, quiet, quietTick, nothing⟩ := poll_ok (new_sound 0) unset
  have runTick : run.queue.tick = 4294967196 := quietTick
  have runSound : run.queue.Sound 0 := step_sound (new_sound 0) quiet
  let entry := run.queue.newEntry 1 0 300 []
  let armed : TimerRun :=
    ⟨(run.queue.scheduleAfter 1 0 300 []).2, run.handedOut⟩
  have expires : entry.expire = 4294967496 := by
    rw [run.queue.newEntry_expire 1 0 300 [] (by omega), runTick]
    rfl
  have stepped : run.step (.scheduleAfter 1 0 300 []) = .ok armed := by
    simp [step, perform, armed]
  have sound : armed.queue.Sound 0 := step_sound runSound stepped
  have spared : ¬armed.queue.Overtaken 4294968296000000 := by
    rintro ⟨other, member, current, after, _, overtaken⟩
    have added := run.queue.scheduleAfter_pending 1 0 300 []
    rw [added] at member
    rcases Multiset.mem_cons.mp member with same | old
    · rw [same] at overtaken
      apply not_overtakes_of_withinLap after _ overtaken
      exact Or.inr (expires ▸ by decide)
    · have none : other ∈ (0 : Multiset TimerEntry) := by
        rw [← pending_new 0]
        exact nothing other old
      cases none
  obtain ⟨final, polled, finalTick, _⟩ := poll_ok sound spared
  have unreachable : ¬Reachable entry.expire run.queue.tick := by
    rw [expires, runTick]
    unfold Reachable topSpan
    omega
  have kept : Spares entry armed (.pollExpired 4294968296000000) :=
    fun removes => removes
  have idle := idle_step sound (armed_idle stepped unreachable) kept polled
  have armedTick : armed.queue.tick = 4294967196 := runTick
  rw [armedTick] at finalTick
  refine ⟨run, armed, final, Transition.Execution.single trivial quiet,
    stepped, Transition.Execution.single kept polled, ?_,
    idle, ?_⟩
  · rw [expires, finalTick]
    rfl
  · intro delivered
    exact delivered.2 idleBucket idle

end TimerRun

end Crynet
