import Crynet.Timer.Delivery
import Crynet.Timer.Punctuality

/-!
# Timers are not late

The wheel is never ahead of the clock, so a timer expires at the latest when
its delay after the schedule call is over.  While no expire tick reaches 2^32
the top level has a bucket for every block, and the next poll that advances the
tick hands the timer out.
-/

namespace Crynet

namespace TimerRun

open TimerQueue
open Transition (Clocked)

/-- A timer is set for a tick below 2^32. -/
def ExpiresSoon (run : TimerRun) : TimerOperation → Prop
  | .scheduleAfter targetHandle sessionId delay payloadText =>
      (run.queue.newEntry targetHandle sessionId delay payloadText).expire <
        2 ^ 32
  | _ => True

/-- Time does not go back, polls are given the present, and timers are set for
ticks below 2^32. -/
def Timely (current : Clocked TimePoint TimerRun)
    (timedOperation : TimePoint × TimerOperation) : Prop :=
  Clocked.Punctual TimerOperation.reads current timedOperation ∧
    current.state.ExpiresSoon timedOperation.2

/-- A timely step that does not cancel the timer. -/
def TimelySparing (entry : TimerEntry) (current : Clocked TimePoint TimerRun)
    (timedOperation : TimePoint × TimerOperation) : Prop :=
  Timely current timedOperation ∧ Spares entry current.state timedOperation.2

abbrev clockedStep :
    Clocked TimePoint TimerRun → TimePoint × TimerOperation →
      Except Endless (Clocked TimePoint TimerRun) :=
  Clocked.step step TimerOperation.reads

/-- The runs whose steps, taken at the times given, are permitted. -/
abbrev TimedReaches
    (permitted : Clocked TimePoint TimerRun → TimePoint × TimerOperation →
      Prop) (first : Clocked TimePoint TimerRun)
    (operations : List (TimePoint × TimerOperation))
    (last : Clocked TimePoint TimerRun) : Prop :=
  Transition.Execution (Transition.returning clockedStep) permitted first
    operations last

private theorem ExpiresSoon.withinLap {run : TimerRun} {operation : TimerOperation}
    (soon : run.ExpiresSoon operation) : run.WithinLap operation := by
  cases operation with
  | scheduleAfter targetHandle sessionId delay payloadText =>
      left
      have below : (run.queue.newEntry targetHandle sessionId delay
          payloadText).expire < 2 ^ 32 := soon
      have block := Nat.div_lt_of_lt_mul
        (show _ < topSpan * 64 from below)
      exact Nat.le_of_lt (Nat.lt_of_lt_of_le block (Nat.le_add_left _ _))
  | cancel timerId => trivial
  | cancelForTarget targetHandle => trivial
  | size => trivial
  | pollExpired now => trivial

/-- Every block below 2^32 is reachable from the blocks before it. -/
theorem reachable_of_soon {expire current : Nat} (soon : expire < 2 ^ 32)
    (future : current ≤ expire) : Reachable expire current := by
  have block := Nat.div_lt_of_lt_mul (show expire < topSpan * 64 from soon)
  by_cases first : expire / topSpan = 0
  · left
    have before : current / topSpan ≤ expire / topSpan :=
      Nat.div_le_div_right future
    rw [first] at before
    rw [first, Nat.eq_zero_of_le_zero before]
  · right
    rw [Nat.mod_eq_of_lt block]
    exact first

private theorem tick_le_step
    {start : TimePoint} {run next : TimerRun} {operation : TimerOperation}
    (sound : run.queue.Sound start)
    (stepped : run.step operation = .ok next) :
    run.queue.tick ≤ next.queue.tick := by
  obtain ⟨answer, performed, _⟩ := step_ok stepped
  have effect := perform_effect performed
  generalize next.queue = queue at effect ⊢
  cases effect with
  | scheduled targetHandle sessionId delay payloadText => exact Nat.le_refl _
  | removed _ _ sameTick _ _ _ => rw [tick, tick, sameTick]
  | polled polled =>
      obtain ⟨sweep, _, _⟩ := pollFirings_some sound polled
      rw [sweep.tick]
      exact Nat.le_add_right _ _

/-- No run turns the wheel back. -/
theorem tick_le_reaches
    {permitted : TimerRun → TimerOperation → Prop} {start : TimePoint}
    {run final : TimerRun} {operations : List TimerOperation}
    (sound : run.queue.Sound start)
    (reached : Reaches permitted run operations final) :
    run.queue.tick ≤ final.queue.tick := by
  have both : final.queue.Sound start ∧
      run.queue.tick ≤ final.queue.tick := by
    apply reached.invariant fun current => current.queue.Sound start ∧
      run.queue.tick ≤ current.queue.tick
    · exact ⟨sound, Nat.le_refl _⟩
    · rintro current operation next ⟨sound, before⟩ _ stepped
      exact ⟨step_sound sound stepped,
        Nat.le_trans before (tick_le_step sound stepped)⟩
  exact both.2

/-- A timer expires after it is set and, by the clock of the wheel, at the
latest when its delay after the schedule call is over. -/
theorem expire_bounds
    {start scheduledAt : TimePoint} {current : Clocked TimePoint TimerRun}
    (there : timed.UpToDate start current)
    (forward : current.clock ≤ scheduledAt) (targetHandle : ServiceHandle)
    (sessionId : SessionId) (delay : Int64) (payloadText : Text) :
    current.state.queue.tick ≤ (current.state.queue.newEntry targetHandle
        sessionId delay payloadText).expire ∧
      start.toInt + (current.state.queue.newEntry targetHandle sessionId delay
          payloadText).expire * nanosecondsPerMillisecond ≤
        scheduledAt.toInt +
          max delay.toInt 0 * nanosecondsPerMillisecond := by
  have behind : current.state.queue.currentPoint ≤ scheduledAt :=
    Int64.le_trans there.reached (Int64.le_trans there.ordered forward)
  rw [Int64.le_iff_toInt_le] at behind
  have clocked : current.state.queue.currentPoint.toInt = start.toInt +
      current.state.queue.tick * nanosecondsPerMillisecond :=
    there.sound.clocked
  have bound : current.state.queue.tick * 1000000 < 2 ^ 64 :=
    there.sound.tick_lt
  rw [current.state.queue.newEntry_expire targetHandle sessionId delay
    payloadText (by omega)]
  simp only [nanosecondsPerMillisecond] at clocked ⊢
  constructor
  · exact Nat.le_add_right _ _
  · omega

/-- A timer that nobody cancels is never late: the first poll that advances the
tick at or after the end of its delay returns and has handed it out, once. -/
theorem never_late
    {start scheduledAt now : TimePoint}
    {before after : List (TimePoint × TimerOperation)}
    {current armed last : Clocked TimePoint TimerRun}
    {targetHandle : ServiceHandle} {sessionId : SessionId} {delay : Int64}
    {payloadText : Text}
    (reached : TimedReaches Timely (Clocked.start start (new start)) before
      current)
    (timely : Timely current (scheduledAt,
      .scheduleAfter targetHandle sessionId delay payloadText))
    (stepped : clockedStep current (scheduledAt,
      .scheduleAfter targetHandle sessionId delay payloadText) = .ok armed)
    (later : TimedReaches (TimelySparing (current.state.queue.newEntry
      targetHandle sessionId delay payloadText)) armed after last)
    (due : scheduledAt.toInt +
      max delay.toInt 0 * nanosecondsPerMillisecond ≤ now.toInt)
    (advances : 0 < last.state.queue.elapsed now) :
    ∃ next, clockedStep last (now, .pollExpired now) = .ok next ∧
      next.state.Delivered (current.state.queue.newEntry targetHandle
        sessionId delay payloadText) := by
  have arrived := reached.snoc timely stepped
  have all := arrived.trans (later.weaken fun _ _ sparing => sparing.1)
  have beforehand : Reaches anyStep (new start) (before.map Prod.snd)
      current.state := Clocked.untimed (fun _ _ _ => trivial) reached
  have sparing : Reaches (Spares (current.state.queue.newEntry targetHandle
      sessionId delay payloadText)) armed.state (after.map Prod.snd)
      last.state := Clocked.untimed (fun _ _ sparing => sparing.2) later
  obtain ⟨sound, spared⟩ := new_reaches_neverOvertaken
    (Clocked.untimed (fun _ _ timely => timely.2.withinLap) all)
  have there := TimedSystem.upToDate_of_runs
    (timed.initially_upToDate start) (reached.weaken fun _ _ timely =>
      timely.1)
  have settles : ¬last.state.queue.Overtaken now := by
    rintro ⟨entry, member, tick, after, _, overtaken⟩
    exact spared entry member tick after overtaken
  obtain ⟨next, polled, ticked, _⟩ := poll_ok sound settles
  have armedStep := (Clocked.step_ok stepped).1
  have onward : current.state.queue.tick ≤ last.state.queue.tick :=
    Nat.le_trans (tick_le_step there.sound armedStep)
      (tick_le_reaches (step_sound there.sound armedStep) sparing)
  have ahead : last.state.queue.tick + last.state.queue.elapsed now =
      next.queue.tick := by
    rw [ticked]
    exact sound.tick_add_elapsed now
  obtain ⟨future, expires⟩ := expire_bounds there timely.1.1 targetHandle
    sessionId delay payloadText
  have kept : Spares (current.state.queue.newEntry targetHandle sessionId delay
      payloadText) last.state (.pollExpired now) := fun removes => removes
  refine ⟨⟨now, now, next⟩, ?_, ?_⟩
  · simp only [Clocked.step, polled, TimerOperation.reads, Option.getD_some]
  · apply (delivered_iff_reachable beforehand armedStep
      (sparing.snoc kept polled) ?_ ?_).mpr
    · exact reachable_of_soon timely.2 future
    · omega
    · simp only [nanosecondsPerMillisecond] at expires due
      omega

/-- A timer of two milliseconds, set half a millisecond after the last poll and
returned by a poll exactly two milliseconds later. -/
theorem never_late_fraction :
    ∃ next, clockedStep ⟨500000, 0, ⟨((TimerQueue.new 0).scheduleAfter 1 0 2
          []).2, []⟩⟩ (2500000, .pollExpired 2500000) = .ok next ∧
      next.state.Delivered ((TimerQueue.new 0).newEntry 1 0 2 []) := by
  have timely : Timely (Clocked.start 0 (new 0))
      (500000, .scheduleAfter 1 0 2 []) := by
    refine ⟨⟨by decide, ?_⟩, ?_⟩
    · intro time read
      cases read
    · show ((TimerQueue.new 0).newEntry 1 0 2 []).expire < 2 ^ 32
      decide
  apply @never_late 0 500000 2500000 [] [] _ _ _ 1 0 2 []
    Transition.Execution.nil timely rfl Transition.Execution.nil
  · decide
  · decide

end TimerRun

end Crynet
