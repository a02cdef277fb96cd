import Crynet.Foundation.Clocked
import Crynet.Timer.Run

/-!
# When timers fire

A timer is set relative to the time the last poll has reached, not to the time
of the schedule call.  Relative to that time it never fires early, in any
system that does with a timer queue what can be done with one.
-/

namespace Crynet

open Transition (Clocked)

namespace TimerQueue

/-- What an operation does to the clock of a queue that other operations do not
look into: it polls, or leaves the clock alone. -/
inductive Touched (queue next : TimerQueue) : Option TimePoint → Prop where
  | quiet (sound : ∀ start, Sound start queue → Sound start next)
      (samePoint : next.currentPoint = queue.currentPoint) :
      Touched queue next none
  | polled {now : TimePoint} {firings : List Firing}
      (polled : queue.pollFirings now = some (firings, next)) :
      Touched queue next (some now)

theorem Touched.sound {queue next : TimerQueue} {polled : Option TimePoint}
    {start : TimePoint} (touched : Touched queue next polled)
    (sound : Sound start queue) : Sound start next := by
  cases touched with
  | quiet keeps _ => exact keeps start sound
  | polled polled => exact pollFirings_sound sound polled

theorem Touched.refl (queue : TimerQueue) : Touched queue queue none :=
  .quiet (fun _ sound => sound) rfl

theorem Touched.trans {queue middle final : TimerQueue}
    (first : Touched queue middle none) (second : Touched middle final none) :
    Touched queue final none := by
  cases first with
  | quiet keeps samePoint =>
      cases second with
      | quiet keepsOn stillSame =>
          exact .quiet (fun start sound => keepsOn start (keeps start sound))
            (stillSame.trans samePoint)

/-- No poll hands out an entry before its expire tick has come. -/
theorem expire_le_poll {start now : TimePoint} {queue next : TimerQueue}
    {firings : List Firing} (sound : Sound start queue)
    (polled : queue.pollFirings now = some (firings, next)) {firing : Firing}
    (fired : firing ∈ firings) :
    start.toInt + firing.entry.expire * nanosecondsPerMillisecond ≤
      now.toInt := by
  obtain ⟨sweep, _, _⟩ := pollFirings_some sound polled
  obtain ⟨same, _, reached⟩ := sweep.due firing fired
  have advanced : 0 < queue.elapsed now := by
    by_contra still
    rw [pollFirings_still (by omega)] at polled
    obtain ⟨none, _⟩ := Prod.mk.inj (Option.some.inj polled)
    rw [← none] at fired
    cases fired
  have tick := sweep.tick
  have clocked := sound.clocked
  have before := queue.elapsed_le now
  have expire : firing.entry.expire = firing.tick.toNat :=
    congrArg UInt64.toNat same
  simp only [nanosecondsPerMillisecond] at clocked before ⊢
  omega

end TimerQueue

/-- A system with a timer queue inside. -/
structure TimedSystem (State Label Failure : Type) where
  step : State → Label → Except Failure State
  queue : State → TimerQueue
  reads : Label → Option TimePoint
  schedule : ServiceHandle → SessionId → Int64 → Text → Label
  initial : TimePoint → State
  fresh : ∀ start, queue (initial start) = TimerQueue.new start
  silent : ∀ targetHandle sessionId delay payloadText,
    reads (schedule targetHandle sessionId delay payloadText) = none
  touches : ∀ current label next, step current label = .ok next →
    TimerQueue.Touched (queue current) (queue next) (reads label)

namespace TimedSystem

open TimerQueue

variable {State Label Failure : Type}

/-- Runs from one state to another at nondecreasing times, in which each poll
is given the present. -/
abbrev Runs (system : TimedSystem State Label Failure)
    (first : Clocked TimePoint State) (timed : List (TimePoint × Label))
    (last : Clocked TimePoint State) : Prop :=
  Transition.Execution
    (Transition.returning (Clocked.step system.step system.reads))
    (Clocked.Punctual system.reads) first timed last

/-- The queue is sound and as far as the last poll has brought it. -/
structure UpToDate (system : TimedSystem State Label Failure)
    (start : TimePoint) (current : Clocked TimePoint State) : Prop where
  sound : Sound start (system.queue current.state)
  reached : (system.queue current.state).currentPoint ≤ current.read
  close : current.read.toInt <
    (system.queue current.state).currentPoint.toInt +
      nanosecondsPerMillisecond
  ordered : current.read ≤ current.clock

variable {system : TimedSystem State Label Failure}
variable {start : TimePoint}

theorem initially_upToDate (system : TimedSystem State Label Failure)
    (start : TimePoint) :
    system.UpToDate start (Clocked.start start (system.initial start)) := by
  refine ⟨?_, ?_, ?_, ?_⟩
  · show Sound start (system.queue (system.initial start))
    rw [system.fresh]
    exact new_sound start
  · show (system.queue (system.initial start)).currentPoint ≤ start
    rw [system.fresh]
    exact Int64.le_refl start
  · show start.toInt < (system.queue (system.initial start)).currentPoint.toInt
      + nanosecondsPerMillisecond
    rw [system.fresh]
    show start.toInt < start.toInt + nanosecondsPerMillisecond
    simp only [nanosecondsPerMillisecond]
    omega
  · exact Int64.le_refl start

theorem UpToDate.step {current next : Clocked TimePoint State}
    (upToDate : system.UpToDate start current)
    {timed : TimePoint × Label}
    (punctual : Clocked.Punctual system.reads current timed)
    (stepped : Clocked.step system.step system.reads current timed =
      .ok next) : system.UpToDate start next := by
  obtain ⟨time, label⟩ := timed
  obtain ⟨forward, present⟩ := punctual
  obtain ⟨moved, clock, read⟩ := Clocked.step_ok stepped
  have touched := system.touches _ _ _ moved
  have sound := touched.sound upToDate.sound
  cases handed : system.reads label with
  | none =>
      rw [handed] at touched read
      have same : next.read = current.read := read
      cases touched with
      | quiet _ samePoint =>
          refine ⟨sound, ?_, ?_, ?_⟩
          · rw [samePoint, same]
            exact upToDate.reached
          · rw [samePoint, same]
            exact upToDate.close
          · rw [same, clock]
            exact Int64.le_trans upToDate.ordered forward
  | some now =>
      rw [handed] at touched read
      have given : now = time := present now handed
      have same : next.read = now := read
      have waited := Int64.le_trans upToDate.reached
        (Int64.le_trans upToDate.ordered forward)
      rw [Int64.le_iff_toInt_le] at waited
      simp only at waited
      cases touched with
      | polled polled =>
          obtain ⟨_, moved, _⟩ := pollFirings_some upToDate.sound polled
          have steps := (system.queue current.state).elapsed_eq now
          rw [given] at steps moved
          simp only [nanosecondsPerMillisecond] at moved
          refine ⟨sound, ?_, ?_, ?_⟩
          · rw [Int64.le_iff_toInt_le, same, given]
            omega
          · rw [same, given]
            simp only [nanosecondsPerMillisecond]
            omega
          · rw [same, clock, given]
            exact Int64.le_refl time

/-- Every timed run keeps the queue as far as the last poll has brought it. -/
theorem upToDate_of_runs {timed : List (TimePoint × Label)}
    {first last : Clocked TimePoint State}
    (initially : system.UpToDate start first)
    (runs : system.Runs first timed last) : system.UpToDate start last := by
  apply runs.invariant (system.UpToDate start) initially
  intro current timed next upToDate punctual stepped
  exact upToDate.step punctual stepped

/-- The time the queue has reached is less than a millisecond before the last
poll, and a timer with a delay that is not negative is never handed out earlier
than that delay after the time reached at the schedule call. -/
def NeverEarly (system : TimedSystem State Label Failure) : Prop :=
  ∀ (start : TimePoint) (before : List (TimePoint × Label))
    (current : Clocked TimePoint State),
    system.Runs (Clocked.start start (system.initial start)) before current →
    (system.queue current.state).currentPoint ≤ current.read ∧
      current.read.toInt <
        (system.queue current.state).currentPoint.toInt +
          nanosecondsPerMillisecond ∧
      ∀ (scheduledAt now : TimePoint) (after : List (TimePoint × Label))
        (armed last : Clocked TimePoint State)
        (targetHandle : ServiceHandle) (sessionId : SessionId) (delay : Int64)
        (payloadText : Text) (firings : List Firing) (next : TimerQueue),
        0 ≤ delay →
        current.clock ≤ scheduledAt →
        Clocked.step system.step system.reads current (scheduledAt,
          system.schedule targetHandle sessionId delay payloadText) =
            .ok armed →
        system.Runs armed after last →
        last.clock ≤ now →
        (system.queue last.state).pollFirings now = some (firings, next) →
        (∃ firing ∈ firings, firing.entry =
          (system.queue current.state).newEntry targetHandle sessionId delay
            payloadText) →
        (system.queue current.state).currentPoint.toInt +
          delay.toInt * nanosecondsPerMillisecond ≤ now.toInt

theorem never_early (system : TimedSystem State Label Failure) :
    system.NeverEarly := by
  intro start before current reached
  have there := upToDate_of_runs (system.initially_upToDate start) reached
  refine ⟨there.reached, there.close, ?_⟩
  intro scheduledAt now after armed last targetHandle sessionId delay
    payloadText firings next nonnegative forward stepped later _ polled fired
  have punctual : Clocked.Punctual system.reads current (scheduledAt,
      system.schedule targetHandle sessionId delay payloadText) := by
    refine ⟨forward, ?_⟩
    intro time read
    rw [system.silent] at read
    cases read
  have arrived := upToDate_of_runs (there.step punctual stepped) later
  obtain ⟨firing, member, same⟩ := fired
  have waited := expire_le_poll arrived.sound polled member
  have bound := there.sound.tick_lt
  have expire := (system.queue current.state).newEntry_expire targetHandle
    sessionId delay payloadText (by omega)
  have clocked := there.sound.clocked
  have sign : 0 ≤ delay.toInt := by
    rw [← Int64.toInt_zero]
    exact Int64.le_iff_toInt_le.mp nonnegative
  rw [same, expire] at waited
  simp only [nanosecondsPerMillisecond] at waited clocked ⊢
  omega

end TimedSystem

/-- The time an operation hands to the queue. -/
def TimerOperation.reads : TimerOperation → Option TimePoint
  | .pollExpired now => some now
  | _ => none

namespace TimerRun

theorem step_touched {run next : TimerRun} {operation : TimerOperation}
    (stepped : run.step operation = .ok next) :
    TimerQueue.Touched run.queue next.queue operation.reads := by
  obtain ⟨answer, performed, _⟩ := step_ok stepped
  have sound : ∀ start, TimerQueue.Sound start run.queue →
      TimerQueue.Sound start next.queue :=
    fun start sound => TimerQueue.perform_sound sound performed
  cases operation with
  | pollExpired now =>
      obtain ⟨firings, _, polled⟩ :=
        TimerQueue.perform_pollExpired_some performed
      exact .polled polled
  | scheduleAfter targetHandle sessionId delay payloadText =>
      obtain ⟨_, same⟩ := Prod.mk.inj (Option.some.inj performed)
      exact .quiet sound (by rw [← same]; rfl)
  | cancel timerId =>
      cases TimerQueue.perform_effect performed with
      | removed _ _ _ samePoint _ _ => exact .quiet sound samePoint
  | cancelForTarget targetHandle =>
      cases TimerQueue.perform_effect performed with
      | removed _ _ _ samePoint _ _ => exact .quiet sound samePoint
  | size =>
      cases TimerQueue.perform_effect performed with
      | removed _ _ _ samePoint _ _ => exact .quiet sound samePoint

/-- Operations that hand no time to the queue. -/
abbrev Timeless (_ : TimerRun) (operation : TimerOperation) : Prop :=
  operation.reads = none

theorem touched_of_timeless {run final : TimerRun}
    {operations : List TimerOperation}
    (reached : Reaches Timeless run operations final) :
    TimerQueue.Touched run.queue final.queue none := by
  induction reached with
  | nil => exact .refl run.queue
  | snoc _ timeless stepped induction =>
      have touched := step_touched stepped
      rw [timeless] at touched
      exact induction.trans touched

/-- A timer queue on its own. -/
def timed : TimedSystem TimerRun TimerOperation Endless where
  step := step
  queue := queue
  reads := TimerOperation.reads
  schedule := .scheduleAfter
  initial := new
  fresh := fun _ => rfl
  silent := fun _ _ _ _ => rfl
  touches := fun _ _ _ stepped => step_touched stepped

end TimerRun

end Crynet
