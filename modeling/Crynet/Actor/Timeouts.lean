import Crynet.Actor.Frames
import Crynet.Timer.Punctuality

/-!
# Timeouts of an actor system

What the actions of the machine do to its timer queue, and what follows for the
times at which timeouts fire.
-/

namespace Crynet

open Transition (Clocked)

/-- The time an action hands to the timer queue. -/
def Action.reads : Action → Option TimePoint
  | .pumpTimers now => some now
  | _ => none

namespace ActorSystem

/-- The timer queue of a system, with the timers handed out so far. -/
def timers (system : ActorSystem) (handedOut : List Firing) : TimerRun :=
  { queue := system.timerQueue, handedOut := handedOut }

/-- Timers are set and cancelled, and none is handed out. -/
def SetsTimers (handedOut : List Firing) (system next : ActorSystem) : Prop :=
  ∃ operations, TimerRun.Reaches TimerRun.Timeless (system.timers handedOut)
    operations (next.timers handedOut)

variable (handedOut : List Firing)

theorem SetsTimers.of_eq {system next : ActorSystem}
    (same : next.timerQueue = system.timerQueue) :
    SetsTimers handedOut system next := by
  rw [SetsTimers, timers, timers, same]
  exact ⟨[], .nil⟩

private theorem setsTimers_threads : Threads (SetsTimers handedOut) where
  refl := fun _ => .of_eq handedOut rfl
  trans := by
    rintro system middle final ⟨first, before⟩ ⟨second, after⟩
    exact ⟨first ++ second, before.trans after⟩

/-- Releasing a service cancels its timers. -/
theorem release_cancels {system : ActorSystem} {handle : ServiceHandle}
    {service : ServiceSlot}
    (found : system.services.lookup handle = some service) :
    (system.timers handedOut).step (.cancelForTarget handle) =
      .ok ((system.releaseService handle).2.timers handedOut) := by
  simp only [releaseService, found, timers, removeService, TimerRun.step,
    TimerQueue.perform, TimerAnswer.firings, List.append_nil]

private theorem releaseService_timers (system : ActorSystem)
    (handle : ServiceHandle) :
    SetsTimers handedOut system (system.releaseService handle).2 := by
  cases found : system.services.lookup handle with
  | none =>
      apply SetsTimers.of_eq
      simp only [releaseService, found]
  | some service =>
      exact ⟨_, .single rfl (release_cancels handedOut found)⟩

end ActorSystem

namespace Machine

open ActorSystem (SetsTimers)

variable {machine next : Machine}

/-- The timers an action takes out of their buckets to turn them into
messages. -/
def fires (machine : Machine) : Action → List Firing
  | .pumpTimers now =>
      match machine.system.timerQueue.pollFirings now with
      | none => []
      | some (firings, _) => firings
  | _ => []

variable (handedOut : List Firing)

/-- An action that does not pump sets and cancels timers. -/
theorem step_timeless {action : Action} (timeless : action.reads = none)
    (stepped : machine.step action = .ok next) :
    SetsTimers handedOut machine.system next.system := by
  by_cases confined : action.Confined
  · exact .of_eq handedOut (step_keeps confined stepped).timerQueue
  · cases action with
    | registerService serviceName =>
        obtain ⟨result, system, performed, shape⟩ := returning_cases stepped
        subst shape
        exact .of_eq handedOut
          (ActorSystem.registerService_timerQueue performed)
    | releaseService handle =>
        simp only [step, Except.ok.injEq] at stepped
        subst stepped
        exact ActorSystem.releaseService_timers handedOut _ handle
    | shutdown =>
        simp only [step, Except.ok.injEq] at stepped
        subst stepped
        exact (ActorSystem.setsTimers_threads handedOut).releaseEach
          (ActorSystem.releaseService_timers handedOut) _ machine
    | call sourceHandle targetHandle payloadText =>
        obtain ⟨result, system, called, shape⟩ := returning_cases stepped
        subst shape
        exact .of_eq handedOut (ActorSystem.call_frame called).2
    | respond sourceHandle sessionId payloadText =>
        simp only [step, Except.ok.injEq] at stepped
        subst stepped
        exact .of_eq handedOut (machine.system.respond_frame _ _ _).2
    | scheduleTimeout targetHandle sessionId delay payloadText =>
        simp only [step, Except.ok.injEq] at stepped
        subst stepped
        have set : (machine.system.timers handedOut).step
            (.scheduleAfter targetHandle sessionId delay payloadText) =
              .ok ((machine.system.scheduleTimeout targetHandle sessionId
                delay payloadText).2.timers handedOut) := by
          simp only [ActorSystem.timers, ActorSystem.scheduleTimeout,
            TimerRun.step, TimerQueue.perform, TimerAnswer.firings_scheduled,
            List.append_nil]
        exact ⟨_, .single rfl set⟩
    | cancelTimeout timerId =>
        simp only [step, Except.ok.injEq] at stepped
        subst stepped
        have cancelled : (machine.system.timers handedOut).step
            (.cancel timerId) =
              .ok ((machine.system.cancelTimeout timerId).2.timers
                handedOut) := by
          simp only [ActorSystem.timers, ActorSystem.cancelTimeout,
            TimerRun.step, TimerQueue.perform, TimerAnswer.firings,
            List.append_nil]
        exact ⟨_, .single rfl cancelled⟩
    | pumpTimers now => cases timeless
    | _ => exact absurd trivial confined

/-- Pumping is one poll. -/
theorem pumpTimers_polls {now : TimePoint}
    (stepped : machine.step (.pumpTimers now) = .ok next) :
    (machine.system.timers handedOut).step (.pollExpired now) =
      .ok (next.system.timers
        (handedOut ++ machine.fires (.pumpTimers now))) := by
  obtain ⟨result, system, pumped, shape⟩ := returning_cases stepped
  subst shape
  obtain ⟨_, _, firings, polled⟩ := ActorSystem.pumpTimers_frame pumped
  simp only [ActorSystem.timers, setSystem, fires, polled, TimerRun.step,
    TimerQueue.perform, Option.map_some, TimerAnswer.firings_polled]

/-- The timer queue of a machine makes a run of timer queues. -/
theorem step_timers {action : Action}
    (stepped : machine.step action = .ok next) :
    ∃ operations, TimerRun.Reaches TimerRun.anyStep
      (machine.system.timers handedOut) operations
      (next.system.timers (handedOut ++ machine.fires action)) := by
  cases action with
  | pumpTimers now =>
      exact ⟨_, .single trivial (pumpTimers_polls handedOut stepped)⟩
  | _ =>
      obtain ⟨operations, reached⟩ := step_timeless handedOut rfl stepped
      simp only [fires, List.append_nil]
      exact ⟨operations, reached.weaken fun _ _ _ => trivial⟩

theorem step_touched {action : Action}
    (stepped : machine.step action = .ok next) :
    TimerQueue.Touched machine.system.timerQueue next.system.timerQueue
      action.reads := by
  cases action with
  | pumpTimers now =>
      exact TimerRun.step_touched (pumpTimers_polls [] stepped)
  | _ =>
      obtain ⟨operations, reached⟩ := step_timeless [] rfl stepped
      exact TimerRun.touched_of_timeless reached

/-- The run lemma of timers. -/
theorem reaches_timers {permitted : Machine → Action → Prop}
    {start final : Machine} {actions : List Action}
    (followed : Transition.Execution (Transition.returning step) permitted
      start actions final) :
    ∃ operations, TimerRun.Reaches TimerRun.anyStep
      (start.system.timers handedOut) operations
      (final.system.timers
        (handedOut ++ Transition.observations step fires start actions)) := by
  apply followed.observed_invariant fires fun _ events current =>
    ∃ operations, TimerRun.Reaches TimerRun.anyStep
      (start.system.timers handedOut) operations
      (current.system.timers (handedOut ++ events))
  · rw [List.append_nil]
    exact ⟨[], .nil⟩
  · rintro _ events current action next ⟨operations, before⟩ _ stepped
    obtain ⟨more, after⟩ := step_timers (handedOut ++ events) stepped
    rw [List.append_assoc] at after
    exact ⟨operations ++ more, before.trans after⟩

/-- An actor system with its timeouts. -/
def timed : TimedSystem Machine Action Fault where
  step := step
  queue := fun machine => machine.system.timerQueue
  reads := Action.reads
  schedule := .scheduleTimeout
  initial := new
  fresh := fun _ => rfl
  silent := fun _ _ _ _ => rfl
  touches := fun _ _ _ stepped => step_touched stepped

end Machine

/-- Neither a timer queue nor an actor system fires a timer early, counted from
the time the last poll before the schedule call had reached. -/
theorem timers_never_early :
    TimerRun.timed.NeverEarly ∧ Machine.timed.NeverEarly :=
  ⟨TimerRun.timed.never_early, Machine.timed.never_early⟩

/-- A timer of 3 ms, set at the construction and handed out after 5 ms. -/
theorem timers_never_early_fromStart :
    ∃ firings next,
      ((TimerQueue.new 0).scheduleAfter 1 0 3 []).2.pollFirings 5000000 =
        some (firings, next) ∧
      (∃ firing ∈ firings,
        firing.entry = (TimerQueue.new 0).newEntry 1 0 3 []) ∧
      (0 : TimePoint).toInt +
          (3 : Int64).toInt * TimerQueue.nanosecondsPerMillisecond ≤
        (5000000 : TimePoint).toInt := by
  have polled : ∃ firings next,
      ((TimerQueue.new 0).scheduleAfter 1 0 3 []).2.pollFirings 5000000 =
        some (firings, next) ∧
      ∃ firing ∈ firings,
        firing.entry = (TimerQueue.new 0).newEntry 1 0 3 [] :=
    ⟨_, _, rfl, _, List.mem_cons_self, rfl⟩
  obtain ⟨firings, next, polled, fired⟩ := polled
  obtain ⟨_, _, late⟩ := timers_never_early.1 0 [] _ .nil
  have bound := late 0 5000000 []
    { clock := 0
      read := 0
      state :=
        { queue := ((TimerQueue.new 0).scheduleAfter 1 0 3 []).2
          handedOut := [] } }
    _ 1 0 3 [] firings next (by decide) (Int64.le_refl _) rfl .nil (by decide)
    polled fired
  exact ⟨firings, next, polled, fired, bound⟩

/-- A timer of 3 ms, set 5 ms after the construction of a queue that has not
been polled since, fires at once. -/
theorem timer_fires_early :
    ∃ armed firings next,
      TimerRun.timed.Runs (Clocked.start 0 (TimerRun.new 0))
        [(5000000, .scheduleAfter 1 0 3 [])] armed ∧
      armed.clock = 5000000 ∧
      armed.state.queue.pollFirings 5000000 = some (firings, next) ∧
      (∃ firing ∈ firings,
        firing.entry = (TimerQueue.new 0).newEntry 1 0 3 []) ∧
      (5000000 : TimePoint).toInt <
        (5000000 : TimePoint).toInt +
          (3 : Int64).toInt * TimerQueue.nanosecondsPerMillisecond := by
  have set : Clocked.step TimerRun.step TimerOperation.reads
      (Clocked.start 0 (TimerRun.new 0))
      (5000000, .scheduleAfter 1 0 3 []) =
        .ok
          { clock := 5000000
            read := 0
            state :=
              { queue := ((TimerQueue.new 0).scheduleAfter 1 0 3 []).2
                handedOut := [] } } := rfl
  refine ⟨_, _, _, .single ⟨by decide, nofun⟩ set, rfl, rfl, ?_, by decide⟩
  exact ⟨_, List.mem_cons_self, rfl⟩

end Crynet
