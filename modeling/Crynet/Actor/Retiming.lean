import Crynet.Actor.Frames

/-!
# Systems that differ in the clock of their timers

Without pending timers a poll moves the clock of the timer queue and does
nothing else, and apart from polls and from setting a timer no operation looks
at this clock.  So two systems that differ in it go on differing in it only.
-/

namespace Crynet

namespace TimerQueue

/-- No timer is pending. -/
def Vacant (queue : TimerQueue) : Prop :=
  ∀ position, queue.buckets position = []

/-- The queue with another clock. -/
def atClock (queue : TimerQueue) (point : TimePoint) (tick : UInt64) :
    TimerQueue :=
  { queue with
    currentPoint := point
    currentTick := tick }

namespace Vacant

variable {queue : TimerQueue}

theorem atClock (vacant : queue.Vacant) (point : TimePoint) (tick : UInt64) :
    (queue.atClock point tick).Vacant :=
  vacant

theorem collect (vacant : queue.Vacant) :
    queue.collectCurrentBucket = ([], queue) := by
  have empty := vacant queue.currentBucket
  have same : queue.setBucket queue.currentBucket [] = queue := by
    unfold setBucket
    rw [← empty, Function.update_eq_self]
  simp only [collectCurrentBucket, empty, same, List.map_nil, List.length_nil,
    Nat.sub_zero]

theorem advance (vacant : queue.Vacant) :
    queue.advanceTick =
      some (queue.atClock queue.currentPoint (queue.currentTick + 1)) := by
  simp only [advanceTick]
  cases carryBucket (queue.currentTick + 1) with
  | none => rfl
  | some position =>
      have empty := vacant position
      simp only [moveBucket, empty, List.length_nil, moveLoop, if_true]
      rfl

theorem pollLoop (vacant : queue.Vacant) (rounds : Nat) :
    ∃ tick, TimerQueue.pollLoop rounds queue =
      some ([], queue.atClock queue.currentPoint tick) := by
  induction rounds generalizing queue with
  | zero => exact ⟨queue.currentTick, rfl⟩
  | succ rounds induction =>
      have after := vacant.atClock queue.currentPoint (queue.currentTick + 1)
      obtain ⟨tick, rest⟩ := induction after
      refine ⟨tick, ?_⟩
      simp only [TimerQueue.pollLoop, pollRound, vacant.collect,
        vacant.advance, after.collect, rest, List.append_nil]
      rfl

/-- A poll without timers moves the clock. -/
theorem pollExpired (vacant : queue.Vacant) (now : TimePoint) :
    ∃ point tick,
      queue.pollExpired now = some ([], queue.atClock point tick) := by
  obtain ⟨tick, looped⟩ := vacant.pollLoop (queue.elapsed now)
  refine ⟨queue.currentPoint +
    Int64.ofInt (queue.elapsed now * nanosecondsPerMillisecond), tick, ?_⟩
  simp only [TimerQueue.pollExpired, pollFirings, looped, Option.map_some,
    List.map_nil]
  rfl

theorem cancel (vacant : queue.Vacant) (timerId : TimerId) :
    queue.cancel timerId = (false, queue) := by
  have none : (BucketIndex.all.find? fun position =>
      (queue.buckets position).any fun entry => entry.timerId == timerId) =
        none := by
    apply List.find?_eq_none.mpr
    intro position _
    rw [vacant position]
    exact Bool.false_ne_true
  simp only [TimerQueue.cancel, removeByTimerId, none]

end Vacant

end TimerQueue

namespace ActorSystem

/-- The system with another clock of its timers. -/
def atClock (system : ActorSystem) (point : TimePoint) (tick : UInt64) :
    ActorSystem :=
  { system with timerQueue := system.timerQueue.atClock point tick }

variable (system : ActorSystem) (point : TimePoint) (tick : UInt64)

theorem send_atClock (message : Message) :
    (system.atClock point tick).send message =
      ((system.send message).1, (system.send message).2.atClock point tick) := by
  have same : (system.atClock point tick).services = system.services := rfl
  simp only [send, same]
  cases system.services.lookup message.targetHandle with
  | none => rfl
  | some service =>
      simp only
      split
      · rfl
      · split
        · rfl
        · rfl

theorem registerService_atClock (serviceName : Text) :
    (system.atClock point tick).registerService serviceName =
      (system.registerService serviceName).map fun registered =>
        (registered.1, registered.2.atClock point tick) := by
  have same : (system.atClock point tick).handleRegistry =
      system.handleRegistry := rfl
  simp only [registerService, same]
  cases system.handleRegistry.allocate with
  | none => rfl
  | some allocation =>
      simp only
      split
      · rfl
      · split
        · rfl
        · rfl

theorem stopService_atClock (handle : ServiceHandle) :
    (system.atClock point tick).stopService handle =
      ((system.stopService handle).1,
        (system.stopService handle).2.atClock point tick) := by
  have same : (system.atClock point tick).services = system.services := rfl
  simp only [stopService, same]
  cases system.services.lookup handle with
  | none => rfl
  | some service => rfl

theorem releaseService_atClock (handle : ServiceHandle) :
    (system.atClock point tick).releaseService handle =
      ((system.releaseService handle).1,
        (system.releaseService handle).2.atClock point tick) := by
  have same : (system.atClock point tick).services = system.services := rfl
  simp only [releaseService, same]
  cases system.services.lookup handle with
  | none => rfl
  | some service => rfl

theorem call_atClock (sourceHandle targetHandle : ServiceHandle)
    (payloadText : Text) :
    (system.atClock point tick).call sourceHandle targetHandle payloadText =
      (system.call sourceHandle targetHandle payloadText).map fun called =>
        (called.1, called.2.atClock point tick) := by
  have services : (system.atClock point tick).services = system.services := rfl
  have sessions : (system.atClock point tick).sessionManager =
      system.sessionManager := rfl
  simp only [call, services, sessions]
  split
  · rfl
  · cases system.sessionManager.beginSession sourceHandle targetHandle with
    | none => rfl
    | some begun =>
        let opened : ActorSystem :=
          { system with sessionManager := begun.2 }
        let message := Message.fromText .request sourceHandle targetHandle
          begun.1 payloadText
        let answer (sent : Bool × ActorSystem) :=
          (if sent.1 then some begun.1 else none, sent.2)
        show some (answer ((opened.atClock point tick).send message)) =
          some ((answer (opened.send message)).1,
            (answer (opened.send message)).2.atClock point tick)
        rw [send_atClock]

theorem respond_atClock (sourceHandle : ServiceHandle) (sessionId : SessionId)
    (payloadText : Text) :
    (system.atClock point tick).respond sourceHandle sessionId payloadText =
      ((system.respond sourceHandle sessionId payloadText).1,
        (system.respond sourceHandle sessionId payloadText).2.atClock point
          tick) := by
  have sessions : (system.atClock point tick).sessionManager =
      system.sessionManager := rfl
  simp only [respond, sessions]
  cases system.sessionManager.lookupRequester sessionId sourceHandle with
  | none => rfl
  | some requesterHandle =>
      simp only [send_atClock]
      split
      · rfl
      · rfl

theorem cancelTimeout_atClock (timerId : TimerId) :
    (system.atClock point tick).cancelTimeout timerId =
      ((system.cancelTimeout timerId).1,
        (system.cancelTimeout timerId).2.atClock point tick) := by
  have same : (system.atClock point tick).timerQueue.buckets =
      system.timerQueue.buckets := rfl
  simp only [cancelTimeout, TimerQueue.cancel, TimerQueue.removeByTimerId,
    same]
  split
  · rfl
  · rfl

theorem continueBatch_atClock (batch : Batch) (service : ServiceSlot) :
    (system.atClock point tick).continueBatch batch service =
      ((system.continueBatch batch service).1,
        (system.continueBatch batch service).2.atClock point tick) := by
  simp only [continueBatch]
  split
  · cases service.queue.dequeue with
    | none => rfl
    | some taken =>
        simp only
        split
        · rfl
        · rfl
  · rfl

theorem startBatch_atClock (maxMessagesPerService : Nat) (observed : Bool)
    (caller : Caller) :
    (system.atClock point tick).startBatch maxMessagesPerService observed
        caller =
      ((system.startBatch maxMessagesPerService observed caller).1,
        (system.startBatch maxMessagesPerService observed caller).2.atClock
          point tick) := by
  have scheduler : (system.atClock point tick).scheduler =
      system.scheduler := rfl
  have services : (system.atClock point tick).services = system.services := rfl
  simp only [startBatch, scheduler, services]
  cases system.scheduler.acquireNext with
  | none => rfl
  | some acquisition =>
      simp only
      cases system.services.lookup acquisition.1 with
      | none => rfl
      | some service =>
          exact continueBatch_atClock
            { system with scheduler := acquisition.2 } point tick _ service

/-- Pumping without timers moves the clock. -/
theorem pumpTimers_vacant (vacant : system.timerQueue.Vacant)
    (now : TimePoint) :
    ∃ point tick,
      system.pumpTimers now = some (0, system.atClock point tick) := by
  obtain ⟨point, tick, polled⟩ := vacant.pollExpired now
  refine ⟨point, tick, ?_⟩
  simp only [pumpTimers, polled, injectTimers]
  rfl

@[simp] theorem atClock_atClock (later : TimePoint) (more : UInt64) :
    (system.atClock point tick).atClock later more =
      system.atClock later more := rfl

end ActorSystem

/-- Actions that set no timer. -/
def Action.SetsNoTimer : Action → Prop
  | .scheduleTimeout _ _ _ _ => False
  | _ => True

namespace Machine

variable {machine next : Machine}

private theorem release_vacant {system : ActorSystem}
    (vacant : system.timerQueue.Vacant) (handle : ServiceHandle) :
    (system.releaseService handle).2.timerQueue.Vacant := by
  rcases system.releaseService_cases handle with ⟨_, shape⟩ | ⟨_, _, shape⟩
  · rw [shape]
    exact vacant
  · rw [shape]
    intro position
    show (system.timerQueue.buckets position).filter _ = []
    rw [vacant position]
    rfl

/-- No step adds a timer that does not set one. -/
theorem step_vacant {action : Action} (unset : action.SetsNoTimer)
    (vacant : machine.system.timerQueue.Vacant)
    (stepped : machine.step action = .ok next) :
    next.system.timerQueue.Vacant := by
  by_cases confined : action.Confined
  · rw [(step_keeps confined stepped).timerQueue]
    exact vacant
  · cases action with
    | registerService serviceName =>
        obtain ⟨_, _, performed, shape⟩ := returning_cases stepped
        rw [shape, setSystem, ActorSystem.registerService_timerQueue performed]
        exact vacant
    | releaseService handle =>
        cases stepped
        exact release_vacant vacant handle
    | shutdown =>
        cases stepped
        have threads : ActorSystem.Threads fun system next =>
            system.timerQueue.Vacant → next.timerQueue.Vacant :=
          { refl := fun _ => id
            trans := fun first second => second ∘ first }
        exact threads.releaseEach (fun _ handle before =>
          release_vacant before handle) _ machine vacant
    | call sourceHandle targetHandle payloadText =>
        obtain ⟨_, _, called, shape⟩ := returning_cases stepped
        rw [shape, setSystem, (ActorSystem.call_frame called).2]
        exact vacant
    | respond sourceHandle sessionId payloadText =>
        cases stepped
        rw [setSystem, (machine.system.respond_frame _ _ _).2]
        exact vacant
    | scheduleTimeout targetHandle sessionId delay payloadText =>
        exact unset.elim
    | cancelTimeout timerId =>
        cases stepped
        show (machine.system.timerQueue.cancel timerId).2.Vacant
        rw [vacant.cancel]
        exact vacant
    | pumpTimers now =>
        obtain ⟨point, tick, pumped⟩ :=
          machine.system.pumpTimers_vacant vacant now
        simp only [step, returning, pumped, Except.ok.injEq] at stepped
        rw [← stepped]
        exact vacant
    | _ => exact absurd trivial confined

end Machine

end Crynet
