import Crynet.Actor.Threading

/-!
# What operations leave alone

Sending and dispatching touch neither the registry nor the sessions nor the
timers, and only registering moves the handle counter.
-/

namespace Crynet

/-- Registry, sessions and timers are as they were. -/
structure ActorSystem.Keeps (system next : ActorSystem) : Prop where
  handleRegistry : next.handleRegistry = system.handleRegistry
  sessionManager : next.sessionManager = system.sessionManager
  timerQueue : next.timerQueue = system.timerQueue

namespace ActorSystem

variable {system next final : ActorSystem}

theorem Keeps.refl (system : ActorSystem) : system.Keeps system :=
  ⟨rfl, rfl, rfl⟩

theorem Keeps.trans (first : system.Keeps next) (second : next.Keeps final) :
    system.Keeps final :=
  ⟨second.handleRegistry.trans first.handleRegistry,
    second.sessionManager.trans first.sessionManager,
    second.timerQueue.trans first.timerQueue⟩

theorem send_keeps (system : ActorSystem) (message : Message) :
    system.Keeps (system.send message).2 := by
  rcases system.send_cases message with ⟨_, shape⟩ | ⟨_, _, _, _, shape⟩
  · rw [shape]
    exact ⟨rfl, rfl, rfl⟩
  · rw [shape]
    exact ⟨rfl, rfl, rfl⟩

private theorem stopService_keeps (system : ActorSystem) (handle : ServiceHandle) :
    system.Keeps (system.stopService handle).2 := by
  rcases system.stopService_cases handle with shape | ⟨_, _, shape⟩
  · rw [shape]
    exact .refl system
  · rw [shape]
    exact ⟨rfl, rfl, rfl⟩

private theorem keeps_threads : Threads Keeps where
  refl := .refl
  trans := .trans

private theorem injectTimers_keeps (system : ActorSystem) (messages : List Message) :
    system.Keeps (system.injectTimers messages).2 :=
  keeps_threads.injectTimers send_keeps (fun _ _ => ⟨rfl, rfl, rfl⟩) system
    messages

theorem registerService_timerQueue {serviceName : Text}
    {result : Option ServiceHandle}
    (performed : system.registerService serviceName = some (result, next)) :
    next.timerQueue = system.timerQueue := by
  obtain ⟨_, _, _, ⟨_, shape⟩ | ⟨_, _, _, shape⟩⟩ :=
    registerService_cases performed
  · rw [shape]
  · rw [shape]
    rfl

theorem call_frame {sourceHandle targetHandle : ServiceHandle}
    {payloadText : Text} {result : Option SessionId}
    (called : system.call sourceHandle targetHandle payloadText =
      some (result, next)) :
    next.handleRegistry = system.handleRegistry ∧
      next.timerQueue = system.timerQueue := by
  rcases call_cases called with
    ⟨_, _, same⟩ | ⟨_, sessionId, sessions, _, _, shape⟩
  · rw [same]
    exact ⟨rfl, rfl⟩
  · have sent := send_keeps { system with sessionManager := sessions }
      (Message.fromText .request sourceHandle targetHandle sessionId
        payloadText)
    rw [shape]
    exact ⟨sent.handleRegistry, sent.timerQueue⟩

theorem respond_frame (system : ActorSystem) (sourceHandle : ServiceHandle)
    (sessionId : SessionId) (payloadText : Text) :
    (system.respond sourceHandle sessionId payloadText).2.handleRegistry =
        system.handleRegistry ∧
      (system.respond sourceHandle sessionId payloadText).2.timerQueue =
        system.timerQueue := by
  rcases system.respond_cases sourceHandle sessionId payloadText with
    ⟨_, shape⟩ | ⟨requesterHandle, _, answered⟩
  · rw [shape]
    exact ⟨rfl, rfl⟩
  · have sent := system.send_keeps
      (Message.fromText .response sourceHandle requesterHandle sessionId
        payloadText)
    rcases answered with ⟨_, shape⟩ | ⟨_, shape⟩
    · rw [shape]
      exact ⟨sent.handleRegistry, sent.timerQueue⟩
    · rw [shape]
      exact ⟨sent.handleRegistry, sent.timerQueue⟩

/-- Pumping polls the timers once; what follows is sending. -/
theorem pumpTimers_frame {now : TimePoint} {delivered : Nat}
    (pumped : system.pumpTimers now = some (delivered, next)) :
    next.handleRegistry = system.handleRegistry ∧
      next.sessionManager = system.sessionManager ∧
      ∃ firings, system.timerQueue.pollFirings now =
        some (firings, next.timerQueue) := by
  obtain ⟨messages, timers, polled, injected⟩ := pumpTimers_cases pumped
  have kept := injectTimers_keeps { system with timerQueue := timers }
    messages
  rw [injected] at kept
  refine ⟨kept.handleRegistry, kept.sessionManager, ?_⟩
  rw [kept.timerQueue]
  obtain ⟨⟨firings, queue⟩, found, same⟩ := Option.map_eq_some_iff.mp polled
  obtain ⟨_, rfl⟩ := Prod.mk.inj same
  exact ⟨firings, found⟩

theorem continueBatch_keeps (system : ActorSystem) (batch : Batch)
    (service : ServiceSlot) :
    system.Keeps (system.continueBatch batch service).2 := by
  unfold continueBatch
  split
  · split
    · exact ⟨rfl, rfl, rfl⟩
    · simp only
      split <;> exact ⟨rfl, rfl, rfl⟩
  · exact ⟨rfl, rfl, rfl⟩

theorem startBatch_keeps (system : ActorSystem) (maxMessagesPerService : Nat)
    (observed : Bool) (caller : Caller) :
    system.Keeps
      (system.startBatch maxMessagesPerService observed caller).2 := by
  unfold startBatch
  split
  · exact .refl system
  · split
    · exact ⟨rfl, rfl, rfl⟩
    · rename_i scheduler _ _ _ _
      have acquired : system.Keeps { system with scheduler := scheduler } :=
        ⟨rfl, rfl, rfl⟩
      exact acquired.trans (continueBatch_keeps _ _ _)

theorem releaseService_registry (system : ActorSystem)
    (handle : ServiceHandle) :
    system.handleRegistry.Shrinks
      (system.releaseService handle).2.handleRegistry := by
  rcases system.releaseService_cases handle with
    ⟨_, shape⟩ | ⟨service, _, shape⟩
  · rw [shape]
    exact .of_eq rfl
  · rw [shape]
    exact HandleRegistry.unregister_shrinks _ handle

private theorem registry_threads : Threads fun system next =>
    system.handleRegistry.Shrinks next.handleRegistry where
  refl := fun _ => .of_eq rfl
  trans := .trans

private theorem keeps_dispatches : Dispatches Keeps where
  toThreads := keeps_threads
  starts := startBatch_keeps
  continues := fun system batch service _ =>
    system.continueBatch_keeps batch service
  records := fun _ _ _ => ⟨rfl, rfl, rfl⟩

end ActorSystem

namespace Machine

open ActorSystem (Keeps)

variable {machine next : Machine}

private theorem onContext_keeps {method : ServiceContext → ServiceContext}
    (called : machine.onContext method = .ok next) :
    machine.system.Keeps next.system := by
  obtain ⟨_, _, _, _, _, shape⟩ := onContext_cases called
  rw [shape]
  exact ⟨rfl, rfl, rfl⟩

end Machine

/-- Actions that touch neither the registry nor the sessions nor the timers. -/
def Action.Confined : Action → Prop
  | .registerService _ => False
  | .releaseService _ => False
  | .shutdown => False
  | .call _ _ _ => False
  | .respond _ _ _ => False
  | .scheduleTimeout _ _ _ _ => False
  | .cancelTimeout _ => False
  | .pumpTimers _ => False
  | _ => True

namespace Machine

open ActorSystem (keeps_dispatches registry_threads)

variable {machine next : Machine}

theorem step_keeps {action : Action} (confined : action.Confined)
    (stepped : machine.step action = .ok next) :
    machine.system.Keeps next.system := by
  cases action with
  | send message =>
      simp only [step, Except.ok.injEq] at stepped
      subst stepped
      exact machine.system.send_keeps message
  | stopService handle =>
      simp only [step, Except.ok.injEq] at stepped
      subst stepped
      exact machine.system.stopService_keeps handle
  | dispatchBatch maxMessagesPerService observed =>
      simp only [step, Except.ok.injEq] at stepped
      subst stepped
      exact launch_related keeps_dispatches _ _ _ _ _
  | runUntilIdle maxBatches maxMessagesPerService =>
      exact runUntilIdle_related keeps_dispatches stepped
  | dispatchOnce =>
      simp only [step, Except.ok.injEq] at stepped
      subst stepped
      exact launch_related keeps_dispatches _ _ _ _ _
  | initializeContext =>
      simp only [step] at stepped
      exact onContext_keeps stepped
  | startContext =>
      simp only [step] at stepped
      exact onContext_keeps stepped
  | stopContext =>
      simp only [step] at stepped
      exact onContext_keeps stepped
  | releaseContext =>
      simp only [step] at stepped
      exact onContext_keeps stepped
  | returns => exact resume_related keeps_dispatches stepped
  | throws => exact unwind_related keeps_dispatches stepped
  | _ => exact absurd confined id

/-- Only registering adds a handle. -/
theorem step_registry {action : Action}
    (other : ∀ serviceName, action ≠ .registerService serviceName)
    (stepped : machine.step action = .ok next) :
    machine.system.handleRegistry.Shrinks next.system.handleRegistry := by
  by_cases confined : action.Confined
  · exact .of_eq (step_keeps confined stepped).handleRegistry
  · cases action with
    | registerService serviceName => exact absurd rfl (other serviceName)
    | releaseService handle =>
        simp only [step, Except.ok.injEq] at stepped
        subst stepped
        exact machine.system.releaseService_registry handle
    | shutdown =>
        simp only [step, Except.ok.injEq] at stepped
        subst stepped
        exact registry_threads.releaseEach
          ActorSystem.releaseService_registry _ machine
    | call sourceHandle targetHandle payloadText =>
        obtain ⟨result, system, called, shape⟩ := returning_cases stepped
        subst shape
        exact .of_eq (ActorSystem.call_frame called).1
    | respond sourceHandle sessionId payloadText =>
        simp only [step, Except.ok.injEq] at stepped
        subst stepped
        exact .of_eq (machine.system.respond_frame _ _ _).1
    | scheduleTimeout targetHandle sessionId delay payloadText =>
        simp only [step, Except.ok.injEq] at stepped
        subst stepped
        exact .of_eq rfl
    | cancelTimeout timerId =>
        simp only [step, Except.ok.injEq] at stepped
        subst stepped
        exact .of_eq rfl
    | pumpTimers now =>
        obtain ⟨result, system, pumped, shape⟩ := returning_cases stepped
        subst shape
        exact .of_eq (ActorSystem.pumpTimers_frame pumped).1
    | _ => exact absurd trivial confined

end Machine

end Crynet
