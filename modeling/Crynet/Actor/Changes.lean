import Crynet.Actor.Frames
import Mathlib.Logic.Relation

/-!
# What operations do to the stores

Slots, names and sessions change in a few ways, whatever the operation: a slot
is rewritten but stays the slot of the same service, a service is added or
removed with everything that belongs to it, a session is opened or closed.
Every operation and every step of the machine is a sequence of such changes, so
an invariant of the stores needs one case for each of them.
-/

namespace Crynet

/-- A later slot of the same service. -/
structure ServiceSlot.Succeeds (changed service : ServiceSlot) : Prop where
  handle : changed.context.handle = service.context.handle
  serviceName : changed.context.serviceName = service.context.serviceName
  ownerHandle : changed.queue.ownerHandle = service.queue.ownerHandle

namespace ActorSystem

/-- Slots, names and sessions are as they were. -/
structure SameStores (system next : ActorSystem) : Prop where
  services : next.services = system.services
  handleToName :
    next.handleRegistry.handleToName = system.handleRegistry.handleToName
  nameToHandle :
    next.handleRegistry.nameToHandle = system.handleRegistry.nameToHandle
  sessionManager : next.sessionManager = system.sessionManager

/-- One change to the stores.  What scheduler, timers, metrics and history do
meanwhile is left open where it does not matter. -/
inductive Change (system : ActorSystem) : ActorSystem → Prop where
  | aside {next : ActorSystem} (same : system.SameStores next) :
      Change system next
  | slot {next : ActorSystem} {handle : ServiceHandle}
      {service changed : ServiceSlot}
      (found : system.services.lookup handle = some service)
      (succeeds : changed.Succeeds service)
      (services : next.services = system.services.insert handle changed)
      (handleRegistry : next.handleRegistry = system.handleRegistry)
      (sessionManager : next.sessionManager = system.sessionManager) :
      Change system next
  | added {registry allocated : HandleRegistry} {context : ServiceContext}
      (allocation : system.handleRegistry.allocate =
        some (context.handle, allocated))
      (registered : allocated.registerService context = (true, registry)) :
      Change system (system.addService registry context.handle context)
  | removed {handle : ServiceHandle} {service : ServiceSlot}
      (found : system.services.lookup handle = some service) :
      Change system (system.removeService handle service)
  | opened {sessions : SessionManager} {sessionId : SessionId}
      {callerHandle calleeHandle : ServiceHandle}
      (caller : callerHandle ∈ system.services)
      (callee : calleeHandle ∈ system.services)
      (begun : system.sessionManager.beginSession callerHandle calleeHandle =
        some (sessionId, sessions)) :
      Change system { system with sessionManager := sessions }
  | closed {sessionId : SessionId}
      {responderHandle requesterHandle : ServiceHandle}
      (pending : system.sessionManager.lookupRequester sessionId
        responderHandle = some requesterHandle) :
      Change system
        { system with
          sessionManager :=
            (system.sessionManager.complete sessionId responderHandle).2 }

abbrev Changes : ActorSystem → ActorSystem → Prop :=
  Relation.ReflTransGen Change

variable {system next : ActorSystem}

theorem SameStores.changes (same : system.SameStores next) :
    system.Changes next :=
  .single (.aside same)

theorem send_changes (system : ActorSystem) (message : Message) :
    system.Changes (system.send message).2 := by
  rcases system.send_cases message with
    ⟨_, shape⟩ | ⟨service, found, _, accepted, shape⟩
  · rw [shape]
    exact SameStores.changes ⟨rfl, rfl, rfl, rfl⟩
  · have owner : (service.queue.enqueue message).2.ownerHandle =
        service.queue.ownerHandle := by
      apply (MessageQueue.enqueue_addressed _).2.2
      by_contra misaddressed
      rw [MessageQueue.enqueue_misaddressed misaddressed] at accepted
      cases accepted
    rw [shape]
    refine .single (.slot found ?_ rfl rfl rfl)
    refine ⟨rfl, rfl, ?_⟩
    rw [MessageQueue.takeOverload_ownerHandle, owner]

private theorem changes_threads : Threads Changes where
  refl := fun _ => .refl
  trans := .trans

private theorem injectTimers_changes (system : ActorSystem)
    (messages : List Message) :
    system.Changes (system.injectTimers messages).2 :=
  changes_threads.injectTimers send_changes
    (fun _ _ => SameStores.changes ⟨rfl, rfl, rfl, rfl⟩) system messages

private theorem pumpTimers_changes {now : TimePoint} {delivered : Nat}
    (pumped : system.pumpTimers now = some (delivered, next)) :
    system.Changes next := by
  obtain ⟨messages, timers, _, injected⟩ := pumpTimers_cases pumped
  have polled : system.Changes { system with timerQueue := timers } :=
    SameStores.changes ⟨rfl, rfl, rfl, rfl⟩
  have sent := injectTimers_changes { system with timerQueue := timers }
    messages
  rw [injected] at sent
  exact polled.trans sent

theorem registerService_changes {serviceName : Text}
    {result : Option ServiceHandle}
    (performed : system.registerService serviceName = some (result, next)) :
    system.Changes next := by
  obtain ⟨handle, allocated, allocation, shape⟩ :=
    registerService_cases performed
  obtain ⟨_, _, counter⟩ := HandleRegistry.allocate_some allocation
  rcases shape with ⟨_, shape⟩ | ⟨_, registry, registered, shape⟩
  · rw [shape, counter]
    exact SameStores.changes ⟨rfl, rfl, rfl, rfl⟩
  · rw [shape]
    exact .single (.added allocation registered)

private theorem stopService_changes (system : ActorSystem) (handle : ServiceHandle) :
    system.Changes (system.stopService handle).2 := by
  rcases system.stopService_cases handle with shape | ⟨service, found, shape⟩
  · rw [shape]
  · rw [shape]
    refine .single (.slot found ?_ rfl rfl rfl)
    exact ⟨service.context.stop_handle, service.context.stop_serviceName, rfl⟩

theorem releaseService_changes (system : ActorSystem)
    (handle : ServiceHandle) :
    system.Changes (system.releaseService handle).2 := by
  rcases system.releaseService_cases handle with
    ⟨_, shape⟩ | ⟨service, found, shape⟩
  · rw [shape]
  · rw [shape]
    exact .single (.removed found)

private theorem call_changes {sourceHandle targetHandle : ServiceHandle}
    {payloadText : Text} {result : Option SessionId}
    (called : system.call sourceHandle targetHandle payloadText =
      some (result, next)) : system.Changes next := by
  rcases call_cases called with
    ⟨_, _, same⟩ | ⟨known, sessionId, sessions, begun, _, shape⟩
  · rw [same]
  · rw [shape]
    have opened := Relation.ReflTransGen.single
      (Change.opened known.1 known.2 begun)
    exact opened.trans (send_changes _ _)

private theorem respond_changes (system : ActorSystem) (sourceHandle : ServiceHandle)
    (sessionId : SessionId) (payloadText : Text) :
    system.Changes
      (system.respond sourceHandle sessionId payloadText).2 := by
  rcases system.respond_cases sourceHandle sessionId payloadText with
    ⟨_, shape⟩ | ⟨requesterHandle, pending, ⟨_, shape⟩ | ⟨_, shape⟩⟩
  · rw [shape]
  · rw [shape]
    exact send_changes _ _
  · rw [shape]
    have sent := system.send_changes
      (Message.fromText .response sourceHandle requesterHandle sessionId
        payloadText)
    have kept := (system.send_keeps
      (Message.fromText .response sourceHandle requesterHandle sessionId
        payloadText)).sessionManager
    rw [← kept] at pending
    have closed := Relation.ReflTransGen.single (Change.closed pending)
    rw [SessionManager.complete_of_pending pending, kept] at closed
    exact sent.trans closed

private theorem continueBatch_changes {batch : Batch} {service : ServiceSlot}
    (found : system.services.lookup batch.handle = some service) :
    system.Changes (system.continueBatch batch service).2 := by
  unfold continueBatch
  split
  · split
    · exact SameStores.changes ⟨rfl, rfl, rfl, rfl⟩
    · rename_i message queue taken
      have dequeued : system.Changes (system.setService batch.handle
          { service with queue := queue }) := by
        refine .single (.slot found ?_ rfl rfl rfl)
        exact ⟨rfl, rfl, (MessageQueue.dequeue_some taken).2⟩
      simp only
      split
      · exact dequeued
      · exact dequeued.trans (SameStores.changes ⟨rfl, rfl, rfl, rfl⟩)
  · exact SameStores.changes ⟨rfl, rfl, rfl, rfl⟩

private theorem startBatch_changes (system : ActorSystem)
    (maxMessagesPerService : Nat) (observed : Bool) (caller : Caller) :
    system.Changes
      (system.startBatch maxMessagesPerService observed caller).2 := by
  unfold startBatch
  split
  · exact .refl
  · split
    · exact SameStores.changes ⟨rfl, rfl, rfl, rfl⟩
    · rename_i handle scheduler _ _ service found
      have acquired : system.Changes { system with scheduler := scheduler } :=
        SameStores.changes ⟨rfl, rfl, rfl, rfl⟩
      exact acquired.trans (continueBatch_changes found)

private theorem changes_dispatches : Dispatches Changes where
  toThreads := changes_threads
  starts := startBatch_changes
  continues := fun _ _ _ found => continueBatch_changes found
  records := fun _ _ _ => SameStores.changes ⟨rfl, rfl, rfl, rfl⟩

end ActorSystem

namespace Machine

open ActorSystem (Changes SameStores changes_threads changes_dispatches)

variable {machine next : Machine}

private theorem onContext_changes {method : ServiceContext → ServiceContext}
    (handle : ∀ context, (method context).handle = context.handle)
    (serviceName : ∀ context,
      (method context).serviceName = context.serviceName)
    (called : machine.onContext method = .ok next) :
    machine.system.Changes next.system := by
  obtain ⟨_, _, service, _, found, shape⟩ := onContext_cases called
  rw [shape]
  refine .single (.slot found ?_ rfl rfl rfl)
  exact ⟨handle service.context, serviceName service.context, rfl⟩

/-- Every step of the machine is a sequence of changes. -/
theorem step_changes {action : Action}
    (stepped : machine.step action = .ok next) :
    machine.system.Changes next.system := by
  cases action with
  | registerService serviceName =>
      obtain ⟨_, _, performed, shape⟩ := returning_cases stepped
      subst shape
      exact ActorSystem.registerService_changes performed
  | send message =>
      simp only [step, Except.ok.injEq] at stepped
      subst stepped
      exact machine.system.send_changes message
  | stopService handle =>
      simp only [step, Except.ok.injEq] at stepped
      subst stepped
      exact machine.system.stopService_changes handle
  | releaseService handle =>
      simp only [step, Except.ok.injEq] at stepped
      subst stepped
      exact machine.system.releaseService_changes handle
  | shutdown =>
      simp only [step, Except.ok.injEq] at stepped
      subst stepped
      exact changes_threads.releaseEach ActorSystem.releaseService_changes _
        machine
  | call sourceHandle targetHandle payloadText =>
      obtain ⟨_, _, called, shape⟩ := returning_cases stepped
      subst shape
      exact ActorSystem.call_changes called
  | respond sourceHandle sessionId payloadText =>
      simp only [step, Except.ok.injEq] at stepped
      subst stepped
      exact machine.system.respond_changes _ _ _
  | scheduleTimeout targetHandle sessionId delay payloadText =>
      simp only [step, Except.ok.injEq] at stepped
      subst stepped
      exact SameStores.changes ⟨rfl, rfl, rfl, rfl⟩
  | cancelTimeout timerId =>
      simp only [step, Except.ok.injEq] at stepped
      subst stepped
      exact SameStores.changes ⟨rfl, rfl, rfl, rfl⟩
  | pumpTimers now =>
      obtain ⟨_, _, pumped, shape⟩ := returning_cases stepped
      subst shape
      exact ActorSystem.pumpTimers_changes pumped
  | dispatchBatch maxMessagesPerService observed =>
      simp only [step, Except.ok.injEq] at stepped
      subst stepped
      exact launch_related changes_dispatches _ _ _ _ _
  | runUntilIdle maxBatches maxMessagesPerService =>
      exact runUntilIdle_related changes_dispatches stepped
  | dispatchOnce =>
      simp only [step, Except.ok.injEq] at stepped
      subst stepped
      exact launch_related changes_dispatches _ _ _ _ _
  | initializeContext =>
      exact onContext_changes ServiceContext.initializeContext_handle
        ServiceContext.initializeContext_serviceName stepped
  | startContext =>
      exact onContext_changes ServiceContext.start_handle
        ServiceContext.start_serviceName stepped
  | stopContext =>
      exact onContext_changes ServiceContext.stop_handle
        ServiceContext.stop_serviceName stepped
  | releaseContext =>
      exact onContext_changes ServiceContext.release_handle
        ServiceContext.release_serviceName stepped
  | returns => exact resume_related changes_dispatches stepped
  | throws => exact unwind_related changes_dispatches stepped

end Machine

end Crynet
