import Crynet.Actor.Changes

/-!
# Referential integrity

Slots, the two registry maps, the sessions and the queues name each other's
services.  They agree after every operation, which makes one branch of `send`
unreachable and a failed registration harmless.
-/

namespace Crynet

namespace ActorSystem

/-- The stores refer to registered services only, and say the same of them. -/
structure Integral (system : ActorSystem) : Prop where
  registered : ∀ handle, handle ∈ system.services ↔
    handle ∈ system.handleRegistry.handleToName
  nonzero : 0 ∉ system.services
  identity : ∀ handle service, system.services.lookup handle = some service →
    service.context.handle = handle ∧ service.queue.ownerHandle = handle ∧
      system.handleRegistry.handleToName.lookup handle =
        some service.context.serviceName
  inverse : ∀ name handle,
    system.handleRegistry.nameToHandle.lookup name = some handle ↔
      name ≠ [] ∧
        system.handleRegistry.handleToName.lookup handle = some name
  addressed : ∀ handle service, system.services.lookup handle = some service →
    ∀ message ∈ service.queue.messages, message.targetHandle = handle
  sessions : ∀ sessionId entry,
    system.sessionManager.entries.lookup sessionId = some entry →
      entry.callerHandle ∈ system.services ∧
        entry.calleeHandle ∈ system.services

variable {system next : ActorSystem}

/-- A queue is owned by the service of its slot, so its messages are. -/
theorem addressed_of_identity
    (identity : ∀ handle service,
      system.services.lookup handle = some service →
        service.queue.ownerHandle = handle)
    (handle : ServiceHandle) (service : ServiceSlot)
    (found : system.services.lookup handle = some service) :
    ∀ message ∈ service.queue.messages, message.targetHandle = handle := by
  intro message member
  rw [service.queue.owned message member]
  exact identity handle service found

theorem new_integral (now : TimePoint) : (new now).Integral where
  registered := fun _ => Iff.rfl
  nonzero := AList.notMem_empty 0
  identity := by
    intro handle service found
    cases found
  inverse := by
    intro name handle
    constructor
    · intro found
      cases found
    · rintro ⟨_, found⟩
      cases found
  addressed := by
    intro handle service found
    cases found
  sessions := by
    intro sessionId entry found
    cases found

namespace Integral

theorem aside (integral : system.Integral) (same : system.SameStores next) :
    next.Integral := by
  refine ⟨?_, ?_, ?_, ?_, ?_, ?_⟩
  · rw [same.services, same.handleToName]
    exact integral.registered
  · rw [same.services]
    exact integral.nonzero
  · rw [same.services, same.handleToName]
    exact integral.identity
  · rw [same.nameToHandle, same.handleToName]
    exact integral.inverse
  · rw [same.services]
    exact integral.addressed
  · rw [same.services, same.sessionManager]
    exact integral.sessions

theorem slot (integral : system.Integral) {handle : ServiceHandle}
    {service changed : ServiceSlot}
    (found : system.services.lookup handle = some service)
    (succeeds : changed.Succeeds service)
    (services : next.services = system.services.insert handle changed)
    (handleRegistry : next.handleRegistry = system.handleRegistry)
    (sessionManager : next.sessionManager = system.sessionManager) :
    next.Integral := by
  have present := AssociationMap.mem_of_lookup found
  have members : ∀ other, other ∈ next.services ↔ other ∈ system.services := by
    intro other
    rw [services]
    exact AssociationMap.mem_insert_of_mem present
  have identity : ∀ other candidate,
      next.services.lookup other = some candidate →
        candidate.context.handle = other ∧
          candidate.queue.ownerHandle = other ∧
          next.handleRegistry.handleToName.lookup other =
            some candidate.context.serviceName := by
    intro other candidate located
    rw [services, AssociationMap.lookup_insert_eq] at located
    rw [handleRegistry]
    split at located
    · rename_i same
      subst same
      cases located
      rw [succeeds.handle, succeeds.ownerHandle, succeeds.serviceName]
      exact integral.identity other service found
    · exact integral.identity other candidate located
  refine ⟨?_, ?_, identity, ?_, ?_, ?_⟩
  · intro other
    rw [members, handleRegistry]
    exact integral.registered other
  · rw [members]
    exact integral.nonzero
  · rw [handleRegistry]
    exact integral.inverse
  · exact addressed_of_identity fun other candidate located =>
      (identity other candidate located).2.1
  · intro sessionId entry pending
    rw [sessionManager] at pending
    rw [members, members]
    exact integral.sessions sessionId entry pending

theorem added (integral : system.Integral)
    {registry allocated : HandleRegistry} {context : ServiceContext}
    (allocation : system.handleRegistry.allocate =
      some (context.handle, allocated))
    (registered : allocated.registerService context = (true, registry)) :
    (system.addService registry context.handle context).Integral := by
  obtain ⟨nonzero, _, counter⟩ := HandleRegistry.allocate_some allocation
  obtain ⟨_, free, _, handles⟩ :=
    HandleRegistry.registerService_true registered
  obtain ⟨handleToName, _⟩ := HandleRegistry.registerService_maps registered
  have inverse : registry.Inverse := by
    apply HandleRegistry.registerService_inverse _ registered
    rw [counter]
    exact integral.inverse
  rw [counter] at free handles handleToName
  have fresh : context.handle ∉ system.services := by
    rw [integral.registered]
    exact free
  have services :
      (system.addService registry context.handle context).services =
        system.services.insert context.handle
          { context := context
            queue := MessageQueue.ofOwner context.handle } :=
    AssociationMap.emplace_of_notMem fresh _
  have identity : ∀ other candidate,
      (system.addService registry context.handle context).services.lookup
          other = some candidate →
        candidate.context.handle = other ∧
          candidate.queue.ownerHandle = other ∧
          registry.handleToName.lookup other =
            some candidate.context.serviceName := by
    intro other candidate located
    rw [services, AssociationMap.lookup_insert_eq] at located
    rw [handleToName, AssociationMap.lookup_insert_eq]
    split at located
    · rename_i same
      subst same
      cases located
      exact ⟨rfl, rfl, if_pos rfl⟩
    · rename_i different
      rw [if_neg different]
      exact integral.identity other candidate located
  refine ⟨?_, ?_, identity, inverse, ?_, ?_⟩
  · intro other
    rw [services, AList.mem_insert, integral.registered]
    exact (handles other).symm
  · rw [services, AList.mem_insert, not_or]
    exact ⟨nonzero.symm, integral.nonzero⟩
  · exact addressed_of_identity fun other candidate located =>
      (identity other candidate located).2.1
  · intro sessionId entry pending
    obtain ⟨caller, callee⟩ := integral.sessions sessionId entry pending
    rw [services, AList.mem_insert, AList.mem_insert]
    exact ⟨Or.inr caller, Or.inr callee⟩

theorem removed (integral : system.Integral) (handle : ServiceHandle)
    (service : ServiceSlot) :
    (system.removeService handle service).Integral := by
  have identity : ∀ other candidate,
      (system.services.erase handle).lookup other = some candidate →
        candidate.context.handle = other ∧
          candidate.queue.ownerHandle = other ∧
          (system.handleRegistry.unregister handle).2.handleToName.lookup
            other = some candidate.context.serviceName := by
    intro other candidate located
    rw [AssociationMap.lookup_erase_eq] at located
    rw [HandleRegistry.lookup_unregister]
    split at located
    · cases located
    · rename_i different
      rw [if_neg different]
      exact integral.identity other candidate located
  refine ⟨?_, ?_, identity, ?_, ?_, ?_⟩
  · intro other
    simp only [removeService, AList.mem_erase, HandleRegistry.mem_unregister,
      integral.registered]
  · intro member
    exact integral.nonzero (AList.mem_erase.mp member).2
  · exact HandleRegistry.unregister_inverse integral.inverse handle
  · exact addressed_of_identity fun other candidate located =>
      (identity other candidate located).2.1
  · intro sessionId entry pending
    obtain ⟨kept, stranger⟩ :=
      (SessionManager.lookup_cancelForHandle handle entry).mp pending
    obtain ⟨caller, callee⟩ := integral.sessions sessionId entry kept
    have different : ¬(entry.callerHandle = handle ∨
        entry.calleeHandle = handle) := by
      rw [← SessionManager.involves_iff, stranger]
      exact Bool.false_ne_true
    rw [not_or] at different
    exact ⟨AList.mem_erase.mpr ⟨different.1, caller⟩,
      AList.mem_erase.mpr ⟨different.2, callee⟩⟩

theorem opened (integral : system.Integral) {sessions : SessionManager}
    {sessionId : SessionId} {callerHandle calleeHandle : ServiceHandle}
    (caller : callerHandle ∈ system.services)
    (callee : calleeHandle ∈ system.services)
    (begun : system.sessionManager.beginSession callerHandle calleeHandle =
      some (sessionId, sessions)) :
    Integral { system with sessionManager := sessions } := by
  obtain ⟨_, _, _, entries⟩ := SessionManager.beginSession_some begun
  refine ⟨integral.registered, integral.nonzero, integral.identity,
    integral.inverse, integral.addressed, ?_⟩
  intro other entry pending
  simp only [entries, AssociationMap.lookup_insert_eq] at pending
  split at pending
  · cases pending
    exact ⟨caller, callee⟩
  · exact integral.sessions other entry pending

theorem closed (integral : system.Integral) {sessionId : SessionId}
    {responderHandle requesterHandle : ServiceHandle}
    (pending : system.sessionManager.lookupRequester sessionId
      responderHandle = some requesterHandle) :
    Integral
      { system with
        sessionManager :=
          (system.sessionManager.complete sessionId responderHandle).2 } := by
  refine ⟨integral.registered, integral.nonzero, integral.identity,
    integral.inverse, integral.addressed, ?_⟩
  intro other entry remaining
  simp only [SessionManager.complete_of_pending pending,
    AssociationMap.lookup_erase_eq] at remaining
  split at remaining
  · cases remaining
  · exact integral.sessions other entry remaining

/-- The step lemma: every change keeps the stores integral. -/
theorem step (integral : system.Integral) (change : system.Change next) :
    next.Integral := by
  cases change with
  | aside same => exact integral.aside same
  | slot found succeeds services handleRegistry sessionManager =>
      exact integral.slot found succeeds services handleRegistry
        sessionManager
  | added allocation registered => exact integral.added allocation registered
  | removed _ => exact integral.removed _ _
  | opened caller callee begun => exact integral.opened caller callee begun
  | closed pending => exact integral.closed pending

theorem of_changes (integral : system.Integral)
    (changes : system.Changes next) : next.Integral := by
  induction changes with
  | refl => exact integral
  | tail _ change induction => exact induction.step change

/-- With stores that agree, a queue accepts what `send` offers it. -/
theorem enqueue_accepts (integral : system.Integral) {message : Message}
    {service : ServiceSlot}
    (found : system.services.lookup message.targetHandle = some service) :
    (service.queue.enqueue message).1 = true := by
  apply (MessageQueue.enqueue_addressed _).1
  exact (integral.identity _ _ found).2.1.symm

/-- So `send` asks whether the target is registered and running. -/
theorem send_true_iff (integral : system.Integral) (message : Message) :
    (system.send message).1 = true ↔
      ∃ service,
        system.services.lookup message.targetHandle = some service ∧
          service.context.state = .running := by
  rcases system.send_cases message with
    ⟨refused, shape⟩ | ⟨service, found, running, _, shape⟩
  · rw [shape]
    constructor
    · intro sent
      cases sent
    · rintro ⟨service, found, running⟩
      have accepted := integral.enqueue_accepts found
      rw [refused service found
        (service.context.isRunning_iff.mpr running)] at accepted
      cases accepted
  · rw [shape]
    exact iff_of_true rfl
      ⟨service, found, service.context.isRunning_iff.mp running⟩

end Integral

end ActorSystem

namespace Machine

variable {machine : Machine}
variable {now : TimePoint} {actions : List Action}

/-- The run lemma of integrity. -/
theorem reaches_integral {permitted : Machine → Action → Prop}
    (reached : Reaches permitted now actions machine) :
    machine.system.Integral := by
  apply reached.invariant fun current => current.system.Integral
  · exact ActorSystem.new_integral now
  · intro current action next integral _ stepped
    exact integral.of_changes (step_changes stepped)

/-- After every operation the stores agree; so a message is sent exactly to a
registered running service, a name that is found belongs to a service, and a
registration that fails has moved nothing but the handle counter. -/
theorem stores_agree (reached : Reaches Unrestricted now actions machine) :
    machine.system.Integral ∧
      (∀ message service,
        machine.system.services.lookup message.targetHandle = some service →
          (service.queue.enqueue message).1 = true) ∧
      (∀ message, (machine.system.send message).1 = true ↔
        ∃ service,
          machine.system.services.lookup message.targetHandle =
              some service ∧
            service.context.state = .running) ∧
      (∀ serviceName handle,
        machine.system.findServiceHandle serviceName = some handle →
          ∃ state, machine.system.serviceState handle = some state) ∧
      ∀ serviceName next,
        machine.system.registerService serviceName = some (none, next) →
          ∃ counter, next =
            { machine.system with
              handleRegistry :=
                { machine.system.handleRegistry with
                  nextHandle := counter } } := by
  have integral := reaches_integral reached
  refine ⟨integral, ?_, integral.send_true_iff, ?_, ?_⟩
  · intro message service found
    exact integral.enqueue_accepts found
  · intro serviceName handle known
    obtain ⟨_, named⟩ := (integral.inverse serviceName handle).mp known
    have registered := AssociationMap.mem_of_lookup named
    obtain ⟨service, found⟩ := Option.isSome_iff_exists.mp
      (AList.lookup_isSome.mpr ((integral.registered handle).mpr registered))
    exact ⟨service.context.state, by simp [ActorSystem.serviceState, found]⟩
  · intro serviceName next failed
    obtain ⟨handle, allocated, allocation, shape⟩ :=
      ActorSystem.registerService_cases failed
    obtain ⟨_, _, counter⟩ := HandleRegistry.allocate_some allocation
    rcases shape with ⟨_, same⟩ | ⟨impossible, _⟩
    · exact ⟨handle + 1, by rw [same, counter]⟩
    · cases impossible

/-- Two services, one of them stopped, a session between them and a name that
is taken. -/
theorem stores_agree_twoServices :
    ∃ machine, Reaches Unrestricted 0
        [.registerService [97], .registerService [98], .call 1 2 [],
          .stopService 2] machine ∧
      machine.system.Integral ∧
      (machine.system.send { targetHandle := 1 }).1 = true ∧
      (machine.system.send { targetHandle := 2 }).1 = false := by
  have ran : ∃ machine, Transition.runSteps step (new 0)
      [.registerService [97], .registerService [98], .call 1 2 [],
        .stopService 2] = .ok machine ∧
      (machine.system.send { targetHandle := 1 }).1 = true ∧
      (machine.system.send { targetHandle := 2 }).1 = false :=
    ⟨_, rfl, rfl, rfl⟩
  obtain ⟨machine, ran, sent⟩ := ran
  have reached : Reaches Unrestricted 0
      [.registerService [97], .registerService [98], .call 1 2 [],
        .stopService 2] machine :=
    Transition.Execution.ofRunSteps ran fun _ _ _ => trivial
  exact ⟨machine, reached, (stores_agree reached).1, sent⟩

end Machine

end Crynet
