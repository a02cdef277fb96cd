import Crynet.Actor.ActorSystem

/-!
# What each operation can do

One lemma for each operation of a system, with the ways in which it ends.  What
follows from an operation is read off its cases.
-/

namespace Crynet

namespace ActorSystem

variable {system next : ActorSystem}

/-- A message is dropped, or its target is registered and running and takes
it. -/
theorem send_cases (system : ActorSystem) (message : Message) :
    (∀ service,
        system.services.lookup message.targetHandle = some service →
        service.context.isRunning = true →
          (service.queue.enqueue message).1 = false) ∧
        system.send message = (false, system.drop message) ∨
      ∃ service,
        system.services.lookup message.targetHandle = some service ∧
        service.context.isRunning = true ∧
        (service.queue.enqueue message).1 = true ∧
        system.send message =
          (true, system.accept message service.context
            (service.queue.enqueue message).2) := by
  unfold send
  cases found : system.services.lookup message.targetHandle with
  | none => exact Or.inl ⟨nofun, rfl⟩
  | some service =>
      simp only [Option.some.injEq, forall_eq', exists_eq_left']
      cases running : service.context.isRunning with
      | false => exact Or.inl ⟨nofun, rfl⟩
      | true =>
          cases accepted : (service.queue.enqueue message).1 with
          | false => exact Or.inl ⟨fun _ => rfl, rfl⟩
          | true => exact Or.inr ⟨rfl, rfl, rfl⟩

/-- The history tells the messages `send` returned true for from the others. -/
theorem send_history (system : ActorSystem) (message : Message) :
    (system.send message).2.history =
      system.history ++
        [if (system.send message).1 then
          .accepted message.targetHandle message
        else
          .refused message] := by
  rcases system.send_cases message with ⟨_, shape⟩ | ⟨_, _, _, _, shape⟩
  · rw [shape]
    rfl
  · rw [shape]
    rfl

private theorem send_sessionManager (system : ActorSystem) (message : Message) :
    (system.send message).2.sessionManager = system.sessionManager := by
  rcases system.send_cases message with ⟨_, shape⟩ | ⟨_, _, _, _, shape⟩
  · rw [shape]
    rfl
  · rw [shape]
    rfl

/-- A registration allocates a handle, and adds a service or changes nothing
else. -/
theorem registerService_cases {serviceName : Text}
    {result : Option ServiceHandle}
    (performed : system.registerService serviceName = some (result, next)) :
    ∃ handle allocated,
      system.handleRegistry.allocate = some (handle, allocated) ∧
      (result = none ∧ next = { system with handleRegistry := allocated } ∨
        result = some handle ∧
          ∃ registry,
            allocated.registerService
              { handle := handle
                serviceName := serviceName
                state := .running } = (true, registry) ∧
            next = system.addService registry handle
              { handle := handle
                serviceName := serviceName
                state := .running }) := by
  unfold registerService at performed
  split at performed
  · cases performed
  · rename_i handle allocated allocation
    refine ⟨handle, allocated, allocation, ?_⟩
    simp only [ServiceContext.initializeContext, ServiceContext.start, ne_eq,
      not_true_eq_false, if_false, reduceCtorEq, or_self] at performed
    cases registration : allocated.registerService
        { handle := handle
          serviceName := serviceName
          state := .running } with
    | mk accepted registry =>
        rw [registration] at performed
        cases accepted with
        | false =>
            have same := HandleRegistry.registerService_false registration
            simp only [if_true, Option.some.injEq, Prod.mk.injEq] at performed
            left
            exact ⟨performed.1.symm, by rw [← performed.2, same]⟩
        | true =>
            simp only [Bool.true_eq_false, if_false, Option.some.injEq,
              Prod.mk.injEq] at performed
            right
            exact ⟨performed.1.symm, registry, rfl, performed.2.symm⟩

theorem stopService_cases (system : ActorSystem) (handle : ServiceHandle) :
    system.stopService handle = (false, system) ∨
      ∃ service, system.services.lookup handle = some service ∧
        (system.stopService handle).2 =
          system.setService handle
            { service with context := service.context.stop } := by
  unfold stopService
  cases found : system.services.lookup handle with
  | none => exact Or.inl rfl
  | some service => exact Or.inr ⟨service, rfl, rfl⟩

theorem releaseService_cases (system : ActorSystem) (handle : ServiceHandle) :
    system.services.lookup handle = none ∧
        system.releaseService handle = (false, system) ∨
      ∃ service, system.services.lookup handle = some service ∧
        system.releaseService handle =
          (true, system.removeService handle service) := by
  unfold releaseService
  cases found : system.services.lookup handle with
  | none => exact Or.inl ⟨rfl, rfl⟩
  | some service => exact Or.inr ⟨service, rfl, rfl⟩

/-- A call opens a session before it sends, or does nothing. -/
theorem call_cases {sourceHandle targetHandle : ServiceHandle}
    {payloadText : Text} {result : Option SessionId}
    (called : system.call sourceHandle targetHandle payloadText =
      some (result, next)) :
    (sourceHandle ∉ system.services ∨ targetHandle ∉ system.services) ∧
        result = none ∧ next = system ∨
      (sourceHandle ∈ system.services ∧ targetHandle ∈ system.services) ∧
        ∃ sessionId sessions,
          system.sessionManager.beginSession sourceHandle targetHandle =
            some (sessionId, sessions) ∧
          result = (if ({ system with sessionManager := sessions }.send
              (Message.fromText .request sourceHandle targetHandle sessionId
                payloadText)).1 then some sessionId else none) ∧
          next = ({ system with sessionManager := sessions }.send
            (Message.fromText .request sourceHandle targetHandle sessionId
              payloadText)).2 := by
  unfold call at called
  split at called
  · rename_i unknown
    simp only [Option.some.injEq, Prod.mk.injEq] at called
    exact Or.inl ⟨unknown, called.1.symm, called.2.symm⟩
  · rename_i known
    rw [not_or, not_not, not_not] at known
    split at called
    · cases called
    · rename_i sessionId sessions begun
      simp only [Option.some.injEq, Prod.mk.injEq] at called
      exact Or.inr ⟨known, sessionId, sessions, begun, called.1.symm,
        called.2.symm⟩

/-- A response is sent for a pending session, and closes it when accepted. -/
theorem respond_cases (system : ActorSystem) (sourceHandle : ServiceHandle)
    (sessionId : SessionId) (payloadText : Text) :
    system.sessionManager.lookupRequester sessionId sourceHandle = none ∧
        system.respond sourceHandle sessionId payloadText = (false, system) ∨
      ∃ requesterHandle,
        system.sessionManager.lookupRequester sessionId sourceHandle =
          some requesterHandle ∧
        let sent := system.send
          (Message.fromText .response sourceHandle requesterHandle sessionId
            payloadText)
        sent.1 = false ∧
            system.respond sourceHandle sessionId payloadText =
              (false, sent.2) ∨
          sent.1 = true ∧
            system.respond sourceHandle sessionId payloadText =
              (true,
                { sent.2 with
                  sessionManager :=
                    { system.sessionManager with
                      entries :=
                        system.sessionManager.entries.erase sessionId } }) := by
  unfold respond
  cases pending : system.sessionManager.lookupRequester sessionId
      sourceHandle with
  | none => exact Or.inl ⟨rfl, rfl⟩
  | some requesterHandle =>
      refine Or.inr ⟨requesterHandle, rfl, ?_⟩
      have kept := system.send_sessionManager
        (Message.fromText .response sourceHandle requesterHandle sessionId
          payloadText)
      cases accepted : (system.send
          (Message.fromText .response sourceHandle requesterHandle sessionId
            payloadText)).1 with
      | false => simp [accepted]
      | true =>
          simp [accepted, kept, SessionManager.complete_of_pending pending]

/-- Pumping polls the timers once; what follows is sending. -/
theorem pumpTimers_cases {now : TimePoint} {delivered : Nat}
    (pumped : system.pumpTimers now = some (delivered, next)) :
    ∃ messages timers,
      system.timerQueue.pollExpired now = some (messages, timers) ∧
      { system with timerQueue := timers }.injectTimers messages =
        (delivered, next) := by
  unfold pumpTimers at pumped
  split at pumped
  · cases pumped
  · rename_i messages timers polled
    exact ⟨messages, timers, polled, Option.some.inj pumped⟩

end ActorSystem

end Crynet
