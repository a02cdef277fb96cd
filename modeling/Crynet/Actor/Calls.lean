import Crynet.Actor.Integrity

/-!
# What calls and responses do

`respond` either sends one response and closes the session, or changes nothing.
`call` opens its session before it sends the request, so a request that is
refused leaves the session behind.
-/

namespace Crynet

namespace ActorSystem

/-- The messages waiting for a service. -/
def queued (system : ActorSystem) (handle : ServiceHandle) : List Message :=
  match system.services.lookup handle with
  | none => []
  | some service => service.queue.messages

/-- A registered service in state `running`. -/
def Runs (system : ActorSystem) (handle : ServiceHandle) : Prop :=
  ∃ service, system.services.lookup handle = some service ∧
    service.context.state = .running

/-- The message is the only change to the queues. -/
def Appends (system next : ActorSystem) (message : Message) : Prop :=
  ∀ handle, next.queued handle =
    if handle = message.targetHandle then system.queued handle ++ [message]
    else system.queued handle

/-- Nothing but the number of dropped messages changes. -/
structure AtMostDrops (system next : ActorSystem) : Prop where
  services : next.services = system.services
  sessionManager : next.sessionManager = system.sessionManager
  scheduler : next.scheduler = system.scheduler
  handleRegistry : next.handleRegistry = system.handleRegistry
  timerQueue : next.timerQueue = system.timerQueue
  metrics : next.metrics = system.metrics ∨
    next.metrics = system.metrics.onMessageDropped

/-- Sessions, queues and the scheduler are as they were. -/
structure NoTrace (system next : ActorSystem) : Prop where
  sessions : next.sessionManager.entries = system.sessionManager.entries
  queues : ∀ handle, next.queued handle = system.queued handle
  ready : next.scheduler.ready = system.scheduler.ready
  inFlight : next.scheduler.inFlightHandles = system.scheduler.inFlightHandles

variable {system next : ActorSystem}

/-- A message that is not accepted is dropped. -/
theorem send_false {message : Message}
    (refused : (system.send message).1 = false) :
    (system.send message).2 = system.drop message := by
  rcases system.send_cases message with ⟨_, shape⟩ | ⟨_, _, _, _, shape⟩
  · rw [shape]
  · rw [shape] at refused
    cases refused

/-- An accepted message is appended to the queue of its target. -/
theorem send_appends {message : Message}
    (sent : (system.send message).1 = true) :
    system.Appends (system.send message).2 message := by
  rcases system.send_cases message with
    ⟨_, shape⟩ | ⟨service, found, _, accepted, shape⟩
  · rw [shape] at sent
    cases sent
  · have appended := MessageQueue.enqueue_true accepted
    rw [shape]
    intro handle
    simp only [queued, accept, AssociationMap.lookup_insert_eq]
    by_cases same : handle = message.targetHandle
    · subst same
      simp [found, appended]
    · rw [if_neg same, if_neg same]

/-- A running service is not stopped by a message. -/
theorem Runs.sent {handle : ServiceHandle} (runs : system.Runs handle)
    (message : Message) : (system.send message).2.Runs handle := by
  obtain ⟨service, found, running⟩ := runs
  rcases system.send_cases message with
    ⟨_, shape⟩ | ⟨target, located, _, _, shape⟩
  · rw [shape]
    exact ⟨service, found, running⟩
  · rw [shape]
    by_cases same : handle = message.targetHandle
    · subst same
      rw [found] at located
      cases located
      exact ⟨_, AList.lookup_insert _, running⟩
    · refine ⟨service, ?_, running⟩
      rw [← found]
      exact AList.lookup_insert_ne same

private theorem Integral.send_true_iff_runs (integral : system.Integral)
    (message : Message) :
    (system.send message).1 = true ↔ system.Runs message.targetHandle :=
  integral.send_true_iff message

/-- The two ways in which `respond` ends. -/
theorem Integral.respond_spec (integral : system.Integral)
    (sourceHandle : ServiceHandle) (sessionId : SessionId)
    (payloadText : Text) :
    (∃ requesterHandle,
      system.sessionManager.entries.lookup sessionId =
        some
          { callerHandle := requesterHandle, calleeHandle := sourceHandle } ∧
      system.Runs requesterHandle ∧
      (system.respond sourceHandle sessionId payloadText).1 = true ∧
      system.Appends (system.respond sourceHandle sessionId payloadText).2
        (Message.fromText .response sourceHandle requesterHandle sessionId
          payloadText) ∧
      (system.respond sourceHandle sessionId
          payloadText).2.sessionManager.entries =
        system.sessionManager.entries.erase sessionId) ∨
    (∀ requesterHandle,
      system.sessionManager.entries.lookup sessionId =
        some
          { callerHandle := requesterHandle, calleeHandle := sourceHandle } →
      ¬system.Runs requesterHandle) ∧
      (system.respond sourceHandle sessionId payloadText).1 = false ∧
      system.AtMostDrops
        (system.respond sourceHandle sessionId payloadText).2 := by
  rcases system.respond_cases sourceHandle sessionId payloadText with
    ⟨unknown, shape⟩ | ⟨requesterHandle, pending,
      ⟨refused, shape⟩ | ⟨sent, shape⟩⟩
  · right
    rw [shape]
    refine ⟨?_, rfl, rfl, rfl, rfl, rfl, rfl, Or.inl rfl⟩
    intro requesterHandle found
    rw [SessionManager.lookupRequester_some_iff.mpr found] at unknown
    cases unknown
  · right
    have found := SessionManager.lookupRequester_some_iff.mp pending
    have dropped := send_false refused
    rw [shape, dropped]
    refine ⟨?_, rfl, rfl, rfl, rfl, rfl, rfl, Or.inr rfl⟩
    intro other again runs
    rw [found] at again
    cases again
    have accepted := (integral.send_true_iff_runs
      (Message.fromText .response sourceHandle requesterHandle sessionId
        payloadText)).mpr runs
    rw [refused] at accepted
    cases accepted
  · left
    have found := SessionManager.lookupRequester_some_iff.mp pending
    have runs := (integral.send_true_iff_runs _).mp sent
    have appended := send_appends sent
    rw [shape]
    exact ⟨requesterHandle, found, runs, rfl, appended, rfl⟩

/-- A call without result does nothing, or opens a session for a request that
is refused. -/
theorem call_none {sourceHandle targetHandle : ServiceHandle}
    {payloadText : Text}
    (failed : system.call sourceHandle targetHandle payloadText =
      some (none, next)) :
    (sourceHandle ∉ system.services ∨ targetHandle ∉ system.services) ∧
        next = system ∨
      (sourceHandle ∈ system.services ∧ targetHandle ∈ system.services) ∧
        ∃ sessionId sessions,
          system.sessionManager.beginSession sourceHandle targetHandle =
            some (sessionId, sessions) ∧
          next = { system with sessionManager := sessions }.drop
            (Message.fromText .request sourceHandle targetHandle sessionId
              payloadText) := by
  rcases call_cases failed with
    ⟨unknown, _, same⟩ | ⟨known, sessionId, sessions, begun, result, shape⟩
  · exact Or.inl ⟨unknown, same⟩
  · refine Or.inr ⟨known, sessionId, sessions, begun, ?_⟩
    rw [shape]
    apply send_false
    by_contra sent
    rw [if_pos (Bool.not_eq_false _ ▸ sent)] at result
    cases result

end ActorSystem

namespace Machine

/-- A call without result leaves no trace exactly when one of the two services
is not registered. -/
theorem call_traceless_iff {system next : ActorSystem}
    {sourceHandle targetHandle : ServiceHandle} {payloadText : Text}
    (failed : system.call sourceHandle targetHandle payloadText =
      some (none, next)) :
    system.NoTrace next ↔
      sourceHandle ∉ system.services ∨ targetHandle ∉ system.services := by
  rcases ActorSystem.call_none failed with
    ⟨unknown, same⟩ | ⟨known, sessionId, sessions, begun, shape⟩
  · rw [same]
    exact ⟨fun _ => unknown, fun _ => ⟨rfl, fun _ => rfl, rfl, rfl⟩⟩
  · obtain ⟨_, free, _, entries⟩ := SessionManager.beginSession_some begun
    constructor
    · intro traceless
      have pending := traceless.sessions
      simp only [shape, ActorSystem.drop, entries] at pending
      rw [← pending, AList.lookup_insert] at free
      cases free
    · rintro (unknown | unknown)
      · exact absurd known.1 unknown
      · exact absurd known.2 unknown

/-- A call to a service that has never been registered. -/
theorem call_traceless_unregistered :
    ∃ machine next, Reaches Unrestricted 0 [.registerService [97]] machine ∧
      machine.system.call 1 2 [] = some (none, next) ∧
      (machine.system.NoTrace next ↔
        1 ∉ machine.system.services ∨ 2 ∉ machine.system.services) := by
  have ran : ∃ machine, Transition.runSteps step (new 0)
      [.registerService [97]] = .ok machine ∧
      machine.system.call 1 2 [] = some (none, machine.system) :=
    ⟨_, rfl, rfl⟩
  obtain ⟨machine, ran, failed⟩ := ran
  have reached : Reaches Unrestricted 0 [.registerService [97]] machine :=
    Transition.Execution.ofRunSteps ran fun _ _ _ => trivial
  exact ⟨machine, machine.system, reached, failed, call_traceless_iff failed⟩

/-- The session of a call to a stopped service stays pending. -/
theorem session_left_behind :
    ∃ machine next, Reaches Unrestricted 0
        [.registerService [97], .registerService [98], .stopService 2]
        machine ∧
      machine.system.call 1 2 [] = some (none, next) ∧
      machine.system.pendingSessions = 0 ∧ next.pendingSessions = 1 ∧
      ¬machine.system.NoTrace next := by
  have ran : ∃ machine next, Transition.runSteps step (new 0)
      [.registerService [97], .registerService [98], .stopService 2] =
        .ok machine ∧
      machine.system.call 1 2 [] = some (none, next) ∧
      machine.system.pendingSessions = 0 ∧ next.pendingSessions = 1 :=
    ⟨_, _, rfl, rfl, rfl, rfl⟩
  obtain ⟨machine, next, ran, failed, before, after⟩ := ran
  have reached : Reaches Unrestricted 0
      [.registerService [97], .registerService [98], .stopService 2]
      machine :=
    Transition.Execution.ofRunSteps ran fun _ _ _ => trivial
  refine ⟨machine, next, reached, failed, before, after, ?_⟩
  intro traceless
  have same : next.pendingSessions = machine.system.pendingSessions := by
    simp only [ActorSystem.pendingSessions, SessionManager.size,
      traceless.sessions]
  rw [before, after] at same
  cases same

end Machine

end Crynet
