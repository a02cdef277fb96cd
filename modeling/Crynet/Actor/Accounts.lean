import Crynet.Actor.Calls

/-!
# Requests and responses on their way

A session is opened for a request and closed by the response to it.  As long as
every service runs and only requests and responses are queued, the requests
that are waiting are those of the pending sessions, and every session opened so
far is pending, or its response is waiting, or its response has been handed to
its caller.  The books say so for every kind of session that one may count.
-/

namespace Crynet

/-- A session as its caller and its callee know it. -/
structure Ticket where
  sessionId : SessionId
  callerHandle : ServiceHandle
  calleeHandle : ServiceHandle
  deriving DecidableEq, Repr

namespace Message

/-- The session a message belongs to: a request goes to the callee, a response
to the caller. -/
def ticket (message : Message) : Ticket :=
  if message.type = .request then
    { sessionId := message.sessionId
      callerHandle := message.sourceHandle
      calleeHandle := message.targetHandle }
  else
    { sessionId := message.sessionId
      callerHandle := message.targetHandle
      calleeHandle := message.sourceHandle }

/-- A request in a session that is counted. -/
def asks (message : Message) (counted : Ticket → Bool) : Bool :=
  message.type == .request && counted message.ticket

/-- A response in a session that is counted. -/
def answers (message : Message) (counted : Ticket → Bool) : Bool :=
  message.type == .response && counted message.ticket

variable {message : Message}

private theorem asks_request (counted : Ticket → Bool)
    (request : message.type = .request) :
    message.asks counted = counted message.ticket := by
  simp [asks, request]

private theorem asks_response (counted : Ticket → Bool)
    (response : message.type = .response) :
    message.asks counted = false := by
  simp [asks, response]

private theorem answers_request (counted : Ticket → Bool)
    (request : message.type = .request) :
    message.answers counted = false := by
  simp [answers, request]

private theorem answers_response (counted : Ticket → Bool)
    (response : message.type = .response) :
    message.answers counted = counted message.ticket := by
  simp [answers, response]

end Message

/-- The sessions that are pending. -/
def SessionManager.tickets (sessions : SessionManager) : List Ticket :=
  sessions.entries.entries.map fun entry =>
    { sessionId := entry.1
      callerHandle := entry.2.callerHandle
      calleeHandle := entry.2.calleeHandle }

/-- The session whose response is handed to a service. -/
def handedTicket : Mailbox.Entry ServiceHandle Message → Option Ticket
  | .delivered handle message _ =>
      if message.type = .response then
        some
          { sessionId := message.sessionId
            callerHandle := handle
            calleeHandle := message.sourceHandle }
      else
        none
  | _ => none

namespace SessionManager

variable {sessions next : SessionManager} {sessionId : SessionId}
variable {callerHandle calleeHandle : ServiceHandle}

private theorem mem_tickets (ticket : Ticket) :
    ticket ∈ sessions.tickets ↔
      sessions.entries.lookup ticket.sessionId =
        some
          { callerHandle := ticket.callerHandle
            calleeHandle := ticket.calleeHandle } := by
  simp only [tickets, List.mem_map, ← AssociationMap.mem_entries_iff]
  constructor
  · rintro ⟨⟨sessionId, entry⟩, member, same⟩
    subst same
    exact member
  · intro member
    exact ⟨_, member, rfl⟩

/-- Pending sessions have different identifiers. -/
theorem tickets_nodup (sessions : SessionManager) :
    (sessions.tickets.map Ticket.sessionId).Nodup := by
  have distinct := sessions.entries.nodupKeys
  rw [List.NodupKeys, List.keys] at distinct
  simpa [tickets, Function.comp_def] using distinct

private theorem tickets_begun
    (begun : sessions.beginSession callerHandle calleeHandle =
      some (sessionId, next)) :
    next.tickets =
      { sessionId := sessionId
        callerHandle := callerHandle
        calleeHandle := calleeHandle } :: sessions.tickets := by
  obtain ⟨_, free, _, entries⟩ := beginSession_some begun
  rw [tickets, entries, AList.entries_insert_of_notMem
    (AssociationMap.lookup_none_iff.mp free)]
  rfl

private theorem tickets_closed {ticket : Ticket}
    (pending : sessions.entries.lookup ticket.sessionId =
      some
        { callerHandle := ticket.callerHandle
          calleeHandle := ticket.calleeHandle }) :
    sessions.tickets.Perm
      (ticket ::
        tickets
          { sessions with
            entries := sessions.entries.erase ticket.sessionId }) :=
  (AssociationMap.entries_perm_erase pending).map _

end SessionManager

namespace ActorSystem

/-- The messages of a kind in all queues. -/
def queuedCount (system : ActorSystem) (counted : Message → Bool) : Nat :=
  AssociationMap.total
    (fun service => service.queue.messages.countP counted) system.services

/-- The sessions whose responses have been handed to their callers. -/
def handed (system : ActorSystem) : List Ticket :=
  system.history.filterMap handedTicket

/-- What is left to do: the messages in the queues, and a response for each
pending session. -/
def outstanding (system : ActorSystem) : Nat :=
  system.queuedTotal + system.pendingSessions

/-- Every service runs, and nothing but requests and responses is queued. -/
structure Echoing (system : ActorSystem) : Prop where
  running : ∀ handle service, system.services.lookup handle = some service →
    service.context.state = .running
  kinds : ∀ handle service, system.services.lookup handle = some service →
    ∀ message ∈ service.queue.messages,
      message.type = .request ∨ message.type = .response

/-- The books when `opened` are all sessions to account for, and `asked` are
those whose requests are being handled. -/
structure Books (system : ActorSystem) (opened asked : List Ticket) :
    Prop where
  echoing : system.Echoing
  requests : ∀ counted,
    (system.queuedCount fun message => message.asks counted) + asked.countP counted =
      system.sessionManager.tickets.countP counted
  responses : ∀ counted,
    (system.queuedCount fun message => message.answers counted) +
        system.handed.countP counted +
        system.sessionManager.tickets.countP counted =
      opened.countP counted

/-- One queue is changed, and nothing else in the slots. -/
structure Requeues (system next : ActorSystem) (handle : ServiceHandle)
    (service changed : ServiceSlot) : Prop where
  found : system.services.lookup handle = some service
  services : next.services = system.services.insert handle changed
  context : changed.context = service.context

variable {system next : ActorSystem} {opened asked : List Ticket}

theorem queuedTotal_eq (system : ActorSystem) :
    system.queuedTotal = system.queuedCount fun _ => true := by
  simp only [queuedTotal, queuedCount, List.countP_true]
  rfl

theorem pendingSessions_eq (system : ActorSystem) :
    system.pendingSessions = system.sessionManager.tickets.length := by
  simp [pendingSessions, SessionManager.size, SessionManager.tickets]

theorem queuedCount_eq_zero (drained : ∀ handle, system.queued handle = [])
    (counted : Message → Bool) : system.queuedCount counted = 0 := by
  apply AssociationMap.total_eq_zero_iff.mpr
  intro handle service found
  have empty := drained handle
  simp only [queued, found] at empty
  rw [empty, List.countP_nil]

namespace Requeues

variable {handle : ServiceHandle} {service changed : ServiceSlot}

private theorem queuedCount (requeues : system.Requeues next handle service changed)
    (counted : Message → Bool) :
    next.queuedCount counted + service.queue.messages.countP counted =
      system.queuedCount counted +
        changed.queue.messages.countP counted := by
  rw [ActorSystem.queuedCount, requeues.services]
  exact AssociationMap.total_replace _ requeues.found changed

/-- What holds of all slots still does if it holds of the changed one. -/
theorem forall_slots (requeues : system.Requeues next handle service changed)
    {property : ServiceSlot → Prop}
    (before : ∀ handle service,
      system.services.lookup handle = some service → property service)
    (here : property service → property changed) :
    ∀ handle service,
      next.services.lookup handle = some service → property service := by
  intro other slot found
  rw [requeues.services, AssociationMap.lookup_insert_eq] at found
  split at found
  · cases found
    exact here (before handle service requeues.found)
  · exact before other slot found

end Requeues

/-- An accepted message joins the queue of its target. -/
theorem send_requeues {message : Message}
    (sent : (system.send message).1 = true) :
    ∃ service changed,
      system.Requeues (system.send message).2 message.targetHandle service
        changed ∧
      changed.queue.messages = service.queue.messages ++ [message] ∧
      (system.send message).2.handed = system.handed := by
  have recorded := system.send_history message
  rw [if_pos sent] at recorded
  have handed : (system.send message).2.handed = system.handed := by
    rw [ActorSystem.handed, recorded, List.filterMap_append]
    exact List.append_nil _
  rcases system.send_cases message with
    ⟨_, shape⟩ | ⟨service, found, _, accepted, shape⟩
  · rw [shape] at sent
    cases sent
  · have appended := MessageQueue.enqueue_true accepted
    rw [shape] at handed ⊢
    refine ⟨service, _, ⟨found, rfl, rfl⟩, ?_, handed⟩
    rw [MessageQueue.takeOverload_messages, appended]

/-- A message to a registered service is accepted, and joins its queue. -/
theorem Echoing.send (echoing : system.Echoing) (integral : system.Integral)
    (message : Message)
    (registered : message.targetHandle ∈ system.services)
    (kind : message.type = .request ∨ message.type = .response) :
    (system.send message).1 = true ∧ (system.send message).2.Echoing ∧
      (∀ counted, (system.send message).2.queuedCount counted =
        system.queuedCount counted + if counted message then 1 else 0) ∧
      (system.send message).2.handed = system.handed := by
  obtain ⟨target, located⟩ :=
    Option.isSome_iff_exists.mp (AList.lookup_isSome.mpr registered)
  have sent : (system.send message).1 = true :=
    (integral.send_true_iff message).mpr
      ⟨target, located, echoing.running _ target located⟩
  obtain ⟨service, changed, requeues, appended, handed⟩ := send_requeues sent
  refine ⟨sent, ⟨requeues.forall_slots echoing.running ?_,
    requeues.forall_slots echoing.kinds ?_⟩, ?_, handed⟩
  · intro running
    rw [requeues.context]
    exact running
  · intro kinds other member
    rw [appended] at member
    rcases List.mem_append.mp member with old | new
    · exact kinds other old
    · rw [List.mem_singleton.mp new]
      exact kind
  · intro counted
    have moved := requeues.queuedCount counted
    rw [appended, List.countP_append, List.countP_singleton] at moved
    omega

namespace Books

/-- Nothing that the books speak of has changed. -/
theorem aside (books : system.Books opened asked)
    (services : next.services = system.services)
    (sessionManager : next.sessionManager = system.sessionManager)
    (handed : next.handed = system.handed) : next.Books opened asked := by
  have queued : next.queuedCount = system.queuedCount := by
    funext counted
    rw [ActorSystem.queuedCount, services]
    rfl
  refine ⟨⟨?_, ?_⟩, ?_, ?_⟩
  · rw [services]
    exact books.echoing.running
  · rw [services]
    exact books.echoing.kinds
  · rw [queued, sessionManager]
    exact books.requests
  · rw [queued, sessionManager, handed]
    exact books.responses

/-- A call opens a session and sends the request. -/
theorem call (books : system.Books opened asked)
    (integral : system.Integral) {sourceHandle targetHandle : ServiceHandle}
    {payloadText : Text} {result : Option SessionId}
    (called : system.call sourceHandle targetHandle payloadText =
      some (result, next)) :
    result = none ∧ next = system ∨
      ∃ sessionId, result = some sessionId ∧
        next.Books
          (opened ++
            [{ sessionId := sessionId
               callerHandle := sourceHandle
               calleeHandle := targetHandle }]) asked ∧
        next.sessionManager.tickets =
          { sessionId := sessionId
            callerHandle := sourceHandle
            calleeHandle := targetHandle } :: system.sessionManager.tickets ∧
        next.handed = system.handed ∧
        next.outstanding = system.outstanding + 2 := by
  rcases call_cases called with
    ⟨_, failed, same⟩ | ⟨known, sessionId, sessions, begun, returned, shape⟩
  · exact Or.inl ⟨failed, same⟩
  · right
    have begins : { system with sessionManager := sessions }.Integral :=
      integral.step (.opened known.1 known.2 begun)
    have echoing : { system with sessionManager := sessions }.Echoing :=
      ⟨books.echoing.running, books.echoing.kinds⟩
    obtain ⟨sent, echoes, queued, handed⟩ :=
      echoing.send begins (Message.fromText .request sourceHandle targetHandle
        sessionId payloadText) known.2 (Or.inl rfl)
    have kept : next.sessionManager = sessions := by
      rw [shape]
      exact (send_keeps { system with sessionManager := sessions }
        _).sessionManager
    have tickets := SessionManager.tickets_begun begun
    rw [← kept] at tickets
    rw [← shape] at echoes queued handed
    have joined : ∀ counted, next.queuedCount counted =
        system.queuedCount counted +
          if counted (Message.fromText .request sourceHandle targetHandle
            sessionId payloadText) then 1 else 0 := queued
    have unhanded : next.handed = system.handed := handed
    refine ⟨sessionId, ?_, ⟨echoes, ?_, ?_⟩, tickets, handed, ?_⟩
    · rw [returned, if_pos sent]
    · intro counted
      have before := books.requests counted
      rw [joined, tickets, List.countP_cons, Message.asks_request counted rfl]
      simp only [Message.ticket, Message.fromText, if_true]
      omega
    · intro counted
      have before := books.responses counted
      rw [joined, unhanded, tickets, List.countP_cons, List.countP_append,
        List.countP_singleton, Message.answers_request counted rfl]
      simp only [Bool.false_eq_true, if_false]
      omega
    · rw [outstanding, outstanding, queuedTotal_eq, queuedTotal_eq,
        pendingSessions_eq, pendingSessions_eq, tickets, joined]
      simp only [if_true, List.length_cons]
      omega

/-- A response joins a queue and its session is closed. -/
theorem answered {ticket : Ticket} (books : system.Books opened [ticket])
    (pending : system.sessionManager.entries.lookup ticket.sessionId =
      some
        { callerHandle := ticket.callerHandle
          calleeHandle := ticket.calleeHandle })
    {response : Message} (kind : response.type = .response)
    (session : response.ticket = ticket) (echoing : next.Echoing)
    (queued : ∀ counted, next.queuedCount counted =
      system.queuedCount counted + if counted response then 1 else 0)
    (handed : next.handed = system.handed)
    (sessionManager : next.sessionManager =
      { system.sessionManager with
        entries := system.sessionManager.entries.erase ticket.sessionId }) :
    next.Books opened [] ∧ next.outstanding = system.outstanding := by
  have closed := SessionManager.tickets_closed pending
  rw [← sessionManager] at closed
  refine ⟨⟨echoing, ?_, ?_⟩, ?_⟩
  · intro counted
    have before := books.requests counted
    rw [closed.countP_eq, List.countP_singleton, List.countP_cons] at before
    rw [queued, Message.asks_response counted kind, List.countP_nil]
    simp only [Bool.false_eq_true, if_false]
    omega
  · intro counted
    have before := books.responses counted
    rw [closed.countP_eq, List.countP_cons] at before
    rw [queued, Message.answers_response counted kind, session, handed]
    omega
  · have fewer := closed.length_eq
    rw [List.length_cons] at fewer
    rw [outstanding, outstanding, queuedTotal_eq, queuedTotal_eq,
      pendingSessions_eq, pendingSessions_eq, queued, fewer]
    simp only [if_true]
    omega

/-- `respond` answers a request that is being handled. -/
theorem respond {ticket : Ticket} (books : system.Books opened [ticket])
    (integral : system.Integral) (payloadText : Text) :
    (system.respond ticket.calleeHandle ticket.sessionId
        payloadText).2.Books opened [] ∧
      (system.respond ticket.calleeHandle ticket.sessionId
        payloadText).2.outstanding = system.outstanding := by
  have known : ticket ∈ system.sessionManager.tickets := by
    have asked := books.requests fun other => other == ticket
    have counted : 0 < system.sessionManager.tickets.countP
        fun other => other == ticket := by
      rw [← asked]
      simp
    obtain ⟨other, member, same⟩ := List.countP_pos_iff.mp counted
    rw [← eq_of_beq same]
    exact member
  have pending := (SessionManager.mem_tickets ticket).mp known
  have found := SessionManager.lookupRequester_some_iff.mpr pending
  obtain ⟨sent, echoing, queued, handed⟩ :=
    books.echoing.send integral (Message.fromText .response
      ticket.calleeHandle ticket.callerHandle ticket.sessionId payloadText)
      (integral.sessions _ _ pending).1 (Or.inr rfl)
  rcases system.respond_cases ticket.calleeHandle ticket.sessionId
      payloadText with ⟨unknown, _⟩ | ⟨requesterHandle, known, answer⟩
  · rw [found] at unknown
    cases unknown
  · rw [found, Option.some.injEq] at known
    subst known
    rcases answer with ⟨refused, _⟩ | ⟨_, shape⟩
    · rw [sent] at refused
      cases refused
    · rw [shape]
      exact books.answered pending rfl rfl ⟨echoing.running, echoing.kinds⟩
        queued handed rfl

/-- A service is handed the first message of its queue. -/
theorem take (books : system.Books opened []) (integral : system.Integral)
    {handle : ServiceHandle} {service changed : ServiceSlot}
    {message : Message} {running : Bool}
    (requeues : system.Requeues next handle service changed)
    (taken : service.queue.messages = message :: changed.queue.messages)
    (sessionManager : next.sessionManager = system.sessionManager)
    (history : next.history =
      system.history ++ [.delivered handle message running]) :
    next.Books opened
        (if message.type = .request then [message.ticket] else []) ∧
      next.outstanding + 1 = system.outstanding := by
  have member : message ∈ service.queue.messages := by
    rw [taken]
    exact List.mem_cons_self
  have addressed := integral.addressed handle service requeues.found message
    member
  have kind := books.echoing.kinds handle service requeues.found message
    member
  have queued : ∀ counted, next.queuedCount counted +
      (if counted message then 1 else 0) = system.queuedCount counted := by
    intro counted
    have moved := requeues.queuedCount counted
    rw [taken, List.countP_cons] at moved
    omega
  refine ⟨⟨⟨requeues.forall_slots books.echoing.running ?_,
    requeues.forall_slots books.echoing.kinds ?_⟩, ?_, ?_⟩, ?_⟩
  · intro running
    rw [requeues.context]
    exact running
  · intro kinds other later
    apply kinds other
    rw [taken]
    exact List.mem_cons_of_mem _ later
  · intro counted
    have before := books.requests counted
    have waiting := queued fun message => message.asks counted
    rw [List.countP_nil] at before
    rw [sessionManager]
    rcases kind with request | response
    · rw [Message.asks_request counted request] at waiting
      rw [if_pos request, List.countP_singleton]
      omega
    · rw [Message.asks_response counted response] at waiting
      simp only [response, reduceCtorEq, if_false, List.countP_nil,
        Bool.false_eq_true] at waiting ⊢
      omega
  · intro counted
    have before := books.responses counted
    have waiting := queued fun message => message.answers counted
    rw [handed, history, List.filterMap_append, List.countP_append,
      sessionManager]
    rw [handed] at before
    rcases kind with request | response
    · have none : handedTicket (.delivered handle message running) = none := by
        simp [handedTicket, request]
      rw [Message.answers_request counted request] at waiting
      simp only [Bool.false_eq_true, if_false] at waiting
      rw [List.filterMap_cons_none none, List.filterMap_nil, List.countP_nil]
      omega
    · have some : handedTicket (.delivered handle message running) =
          some message.ticket := by
        simp [handedTicket, Message.ticket, response, addressed]
      rw [Message.answers_response counted response] at waiting
      rw [List.filterMap_cons_some some, List.filterMap_nil,
        List.countP_singleton]
      omega
  · have fewer := queued fun _ => true
    rw [outstanding, outstanding, queuedTotal_eq, queuedTotal_eq,
      pendingSessions_eq, pendingSessions_eq, sessionManager]
    simp only [if_true] at fewer
    omega

end Books

end ActorSystem

end Crynet
