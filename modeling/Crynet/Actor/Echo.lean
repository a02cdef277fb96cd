import Crynet.Actor.Accounts
import Crynet.Actor.Answers
import Crynet.Actor.Exceptions
import Crynet.Actor.Slots

/-!
# Echo services

Every service answers each request with one response and does nothing else.
Then a loop of `run_until_idle` has handled, holds in its hand, or still has to
handle two messages for each call.  What is left to do decreases with every
message, whatever the handlers refill, and nothing is left when no batch finds
a message any more.
-/

namespace Crynet

/-- The sessions whose requests are in the hand of an activation. -/
def Activation.asked (activation : Activation) : List Ticket :=
  if activation.message.type = .request then [activation.message.ticket]
  else []

namespace Machine

variable {machine next : Machine}
variable {system : ActorSystem} {opened : List Ticket}
variable {maxBatches grand : Nat}
variable {now : TimePoint} {actions : List Action}

/-- `handle()` of the context that the running handler was given. -/
def ownHandle (machine : Machine) (activation : Activation) : ServiceHandle :=
  match machine.system.services.lookup activation.batch.handle with
  | none => 0
  | some service => service.context.handle

/-- What the running handler does when its service echoes. -/
def echoed (machine : Machine) (payloadText : Text) : List Action :=
  match machine.stack with
  | [] => []
  | activation :: _ =>
      if activation.message.type = .request then
        [.respond (machine.ownHandle activation) activation.message.sessionId
          payloadText, .returns]
      else
        [.returns]

/-- Let handlers echo, one after the other, until the call has returned.  The
payload of a response may depend on everything so far. -/
def echo (reply : Machine → Text) : Nat → Machine → Except Fault Machine
  | 0, machine => .ok machine
  | rounds + 1, machine =>
      if machine.stack = [] then
        .ok machine
      else
        match Transition.runSteps step machine
            (machine.echoed (reply machine)) with
        | .error fault => .error fault
        | .ok next => echo reply rounds next

/-- The sessions that `call` has returned during a run. -/
def openedSessions (machine : Machine) (actions : List Action) : List Ticket :=
  (Transition.observations step sessionEvents machine actions).filterMap
    fun event =>
      match event with
      | .called sessionId callerHandle calleeHandle =>
          some
            { sessionId := sessionId
              callerHandle := callerHandle
              calleeHandle := calleeHandle }
      | .answered _ => none

/-- Every registered service runs, and there is nothing to do. -/
structure AtRest (machine : Machine) : Prop where
  alone : machine.stack = []
  running : ∀ handle service,
    machine.system.services.lookup handle = some service →
      service.context.state = .running
  drained : ∀ handle, machine.system.queued handle = []
  settled : machine.system.pendingSessions = 0

/-- A handler runs, and no observer is called before it. -/
structure Handler (activation : Activation) : Prop where
  handling : activation.phase = .handling
  unobserved : activation.batch.observed = false
  unerased : activation.erased = false
  addressed : activation.message.targetHandle = activation.batch.handle

/-- A handler called by `run_until_idle` when `count` messages have been
handled. -/
structure Serving (maxBatches grand count : Nat) (machine : Machine)
    (activation : Activation) : Prop where
  stack : machine.stack = [activation]
  handler : Handler activation
  balance : count + 1 + machine.system.outstanding = grand
  loop : ∃ maxMessages total executed,
    activation.batch.caller =
        .untilIdle maxBatches maxMessages total executed ∧
      executed ≤ total ∧ total + activation.batch.dispatched = count

/-- `run_until_idle` has returned. -/
structure Returned (opened : List Ticket) (maxBatches grand : Nat)
    (machine : Machine) : Prop where
  stack : machine.stack = []
  books : machine.system.Books opened []
  loop : ∃ total executed,
    machine.answer = some (.idle maxBatches executed total) ∧
      executed ≤ total ∧ total + machine.system.outstanding = grand

/-- The loop of `run_until_idle` between two handlers. -/
def Underway (opened : List Ticket) (maxBatches grand count : Nat)
    (machine : Machine) : Prop :=
  (∃ activation, Serving maxBatches grand count machine activation ∧
      machine.system.Books opened activation.asked) ∨
    Returned opened maxBatches grand machine

/-- A batch goes on with the first message of its queue, or it is over. -/
theorem continueBatch_books (books : system.Books opened [])
    (integral : system.Integral) {batch : Batch} {service : ServiceSlot}
    (found : system.services.lookup batch.handle = some service)
    (unobserved : batch.observed = false) :
    (∃ activation after,
      system.continueBatch batch service = (some activation, after) ∧
        activation.batch = batch ∧ Handler activation ∧
        after.Books opened activation.asked ∧
        after.outstanding + 1 = system.outstanding) ∨
      ∃ after, system.continueBatch batch service = (none, after) ∧
        after.Books opened [] ∧ after.Integral ∧
        after.outstanding = system.outstanding := by
  have finished : (system.finishBatch batch.handle service).Books opened [] ∧
      (system.finishBatch batch.handle service).Integral ∧
      (system.finishBatch batch.handle service).outstanding =
        system.outstanding :=
    ⟨books.aside rfl rfl rfl, integral.aside ⟨rfl, rfl, rfl, rfl⟩, rfl⟩
  unfold ActorSystem.continueBatch
  split
  · cases pending : service.queue.dequeue with
    | none => exact Or.inr ⟨_, rfl, finished⟩
    | some taken =>
        obtain ⟨message, queue⟩ := taken
        simp only [unobserved, Bool.false_eq_true, if_false]
        left
        have head := (MessageQueue.dequeue_some pending).1
        have requeues : system.Requeues
            ((system.setService batch.handle
              { service with queue := queue }).invoke batch.handle
                service.context message) batch.handle service
            { service with queue := queue } := ⟨found, rfl, rfl⟩
        have addressed : message.targetHandle = batch.handle := by
          apply integral.addressed _ service found
          rw [head]
          exact List.mem_cons_self
        have took := books.take integral requeues head rfl rfl
        exact ⟨_, _, rfl, rfl, ⟨rfl, unobserved, rfl, addressed⟩, took⟩
  · exact Or.inr ⟨_, rfl, finished⟩

/-- A batch of the front of the ready queue begins in the same way. -/
theorem startBatch_books (books : system.Books opened [])
    (integral : system.Integral) (maxMessages : Nat) (caller : Caller) :
    (∃ activation after,
      system.startBatch maxMessages false caller = (some activation, after) ∧
        activation.batch.caller = caller ∧ activation.batch.dispatched = 0 ∧
        Handler activation ∧ after.Books opened activation.asked ∧
        after.outstanding + 1 = system.outstanding) ∨
      ∃ after, system.startBatch maxMessages false caller = (none, after) ∧
        after.Books opened [] ∧ after.outstanding = system.outstanding := by
  unfold ActorSystem.startBatch
  cases acquisition : system.scheduler.acquireNext with
  | none => exact Or.inr ⟨_, rfl, books, rfl⟩
  | some acquired =>
      obtain ⟨handle, scheduler⟩ := acquired
      have acquiring : { system with scheduler := scheduler }.Books opened [] :=
        books.aside rfl rfl rfl
      have agreeing : { system with scheduler := scheduler }.Integral :=
        integral.aside ⟨rfl, rfl, rfl, rfl⟩
      cases found : system.services.lookup handle with
      | none =>
          simp only [found]
          exact Or.inr ⟨_, rfl, books.aside rfl rfl rfl, rfl⟩
      | some service =>
          simp only [found]
          rcases @continueBatch_books { system with scheduler := scheduler }
            opened acquiring agreeing
            { handle := handle
              maxMessages := if maxMessages = 0 then 1 else maxMessages
              observed := false
              dispatched := 0
              caller := caller } service found rfl with
            ⟨activation, after, entered, same, handler, rest⟩ |
              ⟨after, ended, balanced, _, kept⟩
          · refine Or.inl ⟨activation, after, entered, ?_, ?_, handler, rest⟩
            · rw [same]
            · rw [same]
          · exact Or.inr ⟨after, ended, balanced, kept⟩

/-- The loop of `run_until_idle` calls `dispatch_batch`. -/
theorem launch_underway (books : system.Books opened [])
    (integral : system.Integral) {maxMessages total executed : Nat}
    (worked : executed ≤ total) (balance : total + system.outstanding = grand) :
    Underway opened maxBatches grand total
      (launch system [] maxMessages false
        (.untilIdle maxBatches maxMessages total executed)) := by
  unfold launch
  rcases startBatch_books books integral maxMessages
      (.untilIdle maxBatches maxMessages total executed) with
    ⟨activation, after, entered, caller, first, handler, balanced, fewer⟩ |
      ⟨after, ended, balanced, kept⟩
  · rw [entered]
    refine Or.inl ⟨activation, ⟨rfl, handler, ?_, maxMessages, total, executed,
      caller, worked, ?_⟩, balanced⟩
    · show total + 1 + after.outstanding = grand
      omega
    · rw [first]
      rfl
  · rw [ended]
    refine Or.inr ⟨rfl, balanced, total, executed, rfl, worked, ?_⟩
    show total + after.outstanding = grand
    rw [kept]
    exact balance

/-- A batch that has handled something gives its result to the loop. -/
theorem finish_underway (books : system.Books opened [])
    (integral : system.Integral) {batch : Batch} (some : 0 < batch.dispatched)
    {maxMessages total executed : Nat}
    (caller : batch.caller = .untilIdle maxBatches maxMessages total executed)
    (worked : executed ≤ total)
    (balance : total + batch.dispatched + system.outstanding = grand) :
    Underway opened maxBatches grand (total + batch.dispatched)
      (finish system [] batch) := by
  have positive : batch.dispatched ≠ 0 := by omega
  simp only [finish, caller, if_neg positive]
  split
  · exact launch_underway books integral (by omega) balance
  · refine Or.inr ⟨rfl, books, _, _, rfl, ?_, balance⟩
    omega

private theorem Serving.mem {count : Nat} {activation : Activation}
    (serving : Serving maxBatches grand count machine activation) :
    activation ∈ machine.stack := by
  rw [serving.stack]
  exact List.mem_cons_self

/-- A handler that has nothing left to do returns. -/
theorem Serving.returns {count : Nat} {activation : Activation}
    (serving : Serving maxBatches grand count machine activation)
    (reached : Reaches Unrestricted now actions machine)
    (books : machine.system.Books opened []) :
    ∃ next, machine.step .returns = .ok next ∧
      Underway opened maxBatches grand (count + 1) next := by
  obtain ⟨maxMessages, total, executed, caller, worked, counted⟩ :=
    serving.loop
  have handler := serving.handler
  have balance := serving.balance
  have integral := reaches_integral reached
  have registered := unerased_registered reached serving.mem handler.unerased
  obtain ⟨service, found⟩ :=
    Option.isSome_iff_exists.mp (AList.lookup_isSome.mpr registered)
  let handled : ActorSystem :=
    { machine.system with
      metrics := machine.system.metrics.onMessageDispatched
      history := machine.system.history ++
        [.handled activation.batch.handle activation.message] }
  have recorded : handled.handed = machine.system.handed := by
    simp [handled, ActorSystem.handed, handedTicket]
  have came : handled.Books opened [] := books.aside rfl rfl recorded
  have agrees : handled.Integral := integral.aside ⟨rfl, rfl, rfl, rfl⟩
  simp only [step, resume, serving.stack, handler.unerased, handler.handling,
    Bool.false_eq_true, if_false, Machine.handled, proceed, found]
  rcases @continueBatch_books handled opened came agrees
      { activation.batch with dispatched := activation.batch.dispatched + 1 }
      service found handler.unobserved with
    ⟨later, after, entered, same, handler, balanced, fewer⟩ |
      ⟨after, ended, balanced, agreed, kept⟩
  · simp only [handled] at entered
    rw [entered]
    refine ⟨_, rfl, Or.inl ⟨later, ⟨rfl, handler, ?_, maxMessages, total,
      executed, ?_, worked, ?_⟩, balanced⟩⟩
    · show count + 1 + 1 + after.outstanding = grand
      have before : handled.outstanding = machine.system.outstanding := rfl
      omega
    · rw [same]
      exact caller
    · rw [same]
      show total + (activation.batch.dispatched + 1) = count + 1
      omega
  · simp only [handled] at ended
    rw [ended]
    refine ⟨_, rfl, ?_⟩
    have before : handled.outstanding = machine.system.outstanding := rfl
    have underway := @finish_underway after opened maxBatches grand balanced
      agreed
      { activation.batch with dispatched := activation.batch.dispatched + 1 }
      (Nat.succ_pos _) maxMessages total executed caller worked (by
        show total + (activation.batch.dispatched + 1) + after.outstanding =
          grand
        omega)
    have counts : total + (activation.batch.dispatched + 1) = count + 1 := by
      omega
    rw [counts] at underway
    exact underway

/-- A handler that was given a request responds to it. -/
theorem Serving.responds {count : Nat} {activation : Activation}
    (serving : Serving maxBatches grand count machine activation)
    (reached : Reaches Unrestricted now actions machine)
    (request : activation.message.type = .request)
    (books : machine.system.Books opened activation.asked)
    (payloadText : Text) :
    ∃ next, machine.step (.respond (machine.ownHandle activation)
        activation.message.sessionId payloadText) = .ok next ∧
      Serving maxBatches grand count next activation ∧
      next.system.Books opened [] := by
  have handler := serving.handler
  have integral := reaches_integral reached
  have registered := unerased_registered reached serving.mem handler.unerased
  obtain ⟨service, found⟩ :=
    Option.isSome_iff_exists.mp (AList.lookup_isSome.mpr registered)
  have own : machine.ownHandle activation =
      activation.message.ticket.calleeHandle := by
    have named := (integral.identity _ service found).1
    simp [ownHandle, found, named, Message.ticket, request, handler.addressed]
  have session : activation.message.sessionId =
      activation.message.ticket.sessionId := by
    simp [Message.ticket, request]
  rw [Activation.asked, if_pos request] at books
  have answered := books.respond integral payloadText
  rw [own, session]
  refine ⟨_, rfl, ⟨serving.stack, handler, ?_, serving.loop⟩, answered.1⟩
  have balance := serving.balance
  show count + 1 + (machine.system.respond _ _ payloadText).2.outstanding =
    grand
  rw [answered.2]
  exact balance

private theorem echoed_harmless (machine : Machine) (payloadText : Text) :
    (machine.echoed payloadText).all Action.isHarmless = true := by
  unfold echoed
  split
  · rfl
  · split
    · rfl
    · rfl

/-- One handler of an echo service. -/
theorem Serving.turn {count : Nat} {activation : Activation}
    (serving : Serving maxBatches grand count machine activation)
    (reached : Reaches Careful now actions machine)
    (books : machine.system.Books opened activation.asked)
    (payloadText : Text) :
    ∃ next, Transition.runSteps step machine (machine.echoed payloadText) =
        .ok next ∧
      Underway opened maxBatches grand (count + 1) next ∧
      Reaches Careful now (actions ++ machine.echoed payloadText) next := by
  have anyhow : Reaches Unrestricted now actions machine :=
    reached.weaken fun _ _ _ => trivial
  by_cases request : activation.message.type = .request
  · obtain ⟨middle, responded, busy, balanced⟩ :=
      serving.responds anyhow request books payloadText
    have between : Reaches Unrestricted now
        (actions ++ [.respond (machine.ownHandle activation)
          activation.message.sessionId payloadText]) middle :=
      .snoc anyhow trivial responded
    obtain ⟨next, returned, underway⟩ := busy.returns between balanced
    have ran : Transition.runSteps step machine
        (machine.echoed payloadText) = .ok next := by
      simp only [echoed, serving.stack, if_pos request, Transition.runSteps,
        responded, returned]
    exact ⟨next, ran, underway,
      reached.trans (careful_of_runSteps ran (echoed_harmless _ _))⟩
  · rw [Activation.asked, if_neg request] at books
    obtain ⟨next, returned, underway⟩ := serving.returns anyhow books
    have ran : Transition.runSteps step machine
        (machine.echoed payloadText) = .ok next := by
      simp only [echoed, serving.stack, if_neg request, Transition.runSteps,
        returned]
    exact ⟨next, ran, underway,
      reached.trans (careful_of_runSteps ran (echoed_harmless _ _))⟩

/-- With as many rounds as messages are left, the loop comes to its end. -/
theorem Underway.echo (reply : Machine → Text) (rounds : Nat) {count : Nat}
    (underway : Underway opened maxBatches grand count machine)
    (reached : Reaches Careful now actions machine)
    (enough : grand ≤ count + rounds) :
    ∃ final more, Machine.echo reply rounds machine = .ok final ∧
      Returned opened maxBatches grand final ∧
      Reaches Careful now more final := by
  induction rounds generalizing machine count actions with
  | zero =>
      rcases underway with ⟨activation, serving, _⟩ | returned
      · have balance := serving.balance
        omega
      · exact ⟨machine, actions, rfl, returned, reached⟩
  | succ rounds induction =>
      rcases underway with ⟨activation, serving, books⟩ | returned
      · obtain ⟨next, ran, underway, later⟩ :=
          serving.turn reached books (reply machine)
        obtain ⟨final, more, went, rest⟩ :=
          induction underway later (by omega)
        refine ⟨final, more, ?_, rest⟩
        have busy : machine.stack ≠ [] := by
          rw [serving.stack]
          exact List.cons_ne_nil _ _
        rw [Machine.echo, if_neg busy, ran]
        exact went
      · refine ⟨machine, actions, ?_, returned, reached⟩
        rw [Machine.echo, if_pos returned.stack]

/-- A call, as an action. -/
def callAction : ServiceHandle × ServiceHandle × Text → Action
  | (sourceHandle, targetHandle, payloadText) =>
      .call sourceHandle targetHandle payloadText

private theorem openedSessions_cons (machine next : Machine) (action : Action)
    (actions : List Action) (stepped : machine.step action = .ok next) :
    machine.openedSessions (action :: actions) =
      machine.openedSessions [action] ++ next.openedSessions actions := by
  simp only [openedSessions, Transition.observations, stepped,
    List.append_nil, List.filterMap_append]

private theorem openedSessions_call {result : Option SessionId}
    {sourceHandle targetHandle : ServiceHandle} {payloadText : Text}
    (performed : machine.system.call sourceHandle targetHandle payloadText =
      some (result, system)) :
    machine.openedSessions
        [callAction (sourceHandle, targetHandle, payloadText)] =
      result.toList.map fun sessionId =>
        { sessionId := sessionId
          callerHandle := sourceHandle
          calleeHandle := targetHandle } := by
  have events : Transition.observations step sessionEvents machine
      [callAction (sourceHandle, targetHandle, payloadText)] =
        sessionEvents machine
          (callAction (sourceHandle, targetHandle, payloadText)) := by
    simp only [Transition.observations]
    split <;> exact List.append_nil _
  rw [openedSessions, events]
  cases result with
  | none => simp [callAction, sessionEvents, performed]
  | some sessionId => simp [callAction, sessionEvents, performed]

/-- After some calls, their sessions are pending and two messages are to be
handled for each of them. -/
theorem calls_books {calls : List (ServiceHandle × ServiceHandle × Text)}
    {start loaded : Machine} {accounts : List Ticket}
    (called : Transition.runSteps step start (calls.map callAction) =
      .ok loaded)
    (books : start.system.Books accounts [])
    (integral : start.system.Integral) :
    loaded.stack = start.stack ∧
      loaded.system.Books
        (accounts ++ start.openedSessions (calls.map callAction)) [] ∧
      loaded.system.sessionManager.tickets.Perm
        (start.openedSessions (calls.map callAction) ++
          start.system.sessionManager.tickets) ∧
      loaded.system.outstanding = start.system.outstanding +
        2 * (start.openedSessions (calls.map callAction)).length := by
  induction calls generalizing start accounts with
  | nil =>
      simp only [List.map_nil, Transition.runSteps, Except.ok.injEq] at called
      subst called
      simpa [openedSessions, Transition.observations] using books
  | cons call calls induction =>
      obtain ⟨sourceHandle, targetHandle, payloadText⟩ := call
      simp only [List.map_cons, Transition.runSteps] at called ⊢
      cases stepped : start.step
          (callAction (sourceHandle, targetHandle, payloadText)) with
      | error fault => simp [stepped] at called
      | ok next =>
          rw [stepped] at called
          rw [openedSessions_cons start next _ _ stepped]
          have agrees : next.system.Integral :=
            integral.of_changes (step_changes stepped)
          obtain ⟨result, system, performed, shape⟩ := returning_cases stepped
          subst shape
          rcases books.call integral performed with
            ⟨failed, same⟩ |
              ⟨sessionId, given, balanced, tickets, handed, more⟩
          · rw [openedSessions_call performed, failed]
            rw [same] at called agrees ⊢
            exact induction called books agrees
          · rw [openedSessions_call performed, given]
            obtain ⟨alone, accounted, pending, left⟩ :=
              induction called balanced agrees
            refine ⟨alone, ?_, ?_, ?_⟩
            · simpa using accounted
            · rw [setSystem, tickets] at pending
              exact pending.trans List.perm_middle
            · rw [left]
              show system.outstanding + _ = _
              rw [more]
              simp only [Option.toList_some, List.map_cons, List.map_nil,
                List.length_append, List.length_cons, List.length_nil]
              omega

theorem AtRest.registered (rest : machine.AtRest) {serviceName : Text}
    (stepped : machine.step (.registerService serviceName) = .ok next) :
    next.AtRest := by
  obtain ⟨_, _, performed, shape⟩ := returning_cases stepped
  subst shape
  obtain ⟨handle, _, _, ⟨_, same⟩ | ⟨_, _, _, same⟩⟩ :=
    ActorSystem.registerService_cases performed
  · subst same
    exact ⟨rest.alone, rest.running, rest.drained, rest.settled⟩
  · subst same
    refine ⟨rest.alone, ?_, ?_, rest.settled⟩
    · intro other service found
      simp only [setSystem, ActorSystem.addService,
        AssociationMap.lookup_emplace] at found
      split at found
      · exact rest.running other service found
      · split at found
        · cases found
          rfl
        · exact rest.running other service found
    · intro other
      have drained := rest.drained other
      simp only [setSystem, ActorSystem.addService, ActorSystem.queued,
        AssociationMap.lookup_emplace] at drained ⊢
      by_cases taken : handle ∈ machine.system.services
      · simpa only [if_pos taken] using drained
      · by_cases same : other = handle
        · simp only [if_neg taken, if_pos same, MessageQueue.ofOwner_messages]
        · simpa only [if_neg taken, if_neg same] using drained

/-- A system whose services have only been registered is at rest. -/
theorem atRest_of_registrations
    (reached : Reaches (fun _ action =>
      ∃ serviceName, action = .registerService serviceName) now actions
      machine) : machine.AtRest := by
  apply reached.invariant AtRest
  · refine ⟨rfl, ?_, fun _ => rfl, rfl⟩
    intro handle service found
    cases found
  · rintro current _ next rest ⟨serviceName, rfl⟩ stepped
    exact rest.registered stepped

theorem AtRest.books (rest : machine.AtRest) :
    machine.system.Books machine.system.handed [] ∧
      machine.system.sessionManager.tickets = [] ∧
      machine.system.outstanding = 0 := by
  have queued := ActorSystem.queuedCount_eq_zero rest.drained
  have settled := rest.settled
  have tickets : machine.system.sessionManager.tickets = [] := by
    rw [ActorSystem.pendingSessions_eq] at settled
    exact List.eq_nil_of_length_eq_zero settled
  refine ⟨⟨⟨rest.running, ?_⟩, ?_, ?_⟩, tickets, ?_⟩
  · intro handle service found message member
    have drained := rest.drained handle
    simp only [ActorSystem.queued, found] at drained
    rw [drained] at member
    cases member
  · intro counted
    rw [queued, tickets]
    rfl
  · intro counted
    rw [queued, tickets]
    simp
  · rw [ActorSystem.outstanding, settled, ActorSystem.queuedTotal_eq, queued]

/-- When the loop has had enough batches for all messages, nothing is left. -/
theorem Returned.nothing_left
    (returned : Returned opened maxBatches grand machine)
    (reached : Reaches Careful now actions machine)
    (enough : grand ≤ maxBatches) : machine.system.outstanding = 0 := by
  obtain ⟨total, executed, answer, worked, balance⟩ := returned.loop
  by_cases early : executed < maxBatches
  · have idle := (idle_means_idle reached answer early).2 returned.stack
    have drained : ∀ handle, machine.system.queued handle = [] := by
      intro handle
      rw [ActorSystem.queued]
      cases found : machine.system.services.lookup handle with
      | none => rfl
      | some service =>
          by_contra pending
          exact idle handle ⟨service, found,
            returned.books.echoing.running handle service found, pending⟩
    have queued := ActorSystem.queuedCount_eq_zero drained
    have requests := returned.books.requests fun _ => true
    rw [queued, List.countP_nil, List.countP_true] at requests
    rw [ActorSystem.outstanding, ActorSystem.queuedTotal_eq, queued,
      ActorSystem.pendingSessions_eq, ← requests]
  · omega

/-- Books with nothing left say that every session was answered once. -/
theorem handed_perm (books : system.Books opened [])
    (nothing : system.outstanding = 0) :
    system.pendingSessions = 0 ∧ (∀ handle, system.queued handle = []) ∧
      system.handed.Perm opened := by
  rw [ActorSystem.outstanding, Nat.add_eq_zero_iff] at nothing
  obtain ⟨unqueued, settled⟩ := nothing
  have drained : ∀ handle, system.queued handle = [] := by
    intro handle
    rw [ActorSystem.queued]
    cases found : system.services.lookup handle with
    | none => rfl
    | some service =>
        exact List.eq_nil_of_length_eq_zero
          (AssociationMap.total_eq_zero_iff.mp unqueued handle service found)
  refine ⟨settled, drained, List.perm_iff_count.mpr ?_⟩
  intro ticket
  have responses := books.responses fun other => other == ticket
  have tickets : system.sessionManager.tickets = [] := by
    rw [ActorSystem.pendingSessions_eq] at settled
    exact List.eq_nil_of_length_eq_zero settled
  rw [ActorSystem.queuedCount_eq_zero drained, tickets, List.countP_nil,
    Nat.zero_add, Nat.add_zero] at responses
  exact responses

/-- A system of echo services that has nothing to do is called any number of
times between any of its services.  One call of `run_until_idle` with two
batches for each of them then handles exactly two messages for each, and hands
each caller one response. -/
theorem echo_answers_calls {setup : List Action} {start loaded : Machine}
    {calls : List (ServiceHandle × ServiceHandle × Text)}
    (prepared : Reaches Careful now setup start) (rest : start.AtRest)
    (called : Transition.runSteps step start (calls.map callAction) =
      .ok loaded)
    (reply : Machine → Text) (maxBatches maxMessages rounds : Nat)
    (batches : 2 * (start.openedSessions (calls.map callAction)).length ≤
      maxBatches)
    (enough : 2 * (start.openedSessions (calls.map callAction)).length ≤
      rounds) :
    ∃ launched final executed,
      loaded.step (.runUntilIdle maxBatches maxMessages) = .ok launched ∧
        echo reply rounds launched = .ok final ∧ final.stack = [] ∧
        final.answer = some (.idle maxBatches executed
          (2 * (start.openedSessions (calls.map callAction)).length)) ∧
        final.system.pendingSessions = 0 ∧
        (∀ handle, final.system.queued handle = []) ∧
        final.system.scheduler.inFlightCount = 0 ∧
        ((start.openedSessions (calls.map callAction)).map
          Ticket.sessionId).Nodup ∧
        final.system.handed.Perm
          (start.system.handed ++
            start.openedSessions (calls.map callAction)) := by
  have harmless : (calls.map callAction).all Action.isHarmless = true := by
    apply List.all_eq_true.mpr
    intro action member
    obtain ⟨_, _, rfl⟩ := List.mem_map.mp member
    rfl
  have reached : Reaches Careful now (setup ++ calls.map callAction) loaded :=
    prepared.trans (careful_of_runSteps called harmless)
  obtain ⟨books, unopened, idle⟩ := rest.books
  obtain ⟨alone, accounts, pending, left⟩ :=
    calls_books called books (reaches_integral prepared)
  rw [unopened, List.append_nil] at pending
  rw [rest.alone] at alone
  rw [idle, Nat.zero_add] at left
  obtain ⟨launched, stepped, underway⟩ : ∃ launched,
      loaded.step (.runUntilIdle maxBatches maxMessages) = .ok launched ∧
        Underway
          (start.system.handed ++ start.openedSessions (calls.map callAction))
          maxBatches
          (2 * (start.openedSessions (calls.map callAction)).length) 0
          launched := by
    simp only [step]
    split
    · rw [alone]
      exact ⟨_, rfl, launch_underway accounts (reaches_integral reached)
        (Nat.le_refl 0) ((Nat.zero_add _).trans left)⟩
    · exact ⟨_, rfl, Or.inr ⟨alone, accounts, 0, 0, rfl, Nat.le_refl 0,
        (Nat.zero_add _).trans left⟩⟩
  have entered : Reaches Careful now (setup ++ calls.map callAction ++
      [.runUntilIdle maxBatches maxMessages]) launched :=
    .snoc reached (careful_of_harmless rfl) stepped
  obtain ⟨final, actions, echoed, returned, ended⟩ :=
    underway.echo reply rounds entered (by omega)
  have nothing := returned.nothing_left ended batches
  obtain ⟨total, executed, answer, _, balance⟩ := returned.loop
  rw [nothing, Nat.add_zero] at balance
  rw [balance] at answer
  obtain ⟨settled, drained, handed⟩ := handed_perm returned.books nothing
  have landed := (unwedged_of_returning
    (ended.weaken fun _ _ careful => careful.1.2) returned.stack).1
  refine ⟨launched, final, executed, stepped, echoed, returned.stack, answer,
    settled, drained, ?_, ?_, handed⟩
  · rw [WorkerScheduler.inFlightCount, landed]
    rfl
  · exact (pending.map Ticket.sessionId).nodup_iff.mp
      (SessionManager.tickets_nodup _)

/-- Two services, a call each way and a service that calls itself. -/
theorem echo_answers_calls_both :
    ∃ start loaded launched final executed,
      Transition.runSteps step start
          [.call 1 2 [112], .call 2 1 [], .call 2 2 []] = .ok loaded ∧
        start.openedSessions
            [.call 1 2 [112], .call 2 1 [], .call 2 2 []] =
          [⟨1, 1, 2⟩, ⟨2, 2, 1⟩, ⟨3, 2, 2⟩] ∧
        loaded.step (.runUntilIdle 6 2) = .ok launched ∧
        echo (fun _ => [113]) 6 launched = .ok final ∧
        final.answer = some (.idle 6 executed 6) ∧
        final.system.handed.Perm [⟨1, 1, 2⟩, ⟨2, 2, 1⟩, ⟨3, 2, 2⟩] := by
  have ran : ∃ start loaded,
      Transition.runSteps step (new 0)
          [.registerService [97], .registerService [98]] = .ok start ∧
        Transition.runSteps step start
          ([(1, 2, [112]), (2, 1, []), (2, 2, [])].map callAction) =
            .ok loaded ∧
        start.openedSessions
            ([(1, 2, [112]), (2, 1, []), (2, 2, [])].map callAction) =
          [⟨1, 1, 2⟩, ⟨2, 2, 1⟩, ⟨3, 2, 2⟩] ∧
        start.system.handed = [] :=
    ⟨_, _, rfl, rfl, rfl, rfl⟩
  obtain ⟨start, loaded, ran, called, opened, unhanded⟩ := ran
  have registered : Reaches (fun _ action =>
      ∃ serviceName, action = .registerService serviceName) 0
      [.registerService [97], .registerService [98]] start := by
    apply Transition.Execution.ofRunSteps ran
    simp
  have answered := echo_answers_calls (careful_of_runSteps ran rfl)
    (atRest_of_registrations registered) called (fun _ => [113]) 6 2 6
    (by rw [opened]; decide) (by rw [opened]; decide)
  rw [opened, unhanded] at answered
  obtain ⟨launched, final, executed, launches, echoes, _, answer, _, _, _, _,
    handed⟩ := answered
  exact ⟨start, loaded, launched, final, executed, called, opened, launches,
    echoes, answer, handed⟩

end Machine

end Crynet
