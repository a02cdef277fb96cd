import Crynet.Actor.Operations
import Crynet.Foundation.Mailbox.Ledger

/-!
# The actor system as mailboxes

The view of a system as mailboxes, the invariant that makes the view exact, and
the moves of the operations.  An operation that touches no queue and no
scheduler is no move at all.
-/

namespace Crynet

open Mailbox (Move Step)

/-- The moves a system makes are mailbox moves. -/
abbrev Moves (permitted : Mailbox.State ServiceHandle Message →
    Move ServiceHandle Message → Prop)
    (start : Mailbox.State ServiceHandle Message)
    (moves : List (Move ServiceHandle Message))
    (final : Mailbox.State ServiceHandle Message) : Prop :=
  Transition.Execution Step permitted start moves final

def ServiceSlot.box (service : ServiceSlot) : Mailbox.Box Message :=
  { running := service.context.isRunning, queue := service.queue.messages }

namespace ActorSystem

/-- The view, beside turns that the system knows nothing about. -/
def mailboxes (system : ActorSystem)
    (turns : List (Mailbox.Turn ServiceHandle Message)) :
    Mailbox.State ServiceHandle Message :=
  { box := fun handle => (system.services.lookup handle).map ServiceSlot.box
    queued := system.queuedTotal
    ready := system.scheduler.ready
    flying := system.scheduler.inFlightHandles
    turns := turns
    log := system.history }

/-- What holds between operations and while a handler runs. -/
structure Consistent (system : ActorSystem) : Prop where
  registered : ∀ handle, handle ∈ system.services ↔
    handle ∈ system.handleRegistry.handleToName
  nonzero : 0 ∉ system.services
  settled : ∀ handle service, system.services.lookup handle = some service →
    service.context.state ≠ .created ∧ service.context.state ≠ .initialized
  dispatched : system.metrics.dispatchedMessages =
    UInt64.ofNat (Mailbox.tally Mailbox.Entry.handlings system.history)
  dropped : system.metrics.droppedMessages =
    UInt64.ofNat (Mailbox.tally Mailbox.Entry.refusals system.history)

/-- Permitted moves lead from a state to the view of a consistent system. -/
structure Follows
    (permitted : Mailbox.State ServiceHandle Message →
      Move ServiceHandle Message → Prop)
    (start : Mailbox.State ServiceHandle Message) (next : ActorSystem)
    (turns : List (Mailbox.Turn ServiceHandle Message)) : Prop where
  consistent : next.Consistent
  moved : ∃ moves, Moves permitted start moves (next.mailboxes turns)

/-- A system becomes another one while the turns stay as they are. -/
abbrev Evolves
    (permitted : Mailbox.State ServiceHandle Message →
      Move ServiceHandle Message → Prop)
    (turns : List (Mailbox.Turn ServiceHandle Message))
    (system next : ActorSystem) : Prop :=
  Follows permitted (system.mailboxes turns) next turns

variable {system next : ActorSystem}
variable {turns : List (Mailbox.Turn ServiceHandle Message)}

theorem new_consistent (now : TimePoint) : (new now).Consistent where
  registered := fun _ => Iff.rfl
  nonzero := AList.notMem_empty 0
  settled := by
    intro handle service found
    cases found
  dispatched := rfl
  dropped := rfl

private theorem mem_services_of_lookup {handle : ServiceHandle}
    {service : ServiceSlot}
    (found : system.services.lookup handle = some service) :
    handle ∈ system.services :=
  AssociationMap.mem_of_lookup found

theorem present_box {handle : ServiceHandle} {service : ServiceSlot}
    (found : system.services.lookup handle = some service) :
    (system.mailboxes turns).box handle = some service.box := by
  simp [mailboxes, found]

theorem absent_box {handle : ServiceHandle}
    (missing : system.services.lookup handle = none) :
    (system.mailboxes turns).box handle = none := by
  simp [mailboxes, missing]

/-- Writing a slot back is seen as an update of its box. -/
theorem box_insert (services : AList (fun _ : ServiceHandle => ServiceSlot))
    (handle : ServiceHandle) (service : ServiceSlot) :
    (fun other => ((services.insert handle service).lookup other).map
        ServiceSlot.box) =
      Function.update (fun other => (services.lookup other).map
        ServiceSlot.box) handle (some service.box) := by
  funext other
  rw [AssociationMap.lookup_insert_eq]
  by_cases same : other = handle
  · subst same
    simp
  · simp [same]

private theorem box_erase (services : AList (fun _ : ServiceHandle => ServiceSlot))
    (handle : ServiceHandle) :
    (fun other => ((services.erase handle).lookup other).map
        ServiceSlot.box) =
      Function.update (fun other => (services.lookup other).map
        ServiceSlot.box) handle none := by
  funext other
  rw [AssociationMap.lookup_erase_eq]
  by_cases same : other = handle
  · subst same
    simp
  · simp [same]

/-- The scheduler wakes a handle as mailboxes are woken. -/
theorem ready_markReady (scheduler : WorkerScheduler)
    {handle : ServiceHandle} (nonzero : handle ≠ 0) :
    (scheduler.markReady handle).2.ready =
      Mailbox.wake scheduler.ready scheduler.inFlightHandles handle := by
  rw [WorkerScheduler.markReady_ready, Mailbox.wake]
  by_cases asleep : handle ∈ scheduler.ready ∨
      handle ∈ scheduler.inFlightHandles
  · rw [if_pos asleep, if_pos (Or.inr asleep.symm)]
  · rw [if_neg asleep, if_neg]
    intro refused
    rcases refused with zero | blocked
    · exact nonzero zero
    · exact asleep blocked.symm

namespace Consistent

theorem ne_zero (consistent : system.Consistent) {handle : ServiceHandle}
    {service : ServiceSlot}
    (found : system.services.lookup handle = some service) : handle ≠ 0 := by
  intro zero
  apply consistent.nonzero
  rw [← zero]
  exact mem_services_of_lookup found

/-- Replacing the slot of a registered service by a settled one, whatever
happens to the parts that are counted and seen elsewhere. -/
theorem setService (consistent : system.Consistent) {handle : ServiceHandle}
    {service changed : ServiceSlot}
    (found : system.services.lookup handle = some service)
    (settled : changed.context.state ≠ .created ∧
      changed.context.state ≠ .initialized) :
    (system.setService handle changed).Consistent := by
  have present := mem_services_of_lookup found
  refine ⟨?_, ?_, ?_, consistent.dispatched, consistent.dropped⟩
  · intro other
    exact (AssociationMap.mem_insert_of_mem present).trans
      (consistent.registered other)
  · intro member
    apply consistent.nonzero
    exact (AssociationMap.mem_insert_of_mem present).mp member
  · intro other candidate located
    simp only [ActorSystem.setService, AssociationMap.lookup_insert_eq]
      at located
    split at located
    · cases located
      exact settled
    · exact consistent.settled other candidate located

end Consistent

namespace Follows

variable {permitted : Mailbox.State ServiceHandle Message →
  Move ServiceHandle Message → Prop}
variable {start : Mailbox.State ServiceHandle Message}

theorem weaken
    {weaker : Mailbox.State ServiceHandle Message →
      Move ServiceHandle Message → Prop}
    (implied : ∀ state move, permitted state move → weaker state move)
    (follows : Follows permitted start next turns) :
    Follows weaker start next turns := by
  obtain ⟨moves, moved⟩ := follows.moved
  exact ⟨follows.consistent, moves, moved.weaken implied⟩

theorem trans {final : ActorSystem}
    {later : List (Mailbox.Turn ServiceHandle Message)}
    (first : Follows permitted start next turns)
    (second : Follows permitted (next.mailboxes turns) final later) :
    Follows permitted start final later := by
  obtain ⟨before, reached⟩ := first.moved
  obtain ⟨after, continued⟩ := second.moved
  exact ⟨second.consistent, before ++ after, reached.trans continued⟩

/-- A change that mailboxes do not see. -/
theorem unseen (consistent : next.Consistent)
    (same : next.mailboxes turns = start) :
    Follows permitted start next turns := by
  refine ⟨consistent, [], ?_⟩
  rw [same]
  exact .nil

/-- A single move. -/
theorem single {move : Move ServiceHandle Message}
    (consistent : next.Consistent) (allowed : permitted start move)
    (moved : Step start move (next.mailboxes turns)) :
    Follows permitted start next turns :=
  ⟨consistent, [move], .single allowed moved⟩

end Follows

/-- Moves that any operation may make. -/
abbrev Routine (_ : Mailbox.State ServiceHandle Message)
    (move : Move ServiceHandle Message) : Prop :=
  Mailbox.Ordinary move

private theorem drop_evolves (consistent : system.Consistent) (message : Message) :
    Evolves Routine turns system (system.drop message) := by
  have kept : (system.drop message).Consistent := by
    refine ⟨consistent.registered, consistent.nonzero, consistent.settled,
      ?_, ?_⟩
    · simpa [drop, MetricsSystem.onMessageDropped, Mailbox.Entry.handlings]
        using consistent.dispatched
    · simp [drop, MetricsSystem.onMessageDropped, Mailbox.Entry.refusals,
        consistent.dropped, UInt64.ofNat_add]
  have ordinary : Mailbox.Ordinary (.refuse message :
      Move ServiceHandle Message) := trivial
  exact .single kept ordinary Step.refuse

/-- A sum over the services after one of them changed. -/
theorem total_setService {handle : ServiceHandle}
    {service : ServiceSlot}
    (found : system.services.lookup handle = some service)
    (changed : ServiceSlot) :
    (system.setService handle changed).queuedTotal + service.queue.size =
      system.queuedTotal + changed.queue.size :=
  AssociationMap.total_replace _ found changed

private theorem accept_evolves (consistent : system.Consistent) {message : Message}
    {service : ServiceSlot} {queue : MessageQueue}
    (found : system.services.lookup message.targetHandle = some service)
    (running : service.context.isRunning = true)
    (appended : queue.messages = service.queue.messages ++ [message]) :
    Evolves Routine turns system
      (system.accept message service.context queue) := by
  have nonzero := consistent.ne_zero found
  have written : (system.setService message.targetHandle
      { context := service.context
        queue := queue.takeOverload.2 }).Consistent :=
    consistent.setService found (consistent.settled _ service found)
  have kept : (system.accept message service.context queue).Consistent := by
    refine ⟨written.registered, written.nonzero, written.settled, ?_, ?_⟩
    · have unchanged : (system.accept message service.context
          queue).metrics.dispatchedMessages =
            system.metrics.dispatchedMessages := by
        simp only [accept]
        split <;> simp [MetricsSystem.onQueueOverload,
          MetricsSystem.onMessageEnqueued]
      rw [unchanged, consistent.dispatched]
      simp [accept, Mailbox.Entry.handlings]
    · have unchanged : (system.accept message service.context
          queue).metrics.droppedMessages =
            system.metrics.droppedMessages := by
        simp only [accept]
        split <;> simp [MetricsSystem.onQueueOverload,
          MetricsSystem.onMessageEnqueued]
      rw [unchanged, consistent.dropped]
      simp [accept, Mailbox.Entry.refusals]
  have total := total_setService found
    { context := service.context, queue := queue.takeOverload.2 }
  have longer : ({ context := service.context
                   queue := queue.takeOverload.2 } : ServiceSlot).queue.size =
      service.queue.size + 1 := by
    simp [MessageQueue.size, appended]
  have seen : (system.accept message service.context queue).mailboxes turns =
      { system.mailboxes turns with
        box := Function.update (system.mailboxes turns).box
          message.targetHandle
          (some { service.box with
            queue := service.box.queue ++ [message] })
        queued := (system.mailboxes turns).queued + 1
        ready := Mailbox.wake (system.mailboxes turns).ready
          (system.mailboxes turns).flying message.targetHandle
        log := (system.mailboxes turns).log ++
          [.accepted message.targetHandle message] } := by
    apply Mailbox.State.ext
    · simp only [mailboxes, accept, box_insert]
      simp [ServiceSlot.box, appended]
    · show (system.setService _ _).queuedTotal = system.queuedTotal + 1
      omega
    · exact ready_markReady _ nonzero
    · exact WorkerScheduler.markReady_inFlightHandles _ _
    · rfl
    · rfl
  have ordinary : Mailbox.Ordinary
      (.accept message.targetHandle message : Move ServiceHandle Message) :=
    trivial
  apply Follows.single kept ordinary
  rw [seen]
  exact .accept (present_box found) running

theorem send_evolves (consistent : system.Consistent) (message : Message) :
    Evolves Routine turns system (system.send message).2 := by
  rcases system.send_cases message with
    ⟨_, shape⟩ | ⟨service, found, running, accepted, shape⟩
  · rw [shape]
    exact drop_evolves consistent message
  · rw [shape]
    exact accept_evolves consistent found running
      (MessageQueue.enqueue_true accepted)

/-- Sessions and timers can be replaced at will. -/
theorem unrelated_evolves
    {permitted : Mailbox.State ServiceHandle Message →
      Move ServiceHandle Message → Prop}
    (consistent : system.Consistent)
    (sessions : SessionManager) (timers : TimerQueue) :
    Evolves permitted turns system
      { system with sessionManager := sessions, timerQueue := timers } := by
  apply Follows.unseen
  · exact ⟨consistent.registered, consistent.nonzero, consistent.settled,
      consistent.dispatched, consistent.dropped⟩
  · rfl

theorem call_evolves (consistent : system.Consistent)
    {sourceHandle targetHandle : ServiceHandle} {payloadText : Text}
    {result : Option SessionId}
    (called : system.call sourceHandle targetHandle payloadText =
      some (result, next)) : Evolves Routine turns system next := by
  rcases call_cases called with ⟨_, _, same⟩ | ⟨_, _, sessions, _, _, shape⟩
  · rw [same]
    exact .unseen consistent rfl
  · rw [shape]
    have opened : Evolves Routine turns system
        { system with sessionManager := sessions } :=
      unrelated_evolves consistent sessions system.timerQueue
    exact opened.trans (send_evolves opened.consistent _)

theorem respond_evolves (consistent : system.Consistent)
    (sourceHandle : ServiceHandle) (sessionId : SessionId)
    (payloadText : Text) :
    Evolves Routine turns system
      (system.respond sourceHandle sessionId payloadText).2 := by
  rcases system.respond_cases sourceHandle sessionId payloadText with
    ⟨_, shape⟩ | ⟨requesterHandle, _, answered⟩
  · rw [shape]
    exact .unseen consistent rfl
  · have sent : Evolves Routine turns system (system.send
        (Message.fromText .response sourceHandle requesterHandle sessionId
          payloadText)).2 :=
      send_evolves consistent _
    rcases answered with ⟨_, shape⟩ | ⟨_, shape⟩
    · rw [shape]
      exact sent
    · rw [shape]
      exact sent.trans (unrelated_evolves sent.consistent _ _)

private theorem injectTimers_evolves (consistent : system.Consistent)
    (messages : List Message) :
    Evolves Routine turns system (system.injectTimers messages).2 := by
  induction messages generalizing system with
  | nil => exact .unseen consistent rfl
  | cons message messages induction =>
      have sent : Evolves Routine turns system (system.send message).2 :=
        send_evolves consistent message
      simp only [injectTimers]
      split
      · have counted : Evolves Routine turns (system.send message).2
            { (system.send message).2 with
              metrics := (system.send message).2.metrics.onTimerMessage } := by
          apply Follows.unseen
          · exact ⟨sent.consistent.registered, sent.consistent.nonzero,
              sent.consistent.settled, sent.consistent.dispatched,
              sent.consistent.dropped⟩
          · rfl
        exact (sent.trans counted).trans (induction counted.consistent)
      · exact sent.trans (induction sent.consistent)

theorem pumpTimers_evolves (consistent : system.Consistent) {now : TimePoint}
    {delivered : Nat}
    (pumped : system.pumpTimers now = some (delivered, next)) :
    Evolves Routine turns system next := by
  obtain ⟨messages, timers, _, injected⟩ := pumpTimers_cases pumped
  have polled : Evolves Routine turns system
      { system with timerQueue := timers } :=
    unrelated_evolves consistent system.sessionManager timers
  have sent : Evolves Routine turns { system with timerQueue := timers }
      ({ system with timerQueue := timers }.injectTimers messages).2 :=
    injectTimers_evolves polled.consistent messages
  rw [injected] at sent
  exact polled.trans sent

/-- Exactly one move from exactly one state. -/
abbrev Only (start : Mailbox.State ServiceHandle Message)
    (single : Move ServiceHandle Message)
    (state : Mailbox.State ServiceHandle Message)
    (move : Move ServiceHandle Message) : Prop :=
  state = start ∧ move = single

/-- Moving the handle counter is not seen. -/
theorem reserve_evolves
    {permitted : Mailbox.State ServiceHandle Message →
      Move ServiceHandle Message → Prop}
    (consistent : system.Consistent) {registry : HandleRegistry}
    (same : registry.handleToName = system.handleRegistry.handleToName) :
    Evolves permitted turns system
      { system with handleRegistry := registry } := by
  apply Follows.unseen
  · refine ⟨?_, consistent.nonzero, consistent.settled, consistent.dispatched,
      consistent.dropped⟩
    intro handle
    rw [consistent.registered handle, same]
  · rfl

/-- A new service is an empty box. -/
theorem addService_evolves (consistent : system.Consistent)
    {registry : HandleRegistry} {handle : ServiceHandle}
    {context : ServiceContext} (nonzero : handle ≠ 0)
    (fresh : handle ∉ system.handleRegistry.handleToName)
    (running : context.state = .running)
    (added : ∀ other, other ∈ registry.handleToName ↔
      other = handle ∨ other ∈ system.handleRegistry.handleToName) :
    Evolves (Only (system.mailboxes turns) (.openBox handle)) turns system
      (system.addService registry handle context) := by
  have absent : handle ∉ system.services := by
    rw [consistent.registered]
    exact fresh
  have missing : system.services.lookup handle = none :=
    AssociationMap.lookup_none_iff.mpr absent
  have emplaced := AssociationMap.emplace_of_notMem absent
    { context := context, queue := MessageQueue.ofOwner handle }
  have kept : (system.addService registry handle context).Consistent := by
    unfold addService
    rw [emplaced]
    refine ⟨?_, ?_, ?_, ?_, ?_⟩
    · intro other
      rw [AList.mem_insert, added, consistent.registered]
    · rw [AList.mem_insert, not_or]
      exact ⟨nonzero.symm, consistent.nonzero⟩
    · intro other service found
      rw [AssociationMap.lookup_insert_eq] at found
      split at found
      · cases found
        simp [running]
      · exact consistent.settled other service found
    · rw [Mailbox.tally_append, Mailbox.tally_singleton]
      exact consistent.dispatched
    · rw [Mailbox.tally_append, Mailbox.tally_singleton]
      exact consistent.dropped
  have seen : (system.addService registry handle context).mailboxes turns =
      { system.mailboxes turns with
        box := Function.update (system.mailboxes turns).box handle
          (some ⟨true, []⟩)
        log := (system.mailboxes turns).log ++ [.opened handle] } := by
    apply Mailbox.State.ext
    · simp only [mailboxes, addService, emplaced, box_insert]
      simp [ServiceSlot.box, ServiceContext.isRunning, running]
    · simp only [mailboxes, queuedTotal, addService, emplaced,
        AssociationMap.total_insert_of_notMem absent]
      simp [MessageQueue.size]
    all_goals rfl
  apply Follows.single kept ⟨rfl, rfl⟩
  rw [seen]
  exact .openBox (absent_box missing)

/-- Either no service is added, or the allocated handle gets an empty box. -/
theorem registerService_evolves (consistent : system.Consistent)
    {serviceName : Text} {result : Option ServiceHandle}
    (performed : system.registerService serviceName = some (result, next)) :
    ∃ handle allocated,
      system.handleRegistry.allocate = some (handle, allocated) ∧
        next.handleRegistry.nextHandle = allocated.nextHandle ∧
        Evolves (Only (system.mailboxes turns) (.openBox handle)) turns system
          next := by
  obtain ⟨handle, allocated, allocation, shape⟩ :=
    registerService_cases performed
  obtain ⟨nonzero, fresh, moved⟩ := HandleRegistry.allocate_some allocation
  refine ⟨handle, allocated, allocation, ?_⟩
  rcases shape with ⟨_, same⟩ | ⟨_, registry, registered, same⟩
  · rw [same]
    refine ⟨rfl, reserve_evolves consistent ?_⟩
    rw [moved]
  · obtain ⟨_, _, counter, added⟩ :=
      HandleRegistry.registerService_true registered
    rw [same]
    refine ⟨counter, addService_evolves consistent nonzero fresh rfl ?_⟩
    rw [moved] at added
    exact added

/-- A method that leaves the service not running halts its box. -/
theorem setService_halts (consistent : system.Consistent)
    {handle : ServiceHandle} {service : ServiceSlot}
    (found : system.services.lookup handle = some service)
    {context : ServiceContext} (halted : context.isRunning = false)
    (settled : context.state ≠ .created ∧ context.state ≠ .initialized) :
    Evolves (Only (system.mailboxes turns) (.halt handle)) turns system
      (system.setService handle { service with context := context }) := by
  have total := total_setService found { service with context := context }
  have seen : (system.setService handle
      { service with context := context }).mailboxes turns =
        { system.mailboxes turns with
          box := Function.update (system.mailboxes turns).box handle
            (some { service.box with running := false }) } := by
    apply Mailbox.State.ext
    · simp only [mailboxes, setService, box_insert]
      simp [ServiceSlot.box, halted]
    · show (system.setService _ _).queuedTotal = system.queuedTotal
      simp only at total
      omega
    all_goals rfl
  apply Follows.single (consistent.setService found settled) ⟨rfl, rfl⟩
  rw [seen]
  exact .halt (present_box found)

/-- A method that has no effect. -/
theorem setService_same {permitted : Mailbox.State ServiceHandle Message →
      Move ServiceHandle Message → Prop}
    (consistent : system.Consistent)
    {handle : ServiceHandle} {service : ServiceSlot}
    (found : system.services.lookup handle = some service) :
    Evolves permitted turns system (system.setService handle service) := by
  have total := total_setService found service
  apply Follows.unseen
  · exact consistent.setService found (consistent.settled _ _ found)
  · apply Mailbox.State.ext
    · simp only [mailboxes, setService, box_insert]
      apply Function.update_eq_self_iff.mpr
      simp [found]
    · show (system.setService _ _).queuedTotal = system.queuedTotal
      omega
    all_goals rfl

theorem stop_settled (context : ServiceContext)
    (settled : context.state ≠ .created ∧ context.state ≠ .initialized) :
    context.stop.state ≠ .created ∧ context.stop.state ≠ .initialized := by
  unfold ServiceContext.stop
  split
  · exact ⟨nofun, nofun⟩
  · exact settled

theorem release_settled (context : ServiceContext) :
    context.release.state ≠ .created ∧
      context.release.state ≠ .initialized :=
  ⟨ServiceState.noConfusion, ServiceState.noConfusion⟩

theorem stopService_evolves (consistent : system.Consistent)
    (handle : ServiceHandle) :
    Evolves (Only (system.mailboxes turns) (.halt handle)) turns system
      (system.stopService handle).2 := by
  rcases system.stopService_cases handle with shape | ⟨service, found, shape⟩
  · rw [shape]
    exact .unseen consistent rfl
  · rw [shape]
    apply setService_halts consistent found
    · apply Bool.eq_false_iff.mpr
      rw [ne_eq, ServiceContext.isRunning_iff]
      exact service.context.stop_not_running
    · exact stop_settled _ (consistent.settled handle service found)

private theorem removeService_consistent (consistent : system.Consistent)
    (handle : ServiceHandle) (service : ServiceSlot) :
    (system.removeService handle service).Consistent := by
  refine ⟨?_, ?_, ?_, ?_, ?_⟩
  · intro other
    simp only [removeService, AList.mem_erase, HandleRegistry.mem_unregister,
      consistent.registered]
  · intro member
    exact consistent.nonzero (AList.mem_erase.mp member).2
  · intro other candidate located
    simp only [removeService, AssociationMap.lookup_erase_eq] at located
    split at located
    · cases located
    · exact consistent.settled other candidate located
  · simpa [removeService, Mailbox.Entry.handlings]
      using consistent.dispatched
  · simpa [removeService, Mailbox.Entry.refusals] using consistent.dropped

/-- A released service is a closed box. -/
theorem removeService_follows (consistent : system.Consistent)
    {handle : ServiceHandle} {service : ServiceSlot}
    (found : system.services.lookup handle = some service) :
    Follows (Only (system.mailboxes turns) (.close handle))
      (system.mailboxes turns) (system.removeService handle service)
      (turns.map (Mailbox.Turn.closing handle)) := by
  have kept := removeService_consistent consistent handle service
  have split : system.queuedTotal =
      (system.removeService handle service).queuedTotal +
        service.queue.messages.length := by
    have total := AssociationMap.total_erase
      (fun slot => slot.queue.size) found
    simp only [queuedTotal, removeService, MessageQueue.size] at total ⊢
    omega
  have seen : (system.removeService handle service).mailboxes
      (turns.map (Mailbox.Turn.closing handle)) =
        { system.mailboxes turns with
          box := Function.update (system.mailboxes turns).box handle none
          queued := (system.removeService handle service).queuedTotal
          turns := turns.map (Mailbox.Turn.closing handle)
          log := (system.mailboxes turns).log ++
            [.closed handle service.queue.messages] } := by
    apply Mailbox.State.ext
    · exact box_erase _ _
    all_goals rfl
  apply Follows.single kept ⟨rfl, rfl⟩
  rw [seen]
  exact Step.close (present_box found) split

end ActorSystem

end Crynet
