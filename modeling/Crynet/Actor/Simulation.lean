import Crynet.Actor.Dispatch
import Crynet.Actor.Mailboxes

/-!
# The machine simulates mailboxes

Every action that has a next state is a sequence of mailbox moves, and the
action licenses each of them: only a registration opens a box, only a stop
halts one, only a release closes one and only an exception abandons a turn.
So a restriction on actions becomes a restriction on moves, and the run lemmas
of mailboxes are run lemmas of the machine.
-/

namespace Crynet

open Mailbox (Move Step)

def Phase.hand (message : Message) : Phase → Mailbox.Hand Message
  | .observing => .held message
  | .handling => .handling message

def Activation.turn (activation : Activation) :
    Mailbox.Turn ServiceHandle Message :=
  { key := activation.batch.handle
    live := !activation.erased
    hand := activation.phase.hand activation.message }

/-- Erasing a slot closes the turns of its box. -/
theorem erase_turn (handle : ServiceHandle) (activation : Activation) :
    (activation.erase handle).turn =
      Mailbox.Turn.closing handle activation.turn := by
  unfold Activation.erase Mailbox.Turn.closing
  by_cases same : activation.batch.handle = handle
  · simp [Activation.turn, same]
  · simp [Activation.turn, same]

namespace ActorSystem

variable {system : ActorSystem}
variable {turns : List (Mailbox.Turn ServiceHandle Message)}

/-- The activation a batch goes on with, as a turn. -/
def resumed (continued : Option Activation × ActorSystem)
    (turns : List (Mailbox.Turn ServiceHandle Message)) :
    List (Mailbox.Turn ServiceHandle Message) :=
  match continued.1 with
  | none => turns
  | some activation => activation.turn :: turns

private theorem invoke_follows (consistent : system.Consistent)
    {handle : ServiceHandle} {service : ServiceSlot}
    {context : ServiceContext} {message : Message}
    (found : system.services.lookup handle = some service)
    (same : service.context = context) :
    Follows Routine
      (system.mailboxes (⟨handle, true, .held message⟩ :: turns))
      (system.invoke handle context message)
      (⟨handle, true, .handling message⟩ :: turns) := by
  subst same
  have kept : (system.invoke handle service.context message).Consistent := by
    refine ⟨consistent.registered, consistent.nonzero, consistent.settled,
      ?_, ?_⟩
    · simpa [invoke, record, Mailbox.Entry.handlings]
        using consistent.dispatched
    · simpa [invoke, record, Mailbox.Entry.refusals] using consistent.dropped
  have ordinary : Mailbox.Ordinary
      (.deliver handle message : Move ServiceHandle Message) := trivial
  apply Follows.single kept ordinary
  exact Step.deliver rfl (present_box found)

private theorem finishBatch_follows (consistent : system.Consistent)
    {handle : ServiceHandle} {service : ServiceSlot}
    (found : system.services.lookup handle = some service) :
    Follows Routine (system.mailboxes (⟨handle, true, .empty⟩ :: turns))
      (system.finishBatch handle service) turns := by
  have nonzero := consistent.ne_zero found
  have kept : (system.finishBatch handle service).Consistent :=
    ⟨consistent.registered, consistent.nonzero, consistent.settled,
      consistent.dispatched, consistent.dropped⟩
  have ordinary : Mailbox.Ordinary
      (.finish handle : Move ServiceHandle Message) := trivial
  have seen : (system.finishBatch handle service).mailboxes turns =
      { system.mailboxes (⟨handle, true, .empty⟩ :: turns) with
        ready := Mailbox.rewake service.box (system.mailboxes turns).ready
          ((system.mailboxes turns).flying.erase handle) handle
        flying := (system.mailboxes turns).flying.erase handle
        turns := turns } := by
    have again : (service.queue.empty = false ∧
        service.context.isRunning = true) ↔
          (service.box.queue ≠ [] ∧ service.box.running = true) := by
      simp [ServiceSlot.box, ← MessageQueue.empty_iff]
    apply Mailbox.State.ext
    · rfl
    · rfl
    · simp only [mailboxes, finishBatch, Mailbox.rewake, again]
      split
      · exact ready_markReady _ nonzero
      · rfl
    · simp only [mailboxes, finishBatch]
      split
      · exact WorkerScheduler.markReady_inFlightHandles _ _
      · rfl
    · rfl
    · rfl
  apply Follows.single kept ordinary
  rw [seen]
  exact Step.finish rfl (present_box found)

/-- Taking the first message out of the queue. -/
theorem take_follows (consistent : system.Consistent)
    {handle : ServiceHandle} {service : ServiceSlot} {message : Message}
    {queue : MessageQueue}
    (found : system.services.lookup handle = some service)
    (taken : service.queue.dequeue = some (message, queue)) :
    Follows Routine (system.mailboxes (⟨handle, true, .empty⟩ :: turns))
      (system.setService handle { service with queue := queue })
      (⟨handle, true, .held message⟩ :: turns) := by
  obtain ⟨first, _⟩ := MessageQueue.dequeue_some taken
  have settled := consistent.settled handle service found
  have kept : (system.setService handle
      { service with queue := queue }).Consistent :=
    consistent.setService found settled
  have total := total_setService found { service with queue := queue }
  have shorter : service.queue.size = queue.size + 1 := by
    simp [MessageQueue.size, first]
  have fewer : system.queuedTotal =
      (system.setService handle { service with queue := queue }).queuedTotal +
        1 := by
    simp only at total
    omega
  have ordinary : Mailbox.Ordinary
      (.take handle message : Move ServiceHandle Message) := trivial
  have seen : (system.setService handle
      { service with queue := queue }).mailboxes
        (⟨handle, true, .held message⟩ :: turns) =
      { system.mailboxes (⟨handle, true, .empty⟩ :: turns) with
        box := Function.update (system.mailboxes turns).box handle
          (some { service.box with queue := queue.messages })
        queued := (system.setService handle
          { service with queue := queue }).queuedTotal
        turns := ⟨handle, true, .held message⟩ :: turns } := by
    apply Mailbox.State.ext
    · simp only [mailboxes, setService, box_insert]
      rfl
    all_goals rfl
  apply Follows.single kept ordinary
  rw [seen]
  exact Step.take rfl (present_box found) first fewer

private theorem continueBatch_follows (consistent : system.Consistent)
    {batch : Batch} {service : ServiceSlot}
    (found : system.services.lookup batch.handle = some service) :
    Follows Routine
      (system.mailboxes (⟨batch.handle, true, .empty⟩ :: turns))
      (system.continueBatch batch service).2
      (resumed (system.continueBatch batch service) turns) := by
  unfold continueBatch
  split
  · split
    · exact finishBatch_follows consistent found
    · rename_i message queue taken
      have took : Follows Routine
          (system.mailboxes (⟨batch.handle, true, .empty⟩ :: turns))
          (system.setService batch.handle { service with queue := queue })
          (⟨batch.handle, true, .held message⟩ :: turns) :=
        take_follows consistent found taken
      cases batch.observed with
      | true => exact took
      | false =>
          have located : (system.setService batch.handle
              { service with queue := queue }).services.lookup batch.handle =
                some { service with queue := queue } :=
            AList.lookup_insert _
          exact took.trans (invoke_follows took.consistent located rfl)
  · exact finishBatch_follows consistent found

private theorem startBatch_follows (consistent : system.Consistent)
    (maxMessagesPerService : Nat) (observed : Bool) (caller : Caller) :
    Follows Routine (system.mailboxes turns)
      (system.startBatch maxMessagesPerService observed caller).2
      (resumed (system.startBatch maxMessagesPerService observed caller)
        turns) := by
  unfold startBatch
  cases acquisition : system.scheduler.acquireNext with
  | none => exact .unseen consistent rfl
  | some acquired =>
      obtain ⟨handle, scheduler⟩ := acquired
      obtain ⟨waiting, flying⟩ := WorkerScheduler.acquireNext_some acquisition
      have first : handle ∈ system.scheduler.ready := by
        rw [waiting]
        exact List.mem_cons_self
      have grounded := system.scheduler.disjoint handle first
      simp only
      cases found : system.services.lookup handle with
      | none =>
          have kept : { system with
              scheduler := (scheduler.complete handle).2 }.Consistent :=
            ⟨consistent.registered, consistent.nonzero, consistent.settled,
              consistent.dispatched, consistent.dropped⟩
          have ordinary : Mailbox.Ordinary
              (.discard handle : Move ServiceHandle Message) := trivial
          have seen : { system with
              scheduler := (scheduler.complete handle).2 }.mailboxes turns =
                { system.mailboxes turns with ready := scheduler.ready } := by
            apply Mailbox.State.ext
            · rfl
            · rfl
            · rfl
            · simp only [mailboxes, WorkerScheduler.complete_inFlightHandles,
                flying]
              exact Finset.erase_insert grounded
            · rfl
            · rfl
          apply Follows.single kept ordinary
          rw [resumed]
          rw [seen]
          exact Step.discard waiting (absent_box found)
      | some service =>
          simp only
          have kept : { system with scheduler := scheduler }.Consistent :=
            ⟨consistent.registered, consistent.nonzero, consistent.settled,
              consistent.dispatched, consistent.dropped⟩
          have ordinary : Mailbox.Ordinary
              (.acquire handle : Move ServiceHandle Message) := trivial
          have seen : { system with scheduler := scheduler }.mailboxes
              (⟨handle, true, .empty⟩ :: turns) =
                { system.mailboxes turns with
                  ready := scheduler.ready
                  flying := insert handle (system.mailboxes turns).flying
                  turns := ⟨handle, true, .empty⟩ :: turns } := by
            apply Mailbox.State.ext
            · rfl
            · rfl
            · rfl
            · exact flying
            · rfl
            · rfl
          have began : Follows Routine (system.mailboxes turns)
              { system with scheduler := scheduler }
              (⟨handle, true, .empty⟩ :: turns) := by
            apply Follows.single kept ordinary
            rw [seen]
            exact Step.acquire waiting (present_box found)
          let batch : Batch :=
            { handle := handle
              maxMessages :=
                if maxMessagesPerService = 0 then 1 else maxMessagesPerService
              observed := observed
              dispatched := 0
              caller := caller }
          have present : system.services.lookup batch.handle = some service :=
            found
          exact began.trans (continueBatch_follows kept present)

end ActorSystem

namespace Machine

def mailboxes (machine : Machine) : Mailbox.State ServiceHandle Message :=
  machine.system.mailboxes (machine.stack.map Activation.turn)

/-- Permitted moves lead from a state to the view of a machine. -/
abbrev LeadsTo
    (permitted : Mailbox.State ServiceHandle Message →
      Move ServiceHandle Message → Prop)
    (start : Mailbox.State ServiceHandle Message) (next : Machine) : Prop :=
  ActorSystem.Follows permitted start next.system (next.stack.map Activation.turn)

variable {machine next : Machine}
variable {system : ActorSystem} {stack : List Activation}

theorem launch_follows (consistent : system.Consistent)
    (maxMessagesPerService : Nat) (observed : Bool) (caller : Caller) :
    LeadsTo ActorSystem.Routine (system.mailboxes (stack.map Activation.turn))
      (launch system stack maxMessagesPerService observed caller) := by
  have started : ActorSystem.Follows ActorSystem.Routine
      (system.mailboxes (stack.map Activation.turn))
      (system.startBatch maxMessagesPerService observed caller).2
      (ActorSystem.resumed
        (system.startBatch maxMessagesPerService observed caller)
        (stack.map Activation.turn)) :=
    ActorSystem.startBatch_follows consistent _ _ _
  unfold launch
  cases result : system.startBatch maxMessagesPerService observed caller with
  | mk activation after =>
      rw [result] at started
      cases activation with
      | none => exact started
      | some activation => exact started

private theorem finish_follows (consistent : system.Consistent) (batch : Batch) :
    LeadsTo ActorSystem.Routine (system.mailboxes (stack.map Activation.turn))
      (finish system stack batch) := by
  unfold finish
  cases batch.caller with
  | user => exact .unseen consistent rfl
  | once => exact .unseen consistent rfl
  | untilIdle maxBatches maxMessages totalDispatched executedBatches =>
      simp only
      split
      · exact .unseen consistent rfl
      · split
        · exact launch_follows consistent _ _ _
        · exact .unseen consistent rfl

/-- A batch goes on with a message, or its result goes to its caller. -/
theorem proceed_cases (consistent : system.Consistent) {batch : Batch}
    (proceeded : proceed system stack batch = .ok next) :
    (next.answer = none ∧ LeadsTo ActorSystem.Routine
      (system.mailboxes
        (⟨batch.handle, true, .empty⟩ :: stack.map Activation.turn))
      next) ∨
    ∃ finished, ActorSystem.Follows ActorSystem.Routine
      (system.mailboxes
        (⟨batch.handle, true, .empty⟩ :: stack.map Activation.turn))
      finished (stack.map Activation.turn) ∧
        next = finish finished stack batch := by
  unfold proceed at proceeded
  cases found : system.services.lookup batch.handle with
  | none => simp [found] at proceeded
  | some service =>
      have continued : ActorSystem.Follows ActorSystem.Routine
          (system.mailboxes
            (⟨batch.handle, true, .empty⟩ :: stack.map Activation.turn))
          (system.continueBatch batch service).2
          (ActorSystem.resumed (system.continueBatch batch service)
            (stack.map Activation.turn)) :=
        ActorSystem.continueBatch_follows consistent found
      cases result : system.continueBatch batch service with
      | mk activation after =>
          rw [result] at continued
          simp only [found, result] at proceeded
          cases activation with
          | none =>
              simp only [Except.ok.injEq] at proceeded
              exact Or.inr ⟨after, continued, proceeded.symm⟩
          | some activation =>
              simp only [Except.ok.injEq] at proceeded
              subst proceeded
              exact Or.inl ⟨rfl, continued⟩

private theorem handled_cases (consistent : system.Consistent)
    {activation : Activation} (live : activation.erased = false)
    (handling : activation.phase = .handling)
    (proceeded : handled system stack activation = .ok next) :
    (next.answer = none ∧ LeadsTo ActorSystem.Routine
      (system.mailboxes ((activation :: stack).map Activation.turn)) next) ∨
    ∃ finished, ActorSystem.Follows ActorSystem.Routine
      (system.mailboxes ((activation :: stack).map Activation.turn)) finished
      (stack.map Activation.turn) ∧
        next = finish finished stack
          { activation.batch with
            dispatched := activation.batch.dispatched + 1 } := by
  have turn : activation.turn =
      ⟨activation.batch.handle, true, .handling activation.message⟩ := by
    simp [Activation.turn, Phase.hand, live, handling]
  have counted : { system with
      metrics := system.metrics.onMessageDispatched
      history := system.history ++
        [Mailbox.Entry.handled activation.batch.handle
          activation.message] }.Consistent := by
    refine ⟨consistent.registered, consistent.nonzero, consistent.settled,
      ?_, ?_⟩
    · simp [MetricsSystem.onMessageDispatched, Mailbox.Entry.handlings,
        consistent.dispatched, UInt64.ofNat_add]
    · simpa [MetricsSystem.onMessageDispatched, Mailbox.Entry.refusals]
        using consistent.dropped
  have ordinary : Mailbox.Ordinary
      (.handle activation.batch.handle activation.message :
        Move ServiceHandle Message) := trivial
  have came : ActorSystem.Follows ActorSystem.Routine
      (system.mailboxes ((activation :: stack).map Activation.turn))
      { system with
        metrics := system.metrics.onMessageDispatched
        history := system.history ++
          [.handled activation.batch.handle activation.message] }
      (⟨activation.batch.handle, true, .empty⟩ ::
        stack.map Activation.turn) := by
    rw [List.map_cons, turn]
    exact .single counted ordinary (Step.handle rfl)
  rcases proceed_cases counted proceeded with ⟨silent, went⟩ | ⟨finished, went⟩
  · exact Or.inl ⟨silent, came.trans went⟩
  · exact Or.inr ⟨finished, came.trans went.1, went.2⟩

private theorem observed_cases (consistent : system.Consistent)
    {activation : Activation} (live : activation.erased = false)
    (observing : activation.phase = .observing)
    (proceeded : observed system stack activation = .ok next) :
    next.answer = none ∧ LeadsTo ActorSystem.Routine
      (system.mailboxes ((activation :: stack).map Activation.turn)) next := by
  have turn : activation.turn =
      ⟨activation.batch.handle, true, .held activation.message⟩ := by
    simp [Activation.turn, Phase.hand, live, observing]
  unfold observed at proceeded
  split at proceeded
  · cases proceeded
  · rename_i service found
    simp only [Except.ok.injEq] at proceeded
    subst proceeded
    rw [List.map_cons, turn]
    have later : { activation with phase := .handling }.turn =
        ⟨activation.batch.handle, true, .handling activation.message⟩ := by
      simp [Activation.turn, Phase.hand, live]
    refine ⟨rfl, ?_⟩
    rw [LeadsTo, List.map_cons, later]
    exact ActorSystem.invoke_follows consistent found rfl

/-- After a callback has returned, another one runs, or a batch that handled
something hands its result to its caller. -/
theorem resume_cases (consistent : machine.system.Consistent)
    (resumed : machine.resume = .ok next) :
    (next.answer = none ∧
      LeadsTo ActorSystem.Routine machine.mailboxes next) ∨
    ∃ finished stack batch, 0 < batch.dispatched ∧
      ActorSystem.Follows ActorSystem.Routine machine.mailboxes finished
        (stack.map Activation.turn) ∧
      next = finish finished stack batch := by
  unfold resume at resumed
  cases activations : machine.stack with
  | nil => simp [activations] at resumed
  | cons activation stack =>
      rw [mailboxes, activations]
      simp only [activations] at resumed
      cases live : activation.erased with
      | true => simp [live] at resumed
      | false =>
          simp only [live, Bool.false_eq_true, if_false] at resumed
          cases phase : activation.phase with
          | observing =>
              rw [phase] at resumed
              exact Or.inl (observed_cases consistent live phase resumed)
          | handling =>
              rw [phase] at resumed
              rcases handled_cases consistent live phase resumed with
                running | ⟨finished, follows, shape⟩
              · exact Or.inl running
              · exact Or.inr ⟨finished, stack, _, Nat.succ_pos _, follows,
                  shape⟩

theorem resume_follows (consistent : machine.system.Consistent)
    (resumed : machine.resume = .ok next) :
    LeadsTo ActorSystem.Routine machine.mailboxes next := by
  rcases resume_cases consistent resumed with
    ⟨_, follows⟩ | ⟨finished, stack, batch, _, follows, shape⟩
  · exact follows
  · rw [shape]
    exact follows.trans (finish_follows follows.consistent batch)

theorem unwind_follows (consistent : machine.system.Consistent)
    (unwound : machine.unwind = .ok next) :
    LeadsTo (ActorSystem.Only machine.mailboxes .unwind) machine.mailboxes
      next := by
  unfold unwind at unwound
  cases activations : machine.stack with
  | nil => simp [activations] at unwound
  | cons activation stack =>
      simp only [activations, Except.ok.injEq] at unwound
      subst unwound
      have spilled : activation.turn.spill =
          [.lost activation.batch.handle activation.message] := by
        cases phase : activation.phase with
        | observing =>
            simp [Mailbox.Turn.spill, Activation.turn, Phase.hand, phase]
        | handling =>
            simp [Mailbox.Turn.spill, Activation.turn, Phase.hand, phase]
      have current : machine.mailboxes.turns =
          activation.turn :: stack.map Activation.turn := by
        simp [mailboxes, ActorSystem.mailboxes, activations]
      have kept : (machine.system.record
          (.lost activation.batch.handle activation.message)).Consistent := by
        refine ⟨consistent.registered, consistent.nonzero, consistent.settled,
          ?_, ?_⟩
        · simpa [ActorSystem.record, Mailbox.Entry.handlings]
            using consistent.dispatched
        · simpa [ActorSystem.record, Mailbox.Entry.refusals]
            using consistent.dropped
      apply ActorSystem.Follows.single kept ⟨rfl, rfl⟩
      have moved := Step.unwind current
      rw [spilled] at moved
      exact moved

/-- The box a release closes. -/
theorem release_follows (consistent : machine.system.Consistent)
    (handle : ServiceHandle) :
    LeadsTo (ActorSystem.Only machine.mailboxes (.close handle))
      machine.mailboxes (machine.release handle) := by
  rcases machine.release_cases handle with
    ⟨_, shape⟩ | ⟨service, found, shape⟩
  · rw [shape]
    exact .unseen consistent rfl
  · have marked : (machine.stack.map (Activation.erase handle)).map
        Activation.turn =
          (machine.stack.map Activation.turn).map
            (Mailbox.Turn.closing handle) := by
      rw [List.map_map, List.map_map]
      apply List.map_congr_left
      intro activation _
      exact erase_turn handle activation
    simp only [shape, LeadsTo, marked]
    exact ActorSystem.removeService_follows consistent found

end Machine

end Crynet
