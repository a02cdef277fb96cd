import Crynet.Actor.Frames

/-!
# A service that runs alone

When no other service has messages and nothing is dispatched, a service is in
the ready queue exactly when some wait for it.  A message that is sent to it
makes its queue longer by one, and a turn makes it shorter by one.
-/

namespace Crynet

variable {system : ActorSystem} {handle : ServiceHandle} {depth : Nat}

namespace ActorSystem

/-- A service runs, and so many messages wait for it. -/
def HoldsMessages (system : ActorSystem) (handle : ServiceHandle)
    (depth : Nat) : Prop :=
  handle ≠ 0 ∧ ∃ service, system.services.lookup handle = some service ∧
    service.context.isRunning = true ∧ service.queue.ownerHandle = handle ∧
    service.queue.size = depth

/-- No other service is ready and none is in flight. -/
structure Alone (system : ActorSystem) (handle : ServiceHandle)
    (depth : Nat) : Prop where
  holds : system.HoldsMessages handle depth
  ready : system.scheduler.ready = if depth = 0 then [] else [handle]
  flying : system.scheduler.inFlightHandles = ∅

theorem Alone.send (alone : system.Alone handle depth) {message : Message}
    (target : message.targetHandle = handle) :
    (system.send message).1 = true ∧
      (system.send message).2.Alone handle (depth + 1) := by
  obtain ⟨nonzero, service, found, running, owner, long⟩ := alone.holds
  obtain rfl := target
  obtain ⟨accepted, messages, kept⟩ :=
    MessageQueue.enqueue_addressed owner.symm
  have sent : system.send message = (true, system.accept message
      service.context (service.queue.enqueue message).2) := by
    simp only [ActorSystem.send, found, running, accepted, Bool.true_eq_false,
      if_false]
  rw [sent]
  refine ⟨rfl, ?_, ?_, ?_⟩
  · refine ⟨nonzero, _, AList.lookup_insert _, running, ?_, ?_⟩
    · rw [MessageQueue.takeOverload_ownerHandle, kept, owner]
    · rw [MessageQueue.size, MessageQueue.takeOverload_messages, messages,
        List.length_append, ← long]
      rfl
  · show (system.scheduler.markReady message.targetHandle).2.ready = _
    rw [WorkerScheduler.markReady_ready, alone.flying, alone.ready]
    by_cases empty : depth = 0
    · simp [empty, nonzero]
    · simp [empty]
  · show (system.scheduler.markReady message.targetHandle).2.inFlightHandles = _
    rw [WorkerScheduler.markReady_inFlightHandles, alone.flying]

end ActorSystem

namespace Machine

variable {machine : Machine}

/-- Nothing runs, and so many messages wait. -/
structure Holding (machine : Machine) (handle : ServiceHandle)
    (depth : Nat) : Prop where
  stack : machine.stack = []
  alone : machine.system.Alone handle depth

/-- A message is being handled, and so many wait. -/
structure Handling (machine : Machine) (handle : ServiceHandle)
    (depth : Nat) : Prop where
  stack : ∃ message, machine.stack =
    [{ batch :=
        { handle := handle
          maxMessages := 1
          observed := false
          dispatched := 0
          caller := .once }
       message := message
       phase := .handling
       erased := false }]
  holds : machine.system.HoldsMessages handle depth
  ready : machine.system.scheduler.ready = []
  flying : machine.system.scheduler.inFlightHandles = {handle}

theorem Holding.dispatchOnce (holding : machine.Holding handle (depth + 1)) :
    ∃ next, machine.step .dispatchOnce = .ok next ∧
      next.Handling handle depth := by
  obtain ⟨nonzero, service, found, running, owner, long⟩ :=
    holding.alone.holds
  have ready := holding.alone.ready
  rw [if_neg (Nat.succ_ne_zero depth)] at ready
  obtain ⟨acquired, acquire, rest, flying⟩ :=
    WorkerScheduler.acquireNext_of_ready ready
  obtain ⟨message, later, pending⟩ := List.exists_cons_of_length_eq_add_one long
  obtain ⟨queue, take, remaining, kept⟩ := MessageQueue.dequeue_of_cons pending
  refine ⟨_, rfl, ?_⟩
  simp only [launch, ActorSystem.startBatch, acquire, found,
    ActorSystem.continueBatch, take, Nat.zero_lt_one, if_true,
    Bool.false_eq_true, if_false, one_ne_zero, holding.stack]
  refine ⟨⟨message, rfl⟩, ?_, rest, ?_⟩
  · refine ⟨nonzero, _, AList.lookup_insert _, running, kept.trans owner, ?_⟩
    rw [MessageQueue.size, pending, List.length_cons] at long
    show queue.messages.length = depth
    rw [remaining]
    omega
  · show acquired.inFlightHandles = {handle}
    rw [flying, holding.alone.flying]
    rfl

theorem Handling.returns (handling : machine.Handling handle depth) :
    ∃ next, machine.step .returns = .ok next ∧ next.Holding handle depth := by
  obtain ⟨nonzero, service, found, running, owner, long⟩ := handling.holds
  obtain ⟨message, activations⟩ := handling.stack
  let recorded : ActorSystem :=
    { machine.system with
      metrics := machine.system.metrics.onMessageDispatched
      history := machine.system.history ++ [.handled handle message] }
  have flying : (recorded.scheduler.complete handle).2.inFlightHandles = ∅ := by
    rw [WorkerScheduler.complete_inFlightHandles]
    show machine.system.scheduler.inFlightHandles.erase handle = ∅
    rw [handling.flying]
    simp
  have ready : (recorded.scheduler.complete handle).2.ready = [] :=
    handling.ready
  refine ⟨finish (recorded.finishBatch handle service) []
    { handle := handle
      maxMessages := 1
      observed := false
      dispatched := 1
      caller := .once }, ?_, rfl,
      ⟨nonzero, service, found, running, owner, long⟩, ?_, ?_⟩
  · simp only [step, resume, activations, Bool.false_eq_true, if_false,
      handled, proceed, found, ActorSystem.continueBatch, Nat.zero_add,
      Nat.lt_irrefl]
    rfl
  · show (recorded.finishBatch handle service).scheduler.ready = _
    by_cases zero : depth = 0
    · have empty : service.queue.empty = true := by
        apply service.queue.empty_iff.mpr
        exact List.eq_nil_of_length_eq_zero (long.trans zero)
      simp only [ActorSystem.finishBatch, empty, Bool.true_eq_false, false_and,
        if_false, zero, if_true]
      exact ready
    · have waiting : service.queue.empty = false := by
        rw [Bool.eq_false_iff]
        intro empty
        have none := service.queue.empty_iff.mp empty
        rw [MessageQueue.size, none] at long
        exact zero long.symm
      simp only [ActorSystem.finishBatch, waiting, running, and_self, if_true,
        zero, if_false]
      rw [WorkerScheduler.markReady_ready, flying, ready]
      simp [nonzero]
  · show (recorded.finishBatch handle service).scheduler.inFlightHandles = ∅
    unfold ActorSystem.finishBatch
    simp only
    split
    · rw [WorkerScheduler.markReady_inFlightHandles]
      exact flying
    · exact flying

/-- A turn handles one message and touches neither sessions nor timers. -/
theorem Holding.turn (holding : machine.Holding handle (depth + 1)) :
    ∃ next,
      Transition.runSteps step machine [.dispatchOnce, .returns] = .ok next ∧
      next.Holding handle depth ∧ machine.system.Keeps next.system := by
  obtain ⟨middle, dispatched, handling⟩ := holding.dispatchOnce
  obtain ⟨next, returned, held⟩ := handling.returns
  refine ⟨next, ?_, held, ?_⟩
  · simp only [Transition.runSteps, dispatched, returned]
  · have first := @step_keeps machine middle .dispatchOnce trivial dispatched
    exact first.trans (@step_keeps middle next .returns trivial returned)

theorem Holding.turns (holding : machine.Holding handle depth) :
    ∃ next,
      Transition.runSteps step machine
        (List.replicate depth [Action.dispatchOnce, .returns]).flatten =
          .ok next ∧
      next.Holding handle 0 ∧ machine.system.Keeps next.system := by
  induction depth generalizing machine with
  | zero => exact ⟨machine, rfl, holding, .refl _⟩
  | succ depth induction =>
      obtain ⟨middle, ran, held, kept⟩ := holding.turn
      obtain ⟨next, rest, empty, later⟩ := induction held
      refine ⟨next, ?_, empty, kept.trans later⟩
      rw [List.replicate_succ, List.flatten_cons,
        Transition.runSteps_append ran]
      exact rest

end Machine

end Crynet
