import Crynet.Actor.Licence

/-!
# No lost wake-up

A running service with a queued message is in the ready queue, or it is being
dispatched and is looked at again when its batch ends.  Whether "nothing was
dispatched" means "nothing is left to dispatch" is another matter: the ready
queue may hold handles that have been released.
-/

namespace Crynet

/-- The result says that nothing was left to do. -/
def Answer.SaysIdle : Answer → Prop
  | .batch _ => False
  | .once dispatched => dispatched = false
  | .idle maxBatches executedBatches _ => executedBatches < maxBatches

namespace Machine

variable {machine next : Machine}
variable {now : TimePoint} {actions : List Action}

/-- A registered running service with a queued message. -/
def HasWork (machine : Machine) (handle : ServiceHandle) : Prop :=
  ∃ service, machine.system.services.lookup handle = some service ∧
    service.context.state = .running ∧ service.queue.messages ≠ []

theorem HasWork.box {handle : ServiceHandle} (work : machine.HasWork handle) :
    Mailbox.HasWork machine.mailboxes handle := by
  obtain ⟨service, found, running, pending⟩ := work
  refine ⟨service.box, ActorSystem.present_box found, ?_, pending⟩
  exact service.context.isRunning_iff.mpr running

theorem mem_dispatching {handle : ServiceHandle} :
    handle ∈ machine.dispatching ↔
      ∃ turn ∈ machine.mailboxes.turns, turn.key = handle := by
  rw [← turns_key, List.mem_map]

/-- A running service with work waits in the ready queue, or an activation of
it will look at it again. -/
theorem HasWork.awaited (reached : Reaches Orderly now actions machine)
    {handle : ServiceHandle} (work : machine.HasWork handle) :
    handle ∈ machine.system.scheduler.ready ∨
      handle ∈ machine.system.scheduler.inFlightHandles ∧
        handle ∈ machine.dispatching := by
  obtain ⟨moves, moved⟩ :=
    reaches_mailboxes (fun _ _ _ _ orderly licensed => licensed.orderly orderly)
      reached
  have awake := Mailbox.Awake.of_reaches (fun _ _ orderly => orderly) moved
  rcases awake.awake handle work.box with waits | flies
  · exact .inl waits
  · exact .inr ⟨flies, mem_dispatching.mpr (awake.flyingTurn handle flies)⟩

/-- Every running service with work is ready once, or in flight because an
activation of it has not finished. -/
theorem work_is_ready_or_dispatching
    (reached : Reaches Orderly now actions machine) {handle : ServiceHandle}
    (work : machine.HasWork handle) :
    machine.system.scheduler.ready.count handle = 1 ∨
      handle ∈ machine.system.scheduler.inFlightHandles ∧
        handle ∈ machine.dispatching := by
  rcases work.awaited reached with waits | flies
  · left
    exact List.count_eq_one_of_mem machine.system.scheduler.readyQueue.nodup
      waits
  · exact .inr flies

/-- A send to a service in flight. -/
theorem work_is_ready_or_dispatching_inFlight :
    ∃ machine, Reaches Orderly 0
        [.registerService [97], .send { targetHandle := 1 },
          .dispatchBatch 1 false, .send { targetHandle := 1 }] machine ∧
      machine.HasWork 1 ∧ machine.system.scheduler.ready = [] ∧
      (machine.system.scheduler.ready.count 1 = 1 ∨
        1 ∈ machine.system.scheduler.inFlightHandles ∧
          1 ∈ machine.dispatching) := by
  have ran : ∃ machine, Transition.runSteps step (new 0)
      [.registerService [97], .send { targetHandle := 1 },
        .dispatchBatch 1 false, .send { targetHandle := 1 }] = .ok machine ∧
      machine.HasWork 1 ∧ machine.system.scheduler.ready = [] :=
    ⟨_, rfl, ⟨_, rfl, rfl, nofun⟩, rfl⟩
  obtain ⟨machine, ran, work, unready⟩ := ran
  have reached : Reaches Orderly 0
      [.registerService [97], .send { targetHandle := 1 },
        .dispatchBatch 1 false, .send { targetHandle := 1 }] machine :=
    (careful_of_runSteps ran rfl).weaken fun _ _ careful => careful.1
  exact ⟨machine, reached, work, unready,
    work_is_ready_or_dispatching reached work⟩

/-- If every ready service has work, a batch that is over at once has found the
ready queue empty. -/
theorem startBatch_idle {system after : ActorSystem}
    {turns : List (Mailbox.Turn ServiceHandle Message)}
    (useful : Mailbox.ReadyHasWork (system.mailboxes turns))
    {maxMessagesPerService : Nat} {observed : Bool} {caller : Caller}
    (ended : system.startBatch maxMessagesPerService observed caller =
      (none, after)) : after.scheduler.ready = [] := by
  unfold ActorSystem.startBatch at ended
  cases acquisition : system.scheduler.acquireNext with
  | none =>
      have empty := (system.scheduler.acquireNext_none_iff).mp acquisition
      simp only [acquisition, Prod.mk.injEq, true_and] at ended
      rw [← ended]
      exact empty
  | some acquired =>
      exfalso
      obtain ⟨handle, scheduler⟩ := acquired
      obtain ⟨waiting, _⟩ := WorkerScheduler.acquireNext_some acquisition
      have ready : handle ∈ (system.mailboxes turns).ready := by
        show handle ∈ system.scheduler.ready
        rw [waiting]
        exact List.mem_cons_self
      obtain ⟨box, present, pending⟩ := useful handle ready
      obtain ⟨service, found, same⟩ := Option.map_eq_some_iff.mp present
      rw [← same] at pending
      have positive : 0 <
          if maxMessagesPerService = 0 then 1 else maxMessagesPerService := by
        split <;> omega
      simp only [acquisition, found, ActorSystem.continueBatch,
        if_pos positive] at ended
      split at ended
      · rename_i drained
        exact pending ((service.queue.dequeue_none_iff).mp drained)
      · split at ended <;> cases ended

private theorem launch_idle {system : ActorSystem} {stack : List Activation}
    (useful : Mailbox.ReadyHasWork
      (system.mailboxes (stack.map Activation.turn)))
    {maxMessagesPerService : Nat} {observed : Bool} {caller : Caller}
    {answer : Answer}
    (returned : (launch system stack maxMessagesPerService observed
      caller).answer = some answer) :
    (launch system stack maxMessagesPerService observed
      caller).system.scheduler.ready = [] := by
  unfold launch at returned ⊢
  cases result : system.startBatch maxMessagesPerService observed caller with
  | mk activation after =>
      rw [result] at returned
      cases activation with
      | none => exact startBatch_idle useful result
      | some activation => cases returned

/-- A result that says so comes from a batch that was over at once. -/
theorem finish_idle {system : ActorSystem} {stack : List Activation}
    (useful : Mailbox.ReadyHasWork
      (system.mailboxes (stack.map Activation.turn)))
    {batch : Batch} (worked : 0 < batch.dispatched) {answer : Answer}
    (returned : (finish system stack batch).answer = some answer)
    (idle : answer.SaysIdle) :
    (finish system stack batch).system.scheduler.ready = [] := by
  unfold finish at returned ⊢
  cases caller : batch.caller with
  | user =>
      simp only [caller, Option.some.injEq] at returned
      rw [← returned] at idle
      exact absurd idle id
  | once =>
      simp only [caller, Option.some.injEq] at returned
      rw [← returned] at idle
      simp only [Caller.answer, Answer.SaysIdle, decide_eq_false_iff_not] at idle
      exact absurd worked idle
  | untilIdle maxBatches maxMessages totalDispatched executedBatches =>
      have some : batch.dispatched ≠ 0 := by omega
      simp only [caller, if_neg some] at returned ⊢
      split at returned
      · rename_i more
        rw [if_pos more]
        exact launch_idle useful returned
      · rename_i enough
        simp only [Option.some.injEq] at returned
        rw [← returned] at idle
        exact absurd idle enough

/-- What is not a dispatch operation returns no result of one. -/
private theorem silent_returning {Result : Type}
    {outcome : Option (Result × ActorSystem)}
    (returned : machine.returning outcome = .ok next) :
    next.answer = none := by
  obtain ⟨_, _, _, shape⟩ := returning_cases returned
  rw [shape]
  rfl

private theorem silent_onContext (method : ServiceContext → ServiceContext)
    (called : machine.onContext method = .ok next) : next.answer = none := by
  obtain ⟨_, _, _, _, _, shape⟩ := onContext_cases called
  rw [shape]
  rfl

/-- When a step returns such a result, the ready queue is empty. -/
theorem step_idle {moves : List (Mailbox.Move ServiceHandle Message)}
    (consistent : machine.system.Consistent)
    (moved : Mailbox.Reaches Mailbox.Careful moves machine.mailboxes)
    {action : Action} (stepped : machine.step action = .ok next)
    {answer : Answer} (returned : next.answer = some answer)
    (idle : answer.SaysIdle) : next.system.scheduler.ready = [] := by
  have useful := Mailbox.ReadyHasWork.of_reaches moved
  have loud : next.answer ≠ none := by
    rw [returned]
    exact Option.some_ne_none _
  cases action with
  | dispatchBatch maxMessagesPerService observed =>
      simp only [step, Except.ok.injEq] at stepped
      subst stepped
      exact launch_idle useful returned
  | dispatchOnce =>
      simp only [step, Except.ok.injEq] at stepped
      subst stepped
      exact launch_idle useful returned
  | runUntilIdle maxBatches maxMessagesPerService =>
      simp only [step] at stepped
      split at stepped
      · simp only [Except.ok.injEq] at stepped
        subst stepped
        exact launch_idle useful returned
      · rename_i none
        simp only [Except.ok.injEq] at stepped
        subst stepped
        simp only [Option.some.injEq] at returned
        rw [← returned] at idle
        exact absurd idle none
  | returns =>
      rcases resume_cases consistent stepped with
        ⟨silent, _⟩ | ⟨finished, stack, batch, worked, follows, shape⟩
      · exact absurd silent loud
      · subst shape
        obtain ⟨more, reached⟩ := follows.moved
        have there := moved.trans
          (reached.weaken fun _ _ ordinary => ordinary.careful)
        have busy := Mailbox.ReadyHasWork.of_reaches there
        exact finish_idle busy worked returned idle
  | throws =>
      exfalso
      simp only [step, unwind] at stepped
      split at stepped
      · cases stepped
      · simp only [Except.ok.injEq] at stepped
        subst stepped
        exact loud rfl
  | registerService _ => exact absurd (silent_returning stepped) loud
  | call _ _ _ => exact absurd (silent_returning stepped) loud
  | pumpTimers _ => exact absurd (silent_returning stepped) loud
  | initializeContext =>
      exact absurd (silent_onContext (fun context => context.initializeContext.2)
        stepped) loud
  | startContext =>
      exact absurd (silent_onContext (fun context => context.start.2)
        stepped) loud
  | stopContext => exact absurd (silent_onContext _ stepped) loud
  | releaseContext => exact absurd (silent_onContext _ stepped) loud
  | _ =>
      simp only [step, Except.ok.injEq] at stepped
      subst stepped
      exact absurd rfl loud

/-- When a dispatch operation says that it found nothing to do, only services
being dispatched have work; so if no callback made the call, none has. -/
theorem idle_means_idle (reached : Reaches Careful now actions machine)
    {answer : Answer} (returned : machine.answer = some answer)
    (idle : answer.SaysIdle) :
    (∀ handle, machine.HasWork handle → handle ∈ machine.dispatching) ∧
      (machine.stack = [] → ∀ handle, ¬machine.HasWork handle) := by
  have empty : machine.system.scheduler.ready = [] := by
    cases reached with
    | nil => cases returned
    | snoc before allowed stepped =>
        obtain ⟨moves, moved⟩ := reaches_mailboxes
          (fun _ _ _ _ careful licensed => licensed.careful careful) before
        exact step_idle (reaches_consistent before) moved stepped returned idle
  have orderly : Reaches Orderly now actions machine :=
    reached.weaken fun _ _ careful => careful.1
  have busy : ∀ handle, machine.HasWork handle →
      handle ∈ machine.dispatching := by
    intro handle work
    rcases work.awaited orderly with ready | flying
    · rw [empty] at ready
      cases ready
    · exact flying.2
  refine ⟨busy, ?_⟩
  intro alone handle work
  have member := busy handle work
  rw [dispatching, alone] at member
  cases member

/-- One message, handled by `run_until_idle`. -/
theorem idle_means_idle_drained :
    ∃ machine, Reaches Careful 0
        [.registerService [97], .send { targetHandle := 1 },
          .runUntilIdle 64 1, .returns] machine ∧
      machine.answer = some (.idle 64 1 1) ∧
      ∀ handle, ¬machine.HasWork handle := by
  have ran : ∃ machine, Transition.runSteps step (new 0)
      [.registerService [97], .send { targetHandle := 1 },
        .runUntilIdle 64 1, .returns] = .ok machine ∧
      machine.answer = some (.idle 64 1 1) ∧ machine.stack = [] :=
    ⟨_, rfl, rfl, rfl⟩
  obtain ⟨machine, ran, returned, alone⟩ := ran
  have reached : Reaches Careful 0
      [.registerService [97], .send { targetHandle := 1 },
        .runUntilIdle 64 1, .returns] machine :=
    careful_of_runSteps ran rfl
  have early : (Answer.idle 64 1 1).SaysIdle := by
    show 1 < 64
    omega
  exact ⟨machine, reached, returned,
    (idle_means_idle reached returned early).2 alone⟩

/-- A released service stays in the ready queue and hides the next one. -/
theorem idle_with_work_left :
    ∃ machine, Reaches Unrestricted 0
        [.registerService [97], .registerService [98],
          .send { targetHandle := 1 }, .send { targetHandle := 2 },
          .releaseService 1, .runUntilIdle 64 1] machine ∧
      machine.answer = some (.idle 64 0 0) ∧ machine.stack = [] ∧
      machine.HasWork 2 := by
  have ran : ∃ machine, Transition.runSteps step (new 0)
      [.registerService [97], .registerService [98],
        .send { targetHandle := 1 }, .send { targetHandle := 2 },
        .releaseService 1, .runUntilIdle 64 1] = .ok machine ∧
      machine.answer = some (.idle 64 0 0) ∧ machine.stack = [] ∧
      machine.HasWork 2 :=
    ⟨_, rfl, rfl, rfl, ⟨_, rfl, rfl, nofun⟩⟩
  obtain ⟨machine, ran, rest⟩ := ran
  refine ⟨machine, ?_, rest⟩
  exact Transition.Execution.ofRunSteps ran fun _ _ _ => trivial

end Machine

end Crynet
