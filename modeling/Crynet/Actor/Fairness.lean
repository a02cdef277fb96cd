import Crynet.Actor.Changes
import Crynet.Foundation.Queueing

/-!
# No starvation between services

Whatever the operations do, the ready queue loses its front to `acquire_next`
and grows at its back only.  So a handle in the ready queue gets its turn after
exactly those in front of it, and a service that keeps itself busy queues
behind everything that was ready when its turn began.
-/

namespace Crynet

namespace ActorSystem

/-- The handle that `acquire_next` returns. -/
def upcoming (system : ActorSystem) : Option ServiceHandle :=
  system.scheduler.acquireNext.map Prod.fst

/-- The ready queue may have grown at its back. -/
def Extends (system next : ActorSystem) : Prop :=
  system.scheduler.ready <+: next.scheduler.ready

variable {system next final : ActorSystem}

theorem Extends.refl (system : ActorSystem) : system.Extends system :=
  List.prefix_refl _

theorem Extends.trans (first : system.Extends next)
    (second : next.Extends final) : system.Extends final :=
  List.IsPrefix.trans first second

private theorem markReady_prefix (scheduler : WorkerScheduler)
    (handle : ServiceHandle) :
    scheduler.ready <+: (scheduler.markReady handle).2.ready := by
  rw [WorkerScheduler.markReady_ready]
  split
  · exact List.prefix_refl _
  · exact List.prefix_append _ _

private theorem send_extends (system : ActorSystem) (message : Message) :
    system.Extends (system.send message).2 := by
  rcases system.send_cases message with ⟨_, shape⟩ | ⟨_, _, _, _, shape⟩
  · rw [shape]
    exact .refl system
  · rw [shape]
    exact markReady_prefix _ _

private theorem extends_threads : Threads Extends where
  refl := .refl
  trans := .trans

private theorem injectTimers_extends (system : ActorSystem)
    (messages : List Message) :
    system.Extends (system.injectTimers messages).2 :=
  extends_threads.injectTimers send_extends
    (fun _ _ => List.prefix_refl _) system messages

private theorem pumpTimers_extends {now : TimePoint} {delivered : Nat}
    (pumped : system.pumpTimers now = some (delivered, next)) :
    system.Extends next := by
  obtain ⟨messages, timers, _, injected⟩ := pumpTimers_cases pumped
  have sent := injectTimers_extends { system with timerQueue := timers }
    messages
  rw [injected] at sent
  exact sent

private theorem registerService_extends {serviceName : Text}
    {result : Option ServiceHandle}
    (performed : system.registerService serviceName = some (result, next)) :
    system.Extends next := by
  obtain ⟨_, _, _, shape⟩ := registerService_cases performed
  rcases shape with ⟨_, shape⟩ | ⟨_, _, _, shape⟩
  · rw [shape]
    exact List.prefix_refl _
  · rw [shape]
    exact List.prefix_refl _

private theorem stopService_extends (system : ActorSystem) (handle : ServiceHandle) :
    system.Extends (system.stopService handle).2 := by
  rcases system.stopService_cases handle with shape | ⟨_, _, shape⟩
  · rw [shape]
    exact .refl system
  · rw [shape]
    exact .refl system

private theorem releaseService_extends (system : ActorSystem)
    (handle : ServiceHandle) :
    system.Extends (system.releaseService handle).2 := by
  rcases system.releaseService_cases handle with
    ⟨_, shape⟩ | ⟨_, _, shape⟩
  · rw [shape]
    exact .refl system
  · rw [shape]
    exact .refl system

private theorem call_extends {sourceHandle targetHandle : ServiceHandle}
    {payloadText : Text} {result : Option SessionId}
    (called : system.call sourceHandle targetHandle payloadText =
      some (result, next)) : system.Extends next := by
  rcases call_cases called with ⟨_, _, same⟩ | ⟨_, _, sessions, _, _, shape⟩
  · rw [same]
    exact .refl system
  · rw [shape]
    exact send_extends { system with sessionManager := sessions } _

private theorem respond_extends (system : ActorSystem) (sourceHandle : ServiceHandle)
    (sessionId : SessionId) (payloadText : Text) :
    system.Extends
      (system.respond sourceHandle sessionId payloadText).2 := by
  rcases system.respond_cases sourceHandle sessionId payloadText with
    ⟨_, same⟩ | ⟨_, _, ⟨_, shape⟩ | ⟨_, shape⟩⟩
  · rw [same]
    exact .refl system
  · rw [shape]
    exact system.send_extends _
  · rw [shape]
    exact system.send_extends _

private theorem finishBatch_extends (system : ActorSystem) (handle : ServiceHandle)
    (service : ServiceSlot) :
    system.Extends (system.finishBatch handle service) := by
  unfold Extends finishBatch
  simp only
  split
  · exact markReady_prefix (system.scheduler.complete handle).2 handle
  · exact List.prefix_refl _

private theorem continueBatch_extends (system : ActorSystem) (batch : Batch)
    (service : ServiceSlot) :
    system.Extends (system.continueBatch batch service).2 := by
  unfold continueBatch
  split
  · split
    · exact system.finishBatch_extends _ _
    · simp only
      split <;> exact .refl system
  · exact system.finishBatch_extends _ _

/-- The first message of a batch leaves the ready queue alone, and so does a
batch without messages: its service is not marked again. -/
theorem continueBatch_first (system : ActorSystem) {batch : Batch}
    (service : ServiceSlot) (first : batch.dispatched < batch.maxMessages) :
    (system.continueBatch batch service).2.scheduler.ready =
      system.scheduler.ready := by
  unfold continueBatch
  rw [if_pos first]
  split
  · rename_i drained
    have empty : service.queue.empty = true := by
      rw [MessageQueue.empty_iff, ← MessageQueue.dequeue_none_iff]
      exact drained
    simp [finishBatch, empty]
  · simp only
    split <;> rfl

/-- A new batch takes the front of the ready queue and nothing else. -/
theorem startBatch_takes (system : ActorSystem) (maxMessagesPerService : Nat)
    (observed : Bool) (caller : Caller) :
    system.scheduler.ready = system.upcoming.toList ++
      (system.startBatch maxMessagesPerService observed
        caller).2.scheduler.ready := by
  unfold startBatch upcoming
  cases acquisition : system.scheduler.acquireNext with
  | none => rfl
  | some acquired =>
      obtain ⟨handle, scheduler⟩ := acquired
      obtain ⟨waiting, _⟩ := WorkerScheduler.acquireNext_some acquisition
      rw [waiting]
      simp only [Option.map_some, Option.toList_some, List.cons_append,
        List.nil_append, List.cons.injEq, true_and]
      split
      · rfl
      · rw [continueBatch_first]
        show 0 < if maxMessagesPerService = 0 then 1
          else maxMessagesPerService
        split <;> omega

end ActorSystem

open ActorSystem (Extends)

/-- The handle that the caller of a batch acquires when it gets the result. -/
def Batch.acquires (system : ActorSystem) (batch : Batch) :
    Option ServiceHandle :=
  match batch.caller with
  | .untilIdle maxBatches _ _ executedBatches =>
      if batch.dispatched = 0 then none
      else if executedBatches + 1 < maxBatches then system.upcoming
      else none
  | _ => none

namespace Machine

/-- The handle that is acquired when a batch goes on. -/
def proceedAcquires (system : ActorSystem) (batch : Batch) :
    Option ServiceHandle :=
  match system.services.lookup batch.handle with
  | none => none
  | some service =>
      match system.continueBatch batch service with
      | (some _, _) => none
      | (none, finished) => batch.acquires finished

/-- The handle that is acquired when the handler comes back to the loop. -/
def handledAcquires (system : ActorSystem) (activation : Activation) :
    Option ServiceHandle :=
  proceedAcquires
    { system with
      metrics := system.metrics.onMessageDispatched
      history := system.history ++
        [.handled activation.batch.handle activation.message] }
    { activation.batch with dispatched := activation.batch.dispatched + 1 }

/-- The handle that `acquire_next` returns during an action. -/
def acquires (machine : Machine) : Action → Option ServiceHandle
  | .dispatchBatch _ _ => machine.system.upcoming
  | .dispatchOnce => machine.system.upcoming
  | .runUntilIdle maxBatches _ =>
      if 0 < maxBatches then machine.system.upcoming else none
  | .returns =>
      match machine.stack with
      | [] => none
      | activation :: _ =>
          match activation.phase with
          | .observing => none
          | .handling => handledAcquires machine.system activation
  | _ => none

/-- All that `acquire_next` returns during a run. -/
def acquisitions (machine : Machine) (actions : List Action) :
    List ServiceHandle :=
  Transition.observations step
    (fun current action => (current.acquires action).toList) machine actions

variable {machine next : Machine}
variable {system : ActorSystem} {stack : List Activation}

private theorem launch_takes (system : ActorSystem) (stack : List Activation)
    (maxMessagesPerService : Nat) (observed : Bool) (caller : Caller) :
    system.scheduler.ready = system.upcoming.toList ++
      (launch system stack maxMessagesPerService observed
        caller).system.scheduler.ready := by
  have started := system.startBatch_takes maxMessagesPerService observed caller
  unfold launch
  split
  · rename_i result
    rw [result] at started
    exact started
  · rename_i result
    rw [result] at started
    exact started

private theorem finish_takes (system : ActorSystem) (stack : List Activation)
    (batch : Batch) :
    system.scheduler.ready = (batch.acquires system).toList ++
      (finish system stack batch).system.scheduler.ready := by
  unfold finish Batch.acquires
  cases batch.caller with
  | user => rfl
  | once => rfl
  | untilIdle maxBatches maxMessages totalDispatched executedBatches =>
      simp only
      split
      · rfl
      · split
        · exact launch_takes _ _ _ _ _
        · rfl

/-- A batch that is over may mark its service again, and then the loop around
it may take the front. -/
theorem proceed_advances {batch : Batch}
    (proceeded : proceed system stack batch = .ok next) :
    ∃ queue : ReadyQueue, system.scheduler.ready <+: queue.handles ∧
      queue.handles = (proceedAcquires system batch).toList ++
        next.system.scheduler.ready := by
  unfold proceed at proceeded
  unfold proceedAcquires
  cases found : system.services.lookup batch.handle with
  | none => simp [found] at proceeded
  | some service =>
      have continued := system.continueBatch_extends batch service
      cases result : system.continueBatch batch service with
      | mk activation after =>
          rw [result] at continued
          simp only [found, result] at proceeded ⊢
          cases activation with
          | some activation =>
              simp only [Except.ok.injEq] at proceeded
              subst proceeded
              exact ⟨after.scheduler.readyQueue, continued, rfl⟩
          | none =>
              simp only [Except.ok.injEq] at proceeded
              subst proceeded
              exact ⟨after.scheduler.readyQueue, continued,
                finish_takes _ _ _⟩

/-- What a step does to the ready queue: something may join it at the back, and
then its front may be acquired. -/
def Advances (machine : Machine) (action : Action) (next : Machine) : Prop :=
  ∃ queue : ReadyQueue, machine.system.scheduler.ready <+: queue.handles ∧
    queue.handles =
      (machine.acquires action).toList ++ next.system.scheduler.ready

private theorem advances_of_extends {action : Action}
    (nothing : machine.acquires action = none)
    (extended : machine.system.Extends next.system) :
    machine.Advances action next := by
  refine ⟨next.system.scheduler.readyQueue, extended, ?_⟩
  rw [nothing]
  rfl

private theorem advances_of_launch {action : Action}
    {maxMessagesPerService : Nat} {observed : Bool} {caller : Caller}
    (upcoming : machine.acquires action = machine.system.upcoming)
    (launched : next = launch machine.system machine.stack
      maxMessagesPerService observed caller) :
    machine.Advances action next := by
  refine ⟨machine.system.scheduler.readyQueue, List.prefix_refl _, ?_⟩
  rw [upcoming, launched]
  exact launch_takes _ _ _ _ _

private theorem resume_advances (resumed : machine.resume = .ok next) :
    machine.Advances .returns next := by
  unfold resume at resumed
  unfold Advances acquires
  cases activations : machine.stack with
  | nil => simp [activations] at resumed
  | cons activation stack =>
      simp only [activations] at resumed ⊢
      split at resumed
      · cases resumed
      · cases phase : activation.phase with
        | observing =>
            simp only [phase, observed] at resumed ⊢
            split at resumed
            · cases resumed
            · simp only [Except.ok.injEq] at resumed
              subst resumed
              exact ⟨machine.system.scheduler.readyQueue, List.prefix_refl _,
                rfl⟩
        | handling =>
            simp only [phase, handled] at resumed ⊢
            exact proceed_advances resumed

private theorem onContext_extends {method : ServiceContext → ServiceContext}
    (called : machine.onContext method = .ok next) :
    machine.system.Extends next.system := by
  obtain ⟨_, _, _, _, _, shape⟩ := onContext_cases called
  rw [shape]
  exact List.prefix_refl _

/-- The step lemma of the ready queue. -/
theorem step_advances {action : Action}
    (stepped : machine.step action = .ok next) :
    machine.Advances action next := by
  cases action with
  | registerService serviceName =>
      obtain ⟨_, _, performed, shape⟩ := returning_cases stepped
      subst shape
      exact advances_of_extends rfl
        (ActorSystem.registerService_extends performed)
  | send message =>
      simp only [step, Except.ok.injEq] at stepped
      subst stepped
      exact advances_of_extends rfl (machine.system.send_extends message)
  | stopService handle =>
      simp only [step, Except.ok.injEq] at stepped
      subst stepped
      exact advances_of_extends rfl (machine.system.stopService_extends handle)
  | releaseService handle =>
      simp only [step, Except.ok.injEq] at stepped
      subst stepped
      exact advances_of_extends rfl
        (machine.system.releaseService_extends handle)
  | shutdown =>
      simp only [step, Except.ok.injEq] at stepped
      subst stepped
      exact advances_of_extends rfl
        (ActorSystem.extends_threads.releaseEach
          ActorSystem.releaseService_extends _ machine)
  | call sourceHandle targetHandle payloadText =>
      obtain ⟨_, _, called, shape⟩ := returning_cases stepped
      subst shape
      exact advances_of_extends rfl (ActorSystem.call_extends called)
  | respond sourceHandle sessionId payloadText =>
      simp only [step, Except.ok.injEq] at stepped
      subst stepped
      exact advances_of_extends rfl (machine.system.respond_extends _ _ _)
  | scheduleTimeout targetHandle sessionId delay payloadText =>
      simp only [step, Except.ok.injEq] at stepped
      subst stepped
      exact advances_of_extends rfl (List.prefix_refl _)
  | cancelTimeout timerId =>
      simp only [step, Except.ok.injEq] at stepped
      subst stepped
      exact advances_of_extends rfl (List.prefix_refl _)
  | pumpTimers now =>
      obtain ⟨_, _, pumped, shape⟩ := returning_cases stepped
      subst shape
      exact advances_of_extends rfl (ActorSystem.pumpTimers_extends pumped)
  | dispatchBatch maxMessagesPerService observed =>
      simp only [step, Except.ok.injEq] at stepped
      exact advances_of_launch rfl stepped.symm
  | runUntilIdle maxBatches maxMessagesPerService =>
      simp only [step] at stepped
      split at stepped
      · rename_i some
        simp only [Except.ok.injEq] at stepped
        exact advances_of_launch (if_pos some) stepped.symm
      · rename_i none
        simp only [Except.ok.injEq] at stepped
        subst stepped
        exact advances_of_extends (if_neg none) (.refl _)
  | dispatchOnce =>
      simp only [step, Except.ok.injEq] at stepped
      exact advances_of_launch rfl stepped.symm
  | initializeContext =>
      simp only [step] at stepped
      exact advances_of_extends rfl (onContext_extends stepped)
  | startContext =>
      simp only [step] at stepped
      exact advances_of_extends rfl (onContext_extends stepped)
  | stopContext =>
      exact advances_of_extends rfl (onContext_extends stepped)
  | releaseContext =>
      exact advances_of_extends rfl (onContext_extends stepped)
  | returns => exact resume_advances stepped
  | throws =>
      simp only [step, unwind] at stepped
      split at stepped
      · cases stepped
      · simp only [Except.ok.injEq] at stepped
        subst stepped
        exact advances_of_extends rfl (List.prefix_refl _)

variable {final : Machine} {later : List Action}

/-- The run lemma of the ready queue. -/
theorem run_advances
    (ran : Transition.Execution (Transition.returning step) Unrestricted
      machine later final) :
    machine.system.scheduler.ready <+:
      machine.acquisitions later ++ final.system.scheduler.ready := by
  apply ran.queue_advances fun current => current.system.scheduler.ready
  intro current action next _ stepped
  obtain ⟨queue, extended, taken⟩ := step_advances stepped
  rw [← taken]
  exact extended

/-- A turn of a service begins, with the acquisition of its handle. -/
def TurnBegins (machine : Machine) (action : Action) (handle : ServiceHandle)
    (next : Machine) : Prop :=
  machine.step action = .ok next ∧ machine.acquires action = some handle

/-- The service whose turn begins is not in the ready queue any more. -/
theorem TurnBegins.notMem {action : Action} {handle : ServiceHandle}
    (begins : machine.TurnBegins action handle next) :
    handle ∉ next.system.scheduler.ready := by
  obtain ⟨queue, _, taken⟩ := step_advances begins.1
  have distinct := queue.nodup
  rw [taken, begins.2] at distinct
  exact (List.nodup_cons.mp distinct).1

/-- Before the next turn of a service everything gets its turn that was ready
when the last one began. -/
theorem TurnBegins.everyone {start middle : Machine} {first second : Action}
    {between : List Action} {busy : ServiceHandle}
    (began : start.TurnBegins first busy machine)
    (ran : Transition.runSteps step machine between = .ok middle)
    (begins : middle.TurnBegins second busy next)
    {handle : ServiceHandle}
    (waiting : handle ∈ machine.system.scheduler.ready) :
    handle ∈ machine.acquisitions between := by
  have before : Transition.Execution (Transition.returning step) Unrestricted
      machine between middle :=
    .ofRunSteps ran fun _ _ _ => trivial
  have advanced := run_advances (before.snoc trivial begins.1)
  unfold acquisitions at advanced
  rw [Transition.observations_append _ ran, Transition.observations,
    begins.2, List.append_assoc] at advanced
  exact (Transition.not_overtaken advanced began.notMem).subset waiting

/-- The handle at position `k` of the ready queue is acquired as number
`k + 1`, and until then it moves up.  So between two turns of a service, every
service gets a turn that was ready when the first of them began. -/
theorem no_starvation
    (ran : Transition.Execution (Transition.returning step) Unrestricted
      machine later final) :
    (∀ position handle,
      machine.system.scheduler.ready[position]? = some handle →
        (position < (machine.acquisitions later).length →
          (machine.acquisitions later)[position]? = some handle ∧
            handle ∉ (machine.acquisitions later).take position) ∧
        ((machine.acquisitions later).length ≤ position →
          final.system.scheduler.ready[
            position - (machine.acquisitions later).length]? =
              some handle)) ∧
    ∀ start first busy turn between middle second next,
      TurnBegins start first busy turn →
        Transition.runSteps step turn between = .ok middle →
          TurnBegins middle second busy next →
            ∀ handle ∈ turn.system.scheduler.ready,
              handle ∈ turn.acquisitions between := by
  have advanced := run_advances ran
  refine ⟨?_, ?_⟩
  · intro position handle queued
    exact ⟨Transition.taken_at_position advanced
        machine.system.scheduler.readyQueue.nodup queued,
      Transition.still_queued advanced queued⟩
  · intro start first busy turn between middle second next began ran begins
      handle waiting
    exact began.everyone ran begins waiting

/-- Two services are ready; the first one keeps sending to itself. -/
theorem no_starvation_busy :
    ∃ machine final,
      Transition.runSteps step (new 0)
        [.registerService [97], .registerService [98],
          .send { targetHandle := 1 }, .send { targetHandle := 2 }] =
            .ok machine ∧
      Transition.Execution (Transition.returning step) Unrestricted machine
        [.dispatchBatch 1 false, .send { targetHandle := 1 }, .returns,
          .dispatchBatch 1 false] final ∧
      machine.system.scheduler.ready[1]? = some 2 ∧
      (machine.acquisitions
        [.dispatchBatch 1 false, .send { targetHandle := 1 }, .returns,
          .dispatchBatch 1 false])[1]? = some 2 := by
  have ran : ∃ machine, Transition.runSteps step (new 0)
      [.registerService [97], .registerService [98],
        .send { targetHandle := 1 }, .send { targetHandle := 2 }] =
          .ok machine ∧
      machine.system.scheduler.ready[1]? = some 2 ∧
      (machine.acquisitions
        [.dispatchBatch 1 false, .send { targetHandle := 1 }, .returns,
          .dispatchBatch 1 false]).length = 2 ∧
      ∃ final, Transition.runSteps step machine
        [.dispatchBatch 1 false, .send { targetHandle := 1 }, .returns,
          .dispatchBatch 1 false] = .ok final :=
    ⟨_, rfl, rfl, rfl, _, rfl⟩
  obtain ⟨machine, ran, queued, taken, final, continued⟩ := ran
  have execution : Transition.Execution (Transition.returning step)
      Unrestricted machine
      [.dispatchBatch 1 false, .send { targetHandle := 1 }, .returns,
        .dispatchBatch 1 false] final :=
    .ofRunSteps continued fun _ _ _ => trivial
  have enough : 1 < (machine.acquisitions
      [.dispatchBatch 1 false, .send { targetHandle := 1 }, .returns,
        .dispatchBatch 1 false]).length := by
    rw [taken]
    decide
  exact ⟨machine, final, ran, execution, queued,
    (((no_starvation execution).1 1 2 queued).1 enough).1⟩

end Machine

end Crynet
