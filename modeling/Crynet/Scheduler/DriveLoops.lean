import Crynet.Scheduler.CompletedTurns
import Crynet.Scheduler.Masking
import Crynet.Scheduler.WorkerLoop

/-!
# The drive loops agree

`run_until_idle` of a system counts batches and stops at one that dispatches
nothing; the loops of workers count turns, pump before each batch, stop at a
turn in which nothing happens, and may show each message to a monitor.  While no
timer is pending all of them make the same batches.
-/

namespace Crynet

/-- What is seen of a loop from outside. -/
inductive LoopOutcome where
  | running
  | returned (totalDispatched : Nat)
  | left
  deriving DecidableEq, Repr

def LoopStatus.outcome : LoopStatus → LoopOutcome
  | .running _ _ _ => .running
  | .returned totalDispatched => .returned totalDispatched
  | .left => .left

namespace Machine

/-- Where a `run_until_idle` of the system stands that was called on top of so
many activations. -/
def loopOutcome (machine : Machine) (depth : Nat) : LoopOutcome :=
  if depth < machine.stack.length then
    .running
  else
    match machine.answer with
    | some (.idle _ _ totalDispatched) => .returned totalDispatched
    | _ => .left

/-- What a handler does while this loop runs. -/
def loopStep (depth : Nat) (machine : Machine) (action : Action) :
    Except Fault Machine :=
  if machine.loopOutcome depth = .running then machine.step action
  else .error .notCalled

/-- What becomes of a `run_until_idle` of the system whose handlers do this. -/
def driveUntilIdle (machine : Machine) (maxBatches maxMessagesPerService : Nat)
    (actions : List Action) : Except Fault Machine :=
  match machine.step (.runUntilIdle maxBatches maxMessagesPerService) with
  | .error fault => .error fault
  | .ok next =>
      Transition.runSteps (loopStep machine.stack.length) next actions

end Machine

/-- The systems are the same, apart from the clocks of their timers. -/
def ActorSystem.SameButClock (system other : ActorSystem) : Prop :=
  ∃ point tick, system = other.atClock point tick

/-- Both loops run, have returned the same number or have been left, in the same
state of the system; or both meet the same fault. -/
def LoopsAgree (depth : Nat) :
    Except Fault Machine → Except Fault Drive → Prop
  | .ok machine, .ok drive =>
      drive.status.outcome = machine.loopOutcome depth ∧
        drive.worker.machine.system.SameButClock machine.system
  | .error fault, .error other => fault = other
  | _, _ => False

/-- What a batch and its disguise do next: both end, or the observer of the one
sees the message that the handler of the other gets. -/
inductive Hands (batch : Batch) (observed : Bool) :
    Option Activation × ActorSystem → Option Activation × ActorSystem →
      Prop where
  | ends (ended : ActorSystem) : Hands batch observed (none, ended) (none, ended)
  | message {message : Message} {taken : ActorSystem} {service : ServiceSlot}
      (found : AList.lookup batch.handle taken.services = some service) :
      Hands batch observed
        (some
          { batch := batch
            message := message
            phase := .handling
            erased := false },
          taken.invoke batch.handle service.context message)
        (if observed = true then
          (some
            { batch := batch.inTurn observed
              message := message
              phase := .observing
              erased := false }, taken)
        else
          (some
            { batch := batch.inTurn observed
              message := message
              phase := .handling
              erased := false },
            taken.invoke batch.handle service.context message))

namespace ActorSystem

private theorem continueBatch_hands (system : ActorSystem) {batch : Batch}
    (unobserved : batch.observed = false) (observed : Bool)
    (service : ServiceSlot) :
    Hands batch observed (system.continueBatch batch service)
      (system.continueBatch (batch.inTurn observed) service) := by
  have kept : (batch.inTurn observed).dispatched = batch.dispatched ∧
      (batch.inTurn observed).maxMessages = batch.maxMessages := ⟨rfl, rfl⟩
  simp only [continueBatch, kept.1, kept.2]
  split
  · cases service.queue.dequeue with
    | none => exact .ends _
    | some result =>
        obtain ⟨message, queue⟩ := result
        simp only [unobserved, Bool.false_eq_true, if_false]
        exact @Hands.message batch observed message
          (system.setService batch.handle { service with queue := queue })
          { service with queue := queue } (AList.lookup_insert _)
  · exact .ends _

private theorem startBatch_hands (system : ActorSystem) (maxMessagesPerService : Nat)
    (observed : Bool) (caller : Caller) :
    ∃ batch : Batch, batch.observed = false ∧ batch.caller = caller ∧
      Hands batch observed
        (system.startBatch maxMessagesPerService false caller)
        (system.startBatch maxMessagesPerService observed .user) := by
  let batch (handle : ServiceHandle) : Batch :=
    { handle := handle
      maxMessages :=
        if maxMessagesPerService = 0 then 1 else maxMessagesPerService
      observed := false
      dispatched := 0
      caller := caller }
  unfold startBatch
  cases system.scheduler.acquireNext with
  | none => exact ⟨batch 0, rfl, rfl, .ends _⟩
  | some acquisition =>
      obtain ⟨handle, acquired⟩ := acquisition
      refine ⟨batch handle, rfl, rfl, ?_⟩
      simp only
      cases system.services.lookup handle with
      | none => exact .ends _
      | some service =>
          let running : ActorSystem := { system with scheduler := acquired }
          exact running.continueBatch_hands rfl observed service

end ActorSystem

namespace Worker

/-- The worker may go on, and only a runner has a plugin. -/
structure Open (kind : LoopKind) (worker : Worker) : Prop where
  stop : worker.stopRequested = false
  quit : ∀ monitor, worker.plugin = some monitor →
    monitor.quitRequested = false
  alone : kind = .workerLoop → worker.plugin = none

/-- Only the machine and the books of the monitor have changed. -/
structure Goes (worker next : Worker) : Prop where
  plugged : next.plugin.isSome = worker.plugin.isSome
  remains : ∀ kind, worker.Open kind → next.Open kind

theorem Goes.refl (worker : Worker) : worker.Goes worker :=
  ⟨rfl, fun _ allowed => allowed⟩

theorem Goes.trans {worker middle next : Worker} (first : worker.Goes middle)
    (second : middle.Goes next) : worker.Goes next :=
  ⟨second.plugged.trans first.plugged, fun kind allowed =>
    second.remains kind (first.remains kind allowed)⟩

private theorem goes_of_machine (worker : Worker) (machine : Machine) :
    worker.Goes { worker with machine := machine } :=
  ⟨rfl, fun _ allowed => ⟨allowed.stop, allowed.quit, allowed.alone⟩⟩

private theorem goes_of_plugin {worker : Worker} {monitor next : WorkerMonitor}
    (plugged : worker.plugin = some monitor) (machine : Machine)
    (same : next.quitRequested = monitor.quitRequested) :
    worker.Goes { worker with machine := machine, plugin := some next } := by
  refine ⟨by rw [plugged]; rfl, ?_⟩
  intro kind allowed
  refine ⟨allowed.stop, ?_, ?_⟩
  · intro other found
    cases found
    exact same.trans (allowed.quit monitor plugged)
  · intro loop
    have none := allowed.alone loop
    rw [plugged] at none
    cases none

private theorem endTurn_goes (worker : Worker) (turn : WorkerLoopTurn) :
    worker.Goes (worker.endTurn turn) := by
  cases plugged : worker.plugin with
  | none =>
      have same : worker.endTurn turn = worker := by
        rw [endTurn, plugged]
        cases worker
        simp only at plugged
        rw [plugged]
        rfl
      rw [same]
      exact .refl worker
  | some monitor =>
      have shape : worker.endTurn turn =
          { worker with
            machine := worker.machine
            plugin := some
              (if turn.idle = true then monitor.onIdle worker.workerId
              else monitor.onDispatchEnd worker.workerId) } := by
        rw [endTurn, plugged]
        rfl
      rw [shape]
      apply goes_of_plugin plugged
      split
      · exact (monitor.markSleeping_quiet _).quitRequested
      · exact (monitor.onDispatchEnd_counts _).2

/-- No observer is called while a handler runs. -/
theorem observe_handling {worker : Worker} {depth : Nat}
    (handling : ∀ activation stack, worker.machine.stack = activation :: stack →
      stack.length = depth → activation.phase = .handling) :
    worker.observe depth = .ok worker := by
  unfold observe
  split
  · rename_i activation stack plugged activations
    rw [if_neg]
    rintro ⟨here, observing⟩
    rw [handling activation stack activations here] at observing
    cases observing
  · rfl

private theorem observe_observing {worker : Worker} {monitor : WorkerMonitor}
    {activation : Activation} {stack : List Activation} {next : Machine}
    (plugged : worker.plugin = some monitor)
    (activations : worker.machine.stack = activation :: stack)
    (observing : activation.phase = .observing)
    (resumed : worker.machine.resume = .ok next) :
    ∃ shown : Worker, worker.observe stack.length = .ok shown ∧
      worker.Goes shown ∧ shown.machine = next := by
  refine ⟨_, ?_, goes_of_plugin plugged next
    (monitor.trigger_quiet worker.workerId
      activation.message.trace).quitRequested, rfl⟩
  simp only [observe, plugged, activations, resumed, if_pos
    (And.intro trivial observing)]
  rfl

end Worker

namespace Machine

/-- A batch goes on with an activation, or returns an answer. -/
def turned (stack : List Activation) (answer : Answer) :
    Option Activation × ActorSystem → Machine
  | (some activation, started) =>
      { system := started, stack := activation :: stack, answer := none }
  | (none, ended) => { system := ended, stack := stack, answer := some answer }

private theorem launch_turned (system : ActorSystem) (stack : List Activation)
    (maxMessagesPerService : Nat) (observed : Bool) (caller : Caller) :
    launch system stack maxMessagesPerService observed caller =
      turned stack (caller.answer 0)
        (system.startBatch maxMessagesPerService observed caller) := by
  unfold launch
  split
  · rename_i result
    rw [result]
    rfl
  · rename_i result
    rw [result]
    rfl

end Machine

namespace Machine

section

variable {system : ActorSystem} {stack : List Activation} {batch : Batch}
variable {service : ServiceSlot}

private theorem proceed_ended
    (found : system.services.lookup batch.handle = some service)
    {ended : ActorSystem}
    (result : system.continueBatch batch service = (none, ended)) :
    proceed system stack batch = .ok (finish ended stack batch) := by
  simp only [proceed, found, result]

private theorem proceed_started
    (found : system.services.lookup batch.handle = some service)
    {activation : Activation} {started : ActorSystem}
    (result : system.continueBatch batch service =
      (some activation, started)) :
    proceed system stack batch =
      .ok
        { system := started
          stack := activation :: stack
          answer := none } := by
  simp only [proceed, found, result]

/-- A batch that the user has called, on its way. -/
theorem proceed_turned
    (found : system.services.lookup batch.handle = some service)
    (caller : batch.caller = .user) :
    proceed system stack batch =
      .ok (turned stack (.batch batch.dispatched)
        (system.continueBatch batch service)) := by
  cases result : system.continueBatch batch service with
  | mk activation continued =>
      cases activation with
      | none =>
          rw [proceed_ended found result, finish, caller]
          rfl
      | some activation => exact proceed_started found result

end

end Machine

namespace Worker

/-- A turn in which a batch has gone on is over, or its handler runs. -/
theorem settle_hands {worker : Worker} {mask : Mask} {batch : Batch}
    {stack : List Activation} {dispatched : Nat}
    {result shown : Option Activation × ActorSystem}
    (observed : mask.observed = worker.plugin.isSome)
    (bottom : stack.length = mask.depth)
    (hands : Hands batch mask.observed result shown)
    (machine : worker.machine = Machine.turned stack (.batch dispatched)
      (shown.1, mask.system shown.2)) :
    (∃ ended, result = (none, ended) ∧
      worker.machine.system = mask.system ended ∧
      worker.machine.stack = stack ∧
      worker.settle mask.depth 0 =
        .ok (.completed { dispatchedMessages := dispatched },
          worker.endTurn { dispatchedMessages := dispatched })) ∨
    ∃ activation started next, result = (some activation, started) ∧
      activation.batch = batch ∧ activation.phase = .handling ∧
      worker.settle mask.depth 0 = .ok (.handling 0, next) ∧
      worker.Goes next ∧
      next.machine = mask.machine
        { system := started, stack := activation :: stack, answer := none } := by
  cases hands with
  | ends ended =>
      left
      refine ⟨ended, rfl, ?_, ?_, ?_⟩
      · rw [machine]
        rfl
      · rw [machine]
        rfl
      · have below : ¬mask.depth < worker.machine.stack.length := by
          rw [machine]
          exact Nat.not_lt.mpr (Nat.le_of_eq bottom)
        have answer : worker.machine.answer = some (.batch dispatched) := by
          rw [machine]
          rfl
        rw [settle, if_neg below, answer]
  | @message message taken service found =>
      right
      have masked := fun system answer => mask.machine_top bottom system
        { batch := batch
          message := message
          phase := .handling
          erased := false } answer
      refine ⟨
        { batch := batch
          message := message
          phase := .handling
          erased := false }, taken.invoke batch.handle service.context message,
        ?_⟩
      cases watched : mask.observed with
      | false =>
          rw [watched] at machine masked
          simp only [Bool.false_eq_true, if_false, Machine.turned] at machine
          have inside : mask.depth < worker.machine.stack.length := by
            rw [machine]
            exact Nat.lt_of_le_of_lt (Nat.le_of_eq bottom.symm)
              (Nat.lt_succ_self _)
          have handling : worker.observe mask.depth = .ok worker := by
            apply observe_handling
            intro activation below activations _
            rw [machine] at activations
            cases activations
            rfl
          refine ⟨worker, rfl, rfl, rfl, ?_, .refl worker, ?_⟩
          · rw [settle, if_pos inside, handling]
          · rw [machine, masked]
      | true =>
          rw [watched] at machine masked observed
          simp only [if_true, Machine.turned] at machine
          obtain ⟨monitor, plugged⟩ := Option.isSome_iff_exists.mp observed.symm
          have inside : mask.depth < worker.machine.stack.length := by
            rw [machine]
            exact Nat.lt_of_le_of_lt (Nat.le_of_eq bottom.symm)
              (Nat.lt_succ_self _)
          have resumed : worker.machine.resume =
              .ok (mask.machine
                { system := taken.invoke batch.handle service.context message
                  stack :=
                    { batch := batch
                      message := message
                      phase := .handling
                      erased := false } :: stack
                  answer := none }) := by
            have present : AList.lookup (batch.inTurn true).handle
                (mask.system taken).services = some service := found
            rw [machine, masked]
            simp only [Machine.resume, Machine.observed, present,
              Bool.false_eq_true, if_false]
            rfl
          obtain ⟨next, seen, goes, same⟩ := observe_observing plugged
            (by rw [machine]) rfl resumed
          refine ⟨next, rfl, rfl, rfl, ?_, goes, same⟩
          rw [bottom] at seen
          rw [settle, if_pos inside, seen]

end Worker

namespace LoopCall

variable {call : LoopCall} {maxBatches : Nat}

/-- The batch of the system that a loop is in. -/
structure Inside (call : LoopCall) (maxBatches remaining totalDispatched : Nat)
    (activation : Activation) : Prop where
  phase : activation.phase = .handling
  unobserved : activation.batch.observed = false
  caller : ∃ executed, activation.batch.caller =
    .untilIdle maxBatches call.maxMessagesPerService totalDispatched
      executed ∧
    executed + 1 + remaining = maxBatches

/-- A loop of the system and one of a worker at the same point. -/
inductive Related (call : LoopCall) (maxBatches : Nat) (machine : Machine) :
    Drive → Prop where
  | running {worker : Worker} {remaining totalDispatched : Nat}
      {activation : Activation} {mask : Mask} (allowed : worker.Open call.kind)
      (vacant : machine.system.timerQueue.Vacant)
      (depth : mask.depth = call.depth)
      (observed : mask.observed = worker.plugin.isSome)
      (above : call.depth < machine.stack.length)
      (found : activationAt call.depth machine.stack = some activation)
      (inside : call.Inside maxBatches remaining totalDispatched activation)
      (masked : worker.machine = mask.machine machine) :
      Related call maxBatches machine
        { worker := worker
          status := .running remaining totalDispatched 0 }
  | returned {worker : Worker} {totalDispatched executed : Nat}
      (bottom : machine.stack.length = call.depth)
      (answer : machine.answer =
        some (.idle maxBatches executed totalDispatched))
      (same : worker.machine.system.SameButClock machine.system) :
      Related call maxBatches machine
        { worker := worker, status := .returned totalDispatched }
  | left {worker : Worker} (bottom : machine.stack.length = call.depth)
      (answer : machine.answer = none)
      (same : worker.machine.system.SameButClock machine.system) :
      Related call maxBatches machine { worker := worker, status := .left }

/-- A handler has just been called. -/
theorem Related.handling {worker : Worker} {system : ActorSystem}
    {activation : Activation} {stack : List Activation} {mask : Mask}
    {remaining totalDispatched : Nat} (allowed : worker.Open call.kind)
    (vacant : system.timerQueue.Vacant) (depth : mask.depth = call.depth)
    (observed : mask.observed = worker.plugin.isSome)
    (bottom : stack.length = call.depth)
    (inside : call.Inside maxBatches remaining totalDispatched activation)
    (masked : worker.machine = mask.machine
      { system := system, stack := activation :: stack, answer := none }) :
    call.Related maxBatches
      { system := system, stack := activation :: stack, answer := none }
      { worker := worker
        status := .running remaining totalDispatched 0 } := by
  have found : activationAt call.depth (activation :: stack) =
      some activation := by
    rw [← bottom]
    exact activationAt_top stack activation
  have above : call.depth < (activation :: stack).length := by
    rw [← bottom]
    exact Nat.lt_succ_self _
  exact .running allowed vacant depth observed above found inside masked

theorem Related.agree {machine : Machine} {drive : Drive}
    (related : call.Related maxBatches machine drive) :
    LoopsAgree call.depth (.ok machine) (.ok drive) := by
  cases related with
  | @running _ _ _ _ mask _ _ _ _ above _ _ masked =>
      refine ⟨?_, mask.point, mask.tick, ?_⟩
      · rw [Machine.loopOutcome, if_pos above]
        rfl
      · rw [masked]
        rfl
  | returned bottom answer same =>
      refine ⟨?_, same⟩
      rw [Machine.loopOutcome, if_neg (Nat.not_lt.mpr (Nat.le_of_eq bottom)),
        answer]
      rfl
  | left bottom answer same =>
      refine ⟨?_, same⟩
      rw [Machine.loopOutcome, if_neg (Nat.not_lt.mpr (Nat.le_of_eq bottom)),
        answer]
      rfl

/-- A loop that may go on takes its turn. -/
theorem runOnce_open {worker : Worker} (allowed : worker.Open call.kind)
    (now : TimePoint) :
    call.runOnce worker now =
      worker.loopRunOnce now call.maxMessagesPerService
        worker.plugin.isSome := by
  unfold runOnce
  cases kind : call.kind with
  | workerLoop =>
      have none := allowed.alone kind
      rw [none]
      rfl
  | workerRunner =>
      simp only [Worker.runOnce]
      cases plugged : worker.plugin with
      | none => rfl
      | some monitor =>
          have wanted : ¬monitor.stopRequested worker.workerId = true := by
            rw [WorkerMonitor.stopRequested, allowed.quit monitor plugged]
            exact Bool.false_ne_true
          simp only [if_neg wanted, Option.isSome_some]

/-- The loop of the system between two batches. -/
def between (call : LoopCall) (maxBatches totalDispatched executed : Nat)
    (system : ActorSystem) (stack : List Activation) : Machine :=
  if executed < maxBatches then
    Machine.launch system stack call.maxMessagesPerService false
      (.untilIdle maxBatches call.maxMessagesPerService totalDispatched
        executed)
  else
    { system := system
      stack := stack
      answer := some (.idle maxBatches executed totalDispatched) }

/-- Both loops take the next batch, or return. -/
theorem cycles_related {worker : Worker} {system : ActorSystem}
    {stack : List Activation} {remaining totalDispatched executed : Nat}
    (allowed : worker.Open call.kind) (vacant : system.timerQueue.Vacant)
    (bottom : stack.length = call.depth)
    (same : worker.machine.system.SameButClock system)
    (activations : worker.machine.stack = stack)
    (cycle : executed + remaining = maxBatches) :
    ∃ drive, call.cycles remaining worker totalDispatched = .ok drive ∧
      call.Related maxBatches
        (call.between maxBatches totalDispatched executed system stack)
        drive := by
  cases remaining with
  | zero =>
      refine ⟨_, rfl, ?_⟩
      rw [between, if_neg (by omega)]
      exact .returned bottom rfl same
  | succ remaining =>
      obtain ⟨point, tick, shape⟩ := same
      have pumps : ∃ point tick, worker.machine.system.pumpTimers
          (call.clock remaining) = some (0, system.atClock point tick) := by
        rw [shape]
        exact (system.atClock point tick).pumpTimers_vacant vacant _
      obtain ⟨later, more, pumped⟩ := pumps
      let mask : Mask :=
        { depth := call.depth
          observed := worker.plugin.isSome
          point := later
          tick := more }
      let started : Worker :=
        { worker with
          machine := Machine.launch (system.atClock later more)
            worker.machine.stack call.maxMessagesPerService
            worker.plugin.isSome .user }
      have begins : ∀ turn, started.settle call.depth 0 = .ok turn →
          call.cycles (remaining + 1) worker totalDispatched =
            afterTurn (fun next total => call.cycles remaining next total)
              remaining totalDispatched turn := by
        intro turn settled
        rw [← bottom, ← activations] at settled
        rw [cycles, if_neg (by simp [allowed.stop]), runOnce_open allowed,
          Worker.loopRunOnce, if_neg (by simp [allowed.stop]), pumped]
        simp only [started] at settled
        simp only [settled]
      obtain ⟨batch, unobserved, caller, hands⟩ :=
        system.startBatch_hands call.maxMessagesPerService
          worker.plugin.isSome (.untilIdle maxBatches
            call.maxMessagesPerService totalDispatched executed)
      have turned : started.machine = Machine.turned stack (.batch 0)
          ((system.startBatch call.maxMessagesPerService
            worker.plugin.isSome .user).1,
          mask.system (system.startBatch call.maxMessagesPerService
            worker.plugin.isSome .user).2) := by
        show Machine.launch _ _ _ _ _ = _
        rw [Machine.launch_turned, ActorSystem.startBatch_atClock,
          activations]
        rfl
      have goes : worker.Goes started := worker.goes_of_machine _
      rw [between, if_pos (by omega), Machine.launch_turned]
      rcases @Worker.settle_hands started mask batch stack 0 _ _ rfl bottom
          hands turned with
        ⟨ended, result, left, _, settled⟩ |
        ⟨activation, running, next, result, same, phase, settled, onward,
          masked⟩
      · refine ⟨_, begins _ settled, ?_⟩
        rw [result]
        exact .returned bottom rfl ⟨later, more, left⟩
      · refine ⟨_, begins _ settled, ?_⟩
        have kept := system.startBatch_keeps call.maxMessagesPerService false
          (.untilIdle maxBatches call.maxMessagesPerService totalDispatched
            executed)
        rw [result] at kept ⊢
        refine Related.handling ((goes.trans onward).remains _ allowed) ?_ rfl
          (goes.trans onward).plugged.symm bottom
          ⟨phase, ?_, executed, ?_, by omega⟩ masked
        · rw [kept.timerQueue]
          exact vacant
        · rw [same]
          exact unobserved
        · rw [same]
          exact caller

/-- The loops go on together, or meet the same fault. -/
def Together (call : LoopCall) (maxBatches : Nat) :
    Except Fault Machine → Except Fault Drive → Prop
  | .ok machine, .ok drive => call.Related maxBatches machine drive
  | .error fault, .error other => fault = other
  | _, _ => False

/-- A batch goes on under a mask. -/
theorem proceed_masked {mask : Mask} {system : ActorSystem}
    {stack : List Activation} {batch : Batch} {service : ServiceSlot}
    (found : system.services.lookup batch.handle = some service) :
    Machine.proceed (mask.system system) stack (batch.inTurn mask.observed) =
      .ok (Machine.turned stack (.batch batch.dispatched)
        ((system.continueBatch (batch.inTurn mask.observed) service).1,
          mask.system
            (system.continueBatch (batch.inTurn mask.observed) service).2)) := by
  have hidden : AList.lookup (batch.inTurn mask.observed).handle
      (mask.system system).services = some service := found
  rw [Machine.proceed_turned hidden rfl, Mask.system,
    ActorSystem.continueBatch_atClock]
  rfl

/-- Both loops go on with a batch that has dispatched a message. -/
theorem proceeds_together {worker moved : Worker} {mask : Mask}
    {system : ActorSystem} {batch : Batch} {stack : List Activation}
    {service : ServiceSlot} {remaining totalDispatched executed : Nat}
    (allowed : worker.Open call.kind) (vacant : system.timerQueue.Vacant)
    (depth : mask.depth = call.depth)
    (observed : mask.observed = worker.plugin.isSome)
    (bottom : stack.length = mask.depth)
    (unobserved : batch.observed = false)
    (caller : batch.caller = .untilIdle maxBatches call.maxMessagesPerService
      totalDispatched executed)
    (cycle : executed + 1 + remaining = maxBatches)
    (positive : batch.dispatched ≠ 0)
    (found : system.services.lookup batch.handle = some service)
    (goes : worker.Goes moved)
    (turned : moved.machine = Machine.turned stack (.batch batch.dispatched)
      ((system.continueBatch (batch.inTurn mask.observed) service).1,
        mask.system
          (system.continueBatch (batch.inTurn mask.observed) service).2)) :
    ∃ next turn drive, Machine.proceed system stack batch = .ok next ∧
      moved.settle call.depth 0 = .ok turn ∧
      afterTurn (call.cycles remaining) remaining totalDispatched turn =
        .ok drive ∧
      call.Related maxBatches next drive := by
  have hands := @ActorSystem.continueBatch_hands system batch unobserved
    mask.observed service
  have kept := system.continueBatch_keeps batch service
  have watched : mask.observed = moved.plugin.isSome :=
    observed.trans goes.plugged.symm
  rcases @Worker.settle_hands moved mask batch stack batch.dispatched _ _
      watched bottom hands turned with
    ⟨ended, result, left, below, settled⟩ |
    ⟨next, started, onward, result, same, phase, settled, goesOn, hides⟩
  · rw [result] at kept
    have busy : WorkerLoopTurn.idle
        { dispatchedMessages := batch.dispatched } = false := by
      simp [WorkerLoopTurn.idle, positive]
    have again : call.between maxBatches
        (totalDispatched + batch.dispatched) (executed + 1) ended stack =
          Machine.finish ended stack batch := by
      simp only [between, Machine.finish, caller]
      rw [if_neg positive]
    have timers : ended.timerQueue.Vacant := by
      rw [kept.timerQueue]
      exact vacant
    obtain ⟨drive, cycled, related⟩ :=
      @cycles_related call maxBatches (moved.endTurn
          { dispatchedMessages := batch.dispatched }) ended stack
        remaining (totalDispatched + batch.dispatched) (executed + 1)
        ((goes.trans (moved.endTurn_goes _)).remains _ allowed) timers
        (bottom.trans depth) ⟨mask.point, mask.tick, left⟩ below cycle
    rw [depth] at settled
    refine ⟨_, _, drive, Machine.proceed_ended found result, settled, ?_, ?_⟩
    · simp only [afterTurn, busy, Bool.false_eq_true, if_false]
      exact cycled
    · rw [← again]
      exact related
  · rw [result] at kept
    rw [depth] at settled bottom
    refine ⟨_, _, _, Machine.proceed_started found result, settled, rfl, ?_⟩
    refine Related.handling ((goes.trans goesOn).remains _ allowed) ?_
      depth (observed.trans (goes.trans goesOn).plugged.symm) bottom
      ⟨phase, ?_, executed, ?_, cycle⟩ hides
    · rw [kept.timerQueue]
      exact vacant
    · rw [same]
      exact unobserved
    · rw [same]
      exact caller

/-- The handler of the batch itself returns. -/
theorem returns_together {worker : Worker} {machine : Machine} {mask : Mask}
    {activation : Activation} {stack : List Activation}
    {remaining totalDispatched : Nat} (allowed : worker.Open call.kind)
    (vacant : machine.system.timerQueue.Vacant)
    (depth : mask.depth = call.depth)
    (observed : mask.observed = worker.plugin.isSome)
    (activations : machine.stack = activation :: stack)
    (bottom : stack.length = call.depth)
    (inside : call.Inside maxBatches remaining totalDispatched activation)
    (masked : worker.machine = mask.machine machine) :
    call.Together maxBatches (machine.step .returns)
      (call.step
        { worker := worker
          status := .running remaining totalDispatched 0 } .returns) := by
  obtain ⟨system, activations, answer⟩ := machine
  cases activations
  rw [← depth] at bottom
  rw [mask.machine_top bottom] at masked
  obtain ⟨executed, caller, cycle⟩ := inside.caller
  let counted : ActorSystem :=
    { system with
      metrics := system.metrics.onMessageDispatched
      history := system.history ++
        [.handled activation.batch.handle activation.message] }
  let batch : Batch :=
    { activation.batch with dispatched := activation.batch.dispatched + 1 }
  by_cases erased : activation.erased = true
  · simp only [step, masked, Machine.step, Machine.resume, if_pos erased]
    rfl
  · have plain : Machine.step
        { system := system, stack := activation :: stack, answer := answer }
          .returns = Machine.proceed counted stack batch := by
      simp only [Machine.step, Machine.resume, if_neg erased, inside.phase]
      rfl
    have hidden : worker.machine.step .returns =
        Machine.proceed (mask.system counted) stack
          (batch.inTurn mask.observed) := by
      simp only [masked, Machine.step, Machine.resume, if_neg erased,
        inside.phase]
      rfl
    rw [plain]
    simp only [step, hidden]
    cases found : counted.services.lookup activation.batch.handle with
    | none =>
        have plainFault : Machine.proceed counted stack batch =
            .error .erasedSlot := by
          simp only [Machine.proceed, batch, found]
        have hiddenFault : Machine.proceed (mask.system counted) stack
            (batch.inTurn mask.observed) = .error .erasedSlot := by
          have absent : AList.lookup (batch.inTurn mask.observed).handle
              (mask.system counted).services = none := found
          simp only [Machine.proceed, absent]
        rw [plainFault, hiddenFault]
        rfl
    | some service =>
        have shown := @proceed_masked mask counted stack batch service found
        generalize shape : Machine.turned stack (.batch batch.dispatched)
          ((counted.continueBatch (batch.inTurn mask.observed) service).1,
            mask.system (counted.continueBatch
              (batch.inTurn mask.observed) service).2) = turned at shown
        obtain ⟨next, turn, drive, plainly, settled, after, related⟩ :=
          @proceeds_together call maxBatches worker
            { worker with machine := turned } mask counted batch stack service
            remaining totalDispatched executed allowed vacant depth observed
            bottom inside.unobserved caller cycle (Nat.succ_ne_zero _) found
            (worker.goes_of_machine turned) shape.symm
        simp only [shown, plainly, settled, after]
        exact related

/-- Anything else that a handler does. -/
theorem inner_together {worker : Worker} {machine : Machine} {mask : Mask}
    {activation : Activation} {remaining totalDispatched : Nat}
    {action : Action} (allowed : worker.Open call.kind)
    (vacant : machine.system.timerQueue.Vacant)
    (depth : mask.depth = call.depth)
    (observed : mask.observed = worker.plugin.isSome)
    (above : call.depth < machine.stack.length)
    (found : activationAt call.depth machine.stack = some activation)
    (inside : call.Inside maxBatches remaining totalDispatched activation)
    (masked : worker.machine = mask.machine machine)
    (unset : action.SetsNoTimer)
    (inner : action = .returns → call.depth + 1 < machine.stack.length) :
    call.Together maxBatches (machine.step action)
      (call.step
        { worker := worker
          status := .running remaining totalDispatched 0 } action) := by
  rw [← depth] at above found inner
  obtain ⟨point, tick, hidden⟩ := Mask.step_clocked unset vacant above inner
  let later : Mask := { mask with point := point, tick := tick }
  simp only [step, masked, hidden]
  cases stepped : machine.step action with
  | error fault => rfl
  | ok next =>
      have still := Machine.step_vacant unset vacant stepped
      let moved : Worker := { worker with machine := later.machine next }
      have goes : worker.Goes moved := worker.goes_of_machine _
      have height : moved.machine.stack.length = next.stack.length :=
        later.length_stack next.stack
      simp only [Except.map]
      rcases Machine.step_activationAt stepped above found inner with
        ⟨higher, kept, present, batch, phase⟩ | ⟨bottom, answer⟩
      · have quiet : moved.observe call.depth = .ok moved := by
          apply Worker.observe_handling
          rw [← depth]
          exact @Mask.handling_masked later next.stack kept present
            (phase.trans inside.phase)
        rw [depth] at higher present
        have settled : moved.settle call.depth 0 = .ok (.handling 0, moved) := by
          rw [Worker.settle, if_pos (by rw [height]; exact higher), quiet]
        rw [settled]
        have within : call.Inside maxBatches remaining totalDispatched kept := by
          refine ⟨phase.trans inside.phase, ?_, ?_⟩
          · rw [batch]
            exact inside.unobserved
          · rw [batch]
            exact inside.caller
        exact @Related.running call maxBatches next moved remaining
          totalDispatched kept later (goes.remains _ allowed) still depth
          observed higher present within rfl
      · rw [depth] at bottom
        have below : ¬call.depth < moved.machine.stack.length := by
          rw [height]
          exact Nat.not_lt.mpr (Nat.le_of_eq bottom)
        have silent : moved.machine.answer = none := answer
        have settled : moved.settle call.depth 0 = .ok (.left, moved) := by
          rw [Worker.settle, if_neg below, silent]
        rw [settled]
        exact .left bottom answer ⟨point, tick, rfl⟩

/-- The step lemma of the loops. -/
theorem step_together {machine : Machine} {drive : Drive} {action : Action}
    (related : call.Related maxBatches machine drive)
    (unset : action.SetsNoTimer) :
    call.Together maxBatches (machine.loopStep call.depth action)
      (call.step drive action) := by
  cases related with
  | @running worker remaining totalDispatched activation mask allowed vacant
      depth observed above found inside masked =>
      have runs : machine.loopStep call.depth action = machine.step action := by
        rw [Machine.loopStep, Machine.loopOutcome, if_pos above, if_pos rfl]
      rw [runs]
      by_cases own : action = .returns ∧
          machine.stack.length = call.depth + 1
      · obtain ⟨rfl, height⟩ := own
        cases activations : machine.stack with
        | nil =>
            rw [activations] at height
            cases height
        | cons top stack =>
            rw [activations, List.length_cons, Nat.add_right_cancel_iff]
              at height
            rw [activations, ← height, activationAt_top,
              Option.some.injEq] at found
            rw [← found] at inside
            exact returns_together allowed vacant depth observed activations
              height inside masked
      · apply inner_together allowed vacant depth observed above found inside
          masked unset
        intro returns
        have higher : machine.stack.length ≠ call.depth + 1 := fun height =>
          own ⟨returns, height⟩
        omega
  | returned bottom answer same =>
      rw [Machine.loopStep, Machine.loopOutcome,
        if_neg (Nat.not_lt.mpr (Nat.le_of_eq bottom)), answer]
      rfl
  | left bottom answer same =>
      rw [Machine.loopStep, Machine.loopOutcome,
        if_neg (Nat.not_lt.mpr (Nat.le_of_eq bottom)), answer]
      rfl

/-- The run lemma of the loops. -/
theorem runs_together {machine : Machine} {drive : Drive}
    {actions : List Action} (related : call.Related maxBatches machine drive)
    (unset : ∀ action ∈ actions, action.SetsNoTimer) :
    call.Together maxBatches
      (Transition.runSteps (Machine.loopStep call.depth) machine actions)
      (Transition.runSteps call.step drive actions) := by
  induction actions generalizing machine drive with
  | nil => exact related
  | cons action actions induction =>
      have together := step_together related
        (unset action List.mem_cons_self)
      simp only [Transition.runSteps]
      cases plain : machine.loopStep call.depth action with
      | error fault =>
          rw [plain] at together
          cases driven : call.step drive action with
          | error other =>
              rw [driven] at together
              exact together
          | ok next =>
              rw [driven] at together
              exact together.elim
      | ok next =>
          rw [plain] at together
          cases driven : call.step drive action with
          | error other =>
              rw [driven] at together
              exact together.elim
          | ok after =>
              rw [driven] at together
              apply induction together
              intro later member
              exact unset later (List.mem_cons_of_mem _ member)

theorem Together.agree {reference : Except Fault Machine}
    {driven : Except Fault Drive}
    (together : call.Together maxBatches reference driven) :
    LoopsAgree call.depth reference driven := by
  cases reference with
  | error fault =>
      cases driven with
      | error other => exact together
      | ok drive => exact together.elim
  | ok machine =>
      cases driven with
      | error other => exact together.elim
      | ok drive => exact Related.agree together

end LoopCall

namespace Worker

/-- A worker that may go on makes the batches of the system. -/
theorem driveUntilIdle_agrees {worker : Worker} {kind : LoopKind}
    (allowed : worker.Open kind)
    (vacant : worker.machine.system.timerQueue.Vacant)
    (clock : Nat → TimePoint) (maxCycles maxMessagesPerService : Nat)
    {actions : List Action} (unset : ∀ action ∈ actions, action.SetsNoTimer) :
    LoopsAgree worker.machine.stack.length
      (worker.machine.driveUntilIdle maxCycles maxMessagesPerService actions)
      (worker.driveUntilIdle kind clock maxCycles maxMessagesPerService
        actions) := by
  let call := worker.loopCall kind clock maxMessagesPerService
  have entry : worker.machine.step
      (.runUntilIdle maxCycles maxMessagesPerService) =
        .ok (call.between maxCycles 0 0 worker.machine.system
          worker.machine.stack) := by
    simp only [Machine.step, LoopCall.between]
    split
    · rfl
    · rfl
  obtain ⟨drive, begun, related⟩ :=
    @LoopCall.cycles_related call maxCycles worker worker.machine.system
      worker.machine.stack maxCycles 0 0 allowed vacant rfl
      ⟨worker.machine.system.timerQueue.currentPoint,
        worker.machine.system.timerQueue.currentTick, rfl⟩ rfl
      (Nat.zero_add _)
  have start : worker.runUntilIdle kind clock maxCycles
      maxMessagesPerService = .ok drive := begun
  rw [Machine.driveUntilIdle, entry, driveUntilIdle, start]
  exact LoopCall.Together.agree (LoopCall.runs_together related unset)

end Worker

/-- Without pending timers, and with handlers that set none, a system, a loop,
a runner without plugin and a runner with a monitor are driven alike, whatever
the clocks read meanwhile. -/
theorem drive_loops_agree {machine : Machine}
    (vacant : machine.system.timerQueue.Vacant)
    {actions : List Action} (unset : ∀ action ∈ actions, action.SetsNoTimer)
    {monitor : WorkerMonitor} (wanted : monitor.quitRequested = false)
    (maxCycles maxMessagesPerService workerId : Nat)
    (loopClock runnerClock monitoredClock : Nat → TimePoint) :
    LoopsAgree machine.stack.length
        (machine.driveUntilIdle maxCycles maxMessagesPerService actions)
        (WorkerLoop.runUntilIdle machine loopClock maxCycles
          maxMessagesPerService actions) ∧
      LoopsAgree machine.stack.length
        (machine.driveUntilIdle maxCycles maxMessagesPerService actions)
        (WorkerRunner.runUntilIdle machine workerId none runnerClock maxCycles
          maxMessagesPerService actions) ∧
      LoopsAgree machine.stack.length
        (machine.driveUntilIdle maxCycles maxMessagesPerService actions)
        (WorkerRunner.runUntilIdle machine workerId (some monitor)
          monitoredClock maxCycles maxMessagesPerService actions) := by
  refine ⟨?_, ?_, ?_⟩
  · have allowed : Worker.Open .workerLoop { machine := machine } :=
      ⟨rfl, nofun, fun _ => rfl⟩
    exact Worker.driveUntilIdle_agrees allowed vacant loopClock maxCycles
      maxMessagesPerService unset
  · have allowed : Worker.Open .workerRunner
        { machine := machine, workerId := workerId, plugin := none } :=
      ⟨rfl, nofun, nofun⟩
    exact Worker.driveUntilIdle_agrees allowed vacant runnerClock maxCycles
      maxMessagesPerService unset
  · have allowed : Worker.Open .workerRunner
        { machine := machine, workerId := workerId, plugin := some monitor } := by
      refine ⟨rfl, ?_, nofun⟩
      intro other same
      cases same
      exact wanted
    exact Worker.driveUntilIdle_agrees allowed vacant monitoredClock maxCycles
      maxMessagesPerService unset

/-- A service answers itself once; every loop handles both messages. -/
theorem drive_loops_agree_twice :
    ∃ machine : Machine, Machine.Reaches Machine.Unrestricted 0
        [.registerService [97], .send { targetHandle := 1 }] machine ∧
      (machine.driveUntilIdle 64 1
          [.send { targetHandle := 1 }, .returns, .returns]).map
        (fun final => final.loopOutcome 0) = .ok (.returned 2) ∧
      LoopsAgree 0
        (machine.driveUntilIdle 64 1
          [.send { targetHandle := 1 }, .returns, .returns])
        (WorkerRunner.runUntilIdle machine 0 (some (WorkerMonitor.new 1))
          (fun remaining => Int64.ofNat (64 - remaining)) 64 1
          [.send { targetHandle := 1 }, .returns, .returns]) := by
  have ran : ∃ machine : Machine, Transition.runSteps Machine.step
      (Machine.new 0)
      [.registerService [97], .send { targetHandle := 1 }] = .ok machine ∧
      machine.stack = [] ∧
      machine.system.timerQueue = TimerQueue.new 0 ∧
      (machine.driveUntilIdle 64 1
          [.send { targetHandle := 1 }, .returns, .returns]).map
        (fun final => final.loopOutcome 0) = .ok (.returned 2) :=
    ⟨_, rfl, rfl, rfl, rfl⟩
  obtain ⟨machine, ran, outside, timers, outcome⟩ := ran
  have vacant : machine.system.timerQueue.Vacant := by
    rw [timers]
    exact fun _ => rfl
  have unset : ∀ action ∈ [.send { targetHandle := 1 }, .returns, .returns],
      Action.SetsNoTimer action := by
    intro action member
    simp only [List.mem_cons, List.not_mem_nil, or_false] at member
    rcases member with rfl | rfl | rfl
    · trivial
    · trivial
    · trivial
  have wanted : (WorkerMonitor.new 1).quitRequested = false := rfl
  have agree := drive_loops_agree vacant unset wanted 64 1 0 (fun _ => 0)
    (fun _ => 0) fun remaining => Int64.ofNat (64 - remaining)
  rw [outside] at agree
  exact ⟨machine, Transition.Execution.ofRunSteps ran fun _ _ _ => trivial,
    outcome, agree.2.2⟩

end Crynet
