import Crynet.Actor.CallStack
import Crynet.Actor.Retiming

/-!
# Batches in disguise

`dispatch_batch` does the same whoever calls it, up to what its caller makes of
the result, and an observer sees a message before the handler does.  So two
machines that differ in who has begun one batch, and in the clock of their
timers, go on in the same way until this batch ends.
-/

namespace Crynet

/-- One batch, known by the number of activations below it, is called as a turn
of a worker, and the timers have another clock. -/
structure Mask where
  depth : Nat
  observed : Bool
  point : TimePoint
  tick : UInt64

/-- The batch as a turn begins it. -/
def Batch.inTurn (batch : Batch) (observed : Bool) : Batch :=
  { batch with
    observed := observed
    caller := .user }

namespace Mask

def stack (mask : Mask) : List Activation → List Activation
  | [] => []
  | activation :: rest =>
      (if rest.length = mask.depth then
        { activation with batch := activation.batch.inTurn mask.observed }
      else
        activation) :: mask.stack rest

def system (mask : Mask) (system : ActorSystem) : ActorSystem :=
  system.atClock mask.point mask.tick

def machine (mask : Mask) (machine : Machine) : Machine :=
  { system := mask.system machine.system
    stack := mask.stack machine.stack
    answer := machine.answer }

variable (mask : Mask)

@[simp] theorem stack_nil : mask.stack [] = [] := rfl

@[simp] theorem length_stack (stack : List Activation) :
    (mask.stack stack).length = stack.length := by
  induction stack with
  | nil => rfl
  | cons activation rest induction =>
      simp only [Mask.stack, List.length_cons, induction]

/-- The stack does not tell the clock. -/
theorem stack_clock (point : TimePoint) (tick : UInt64)
    (stack : List Activation) :
    Mask.stack { mask with point := point, tick := tick } stack =
      mask.stack stack := by
  induction stack with
  | nil => rfl
  | cons activation rest induction => simp only [Mask.stack, induction]

/-- An activation above the batch is the same. -/
theorem stack_above {activation : Activation} {rest : List Activation}
    (above : mask.depth < rest.length) :
    mask.stack (activation :: rest) = activation :: mask.stack rest := by
  rw [Mask.stack, if_neg (Nat.ne_of_gt above)]

/-- So are those below it. -/
theorem stack_below {stack : List Activation}
    (below : stack.length ≤ mask.depth) : mask.stack stack = stack := by
  induction stack with
  | nil => rfl
  | cons activation rest induction =>
      rw [List.length_cons] at below
      rw [Mask.stack, if_neg (by omega), induction (by omega)]

/-- The batch itself is the same but for its caller and its observer. -/
theorem machine_top {stack : List Activation}
    (bottom : stack.length = mask.depth) (system : ActorSystem)
    (activation : Activation) (answer : Option Answer) :
    mask.machine
        { system := system, stack := activation :: stack, answer := answer } =
      { system := mask.system system
        stack :=
          { activation with
            batch := activation.batch.inTurn mask.observed } :: stack
        answer := answer } := by
  simp only [Mask.machine, Mask.stack, if_pos bottom,
    mask.stack_below (Nat.le_of_eq bottom)]

private theorem stack_erase (handle : ServiceHandle) (stack : List Activation) :
    mask.stack (stack.map (Activation.erase handle)) =
      (mask.stack stack).map (Activation.erase handle) := by
  induction stack with
  | nil => rfl
  | cons activation rest induction =>
      simp only [List.map_cons, Mask.stack, List.length_map, induction]
      congr 1
      simp only [Activation.erase]
      split
      · split <;> simp_all [Batch.inTurn]
      · rfl

variable {mask} {system : ActorSystem} {stack : List Activation}

private theorem launch_masked (above : mask.depth < stack.length)
    (maxMessagesPerService : Nat) (observed : Bool) (caller : Caller) :
    Machine.launch (mask.system system) (mask.stack stack)
        maxMessagesPerService observed caller =
      mask.machine (Machine.launch system stack maxMessagesPerService
        observed caller) := by
  simp only [Machine.launch, Mask.system, ActorSystem.startBatch_atClock]
  cases system.startBatch maxMessagesPerService observed caller with
  | mk activation started =>
      cases activation with
      | none => rfl
      | some activation =>
          simp only [Mask.machine, mask.stack_above above]
          rfl

private theorem finish_masked (above : mask.depth < stack.length) (batch : Batch) :
    Machine.finish (mask.system system) (mask.stack stack) batch =
      mask.machine (Machine.finish system stack batch) := by
  unfold Machine.finish
  cases batch.caller with
  | user => rfl
  | once => rfl
  | untilIdle maxBatches maxMessages totalDispatched executedBatches =>
      simp only
      split
      · rfl
      · split
        · exact launch_masked above _ _ _
        · rfl

theorem proceed_masked (above : mask.depth < stack.length) (batch : Batch) :
    Machine.proceed (mask.system system) (mask.stack stack) batch =
      (Machine.proceed system stack batch).map mask.machine := by
  have same : (mask.system system).services = system.services := rfl
  simp only [Machine.proceed, same]
  cases system.services.lookup batch.handle with
  | none => rfl
  | some service =>
      simp only [Mask.system, ActorSystem.continueBatch_atClock]
      cases system.continueBatch batch service with
      | mk activation continued =>
          cases activation with
          | none => exact congrArg Except.ok (finish_masked above batch)
          | some activation =>
              simp only [Except.map, Mask.machine, mask.stack_above above]
              rfl

/-- A callback above the batch returns. -/
theorem resume_masked {machine : Machine}
    (above : mask.depth + 1 < machine.stack.length) :
    (mask.machine machine).resume = machine.resume.map mask.machine := by
  obtain ⟨system, stack, answer⟩ := machine
  cases stack with
  | nil => rfl
  | cons activation rest =>
      have higher : mask.depth < rest.length := by
        simp only [List.length_cons] at above
        omega
      simp only [Machine.resume, Mask.machine, mask.stack_above higher]
      split
      · rfl
      · cases activation.phase with
        | observing =>
            have same : (mask.system system).services = system.services := rfl
            simp only [Machine.observed, same]
            cases system.services.lookup activation.batch.handle with
            | none => rfl
            | some service =>
                simp only [Except.map, Mask.machine, mask.stack_above higher]
                rfl
        | handling =>
            let counted : ActorSystem :=
              { system with
                metrics := system.metrics.onMessageDispatched
                history := system.history ++
                  [.handled activation.batch.handle activation.message] }
            exact @proceed_masked mask counted rest higher
              { activation.batch with
                dispatched := activation.batch.dispatched + 1 }

private theorem unwind_masked (machine : Machine) :
    (mask.machine machine).unwind = machine.unwind.map mask.machine := by
  obtain ⟨system, stack, answer⟩ := machine
  cases stack with
  | nil => rfl
  | cons activation rest =>
      simp only [Machine.unwind, Mask.machine, Mask.stack, Except.map]
      split
      · rfl
      · rfl

private theorem onContext_masked (machine : Machine)
    (method : ServiceContext → ServiceContext) :
    (mask.machine machine).onContext method =
      (machine.onContext method).map mask.machine := by
  obtain ⟨system, stack, answer⟩ := machine
  have same : (mask.system system).services = system.services := rfl
  have masked : ∀ activation : Activation, ∀ rest : List Activation,
      ∃ batch : Batch, batch.handle = activation.batch.handle ∧
        mask.stack (activation :: rest) =
          { activation with batch := batch } :: mask.stack rest := by
    intro activation rest
    rw [Mask.stack]
    split
    · exact ⟨activation.batch.inTurn mask.observed, rfl, rfl⟩
    · exact ⟨activation.batch, rfl, rfl⟩
  cases stack with
  | nil => rfl
  | cons activation rest =>
      obtain ⟨⟨handle, _, _, _, _⟩, sameHandle, shape⟩ :=
        masked activation rest
      simp only at sameHandle
      subst sameHandle
      simp only [Machine.onContext, Mask.machine, shape, same]
      split
      · rfl
      · split
        · rfl
        · cases system.services.lookup activation.batch.handle with
          | none => rfl
          | some service =>
              simp only [Except.map, Machine.setSystem, Mask.machine, shape]
              rfl

private theorem release_masked (machine : Machine) (handle : ServiceHandle) :
    (mask.machine machine).release handle =
      mask.machine (machine.release handle) := by
  simp only [Machine.release, Mask.machine, Mask.system,
    ActorSystem.releaseService_atClock]
  split
  · rw [stack_erase]
  · rfl

private theorem releaseEach_masked (handles : List ServiceHandle) (machine : Machine) :
    Machine.releaseEach handles (mask.machine machine) =
      mask.machine (Machine.releaseEach handles machine) := by
  induction handles generalizing machine with
  | nil => rfl
  | cons handle handles induction =>
      simp only [Machine.releaseEach, release_masked, induction]

private theorem returning_masked {Result : Type} (machine : Machine)
    (outcome : Option (Result × ActorSystem)) :
    (mask.machine machine).returning
        (outcome.map fun result => (result.1, mask.system result.2)) =
      (machine.returning outcome).map mask.machine := by
  cases outcome with
  | none => rfl
  | some result => rfl

end Mask

namespace Mask

variable {mask : Mask}

/-- The step lemma of masks, apart from what ends the batch. -/
theorem step_masked {machine : Machine} {action : Action}
    (unset : action.SetsNoTimer) (unpumped : ∀ now, action ≠ .pumpTimers now)
    (inside : mask.depth < machine.stack.length)
    (above : action = .returns → mask.depth + 1 < machine.stack.length) :
    (mask.machine machine).step action =
      (machine.step action).map mask.machine := by
  cases action with
  | registerService serviceName =>
      have registered := machine.system.registerService_atClock mask.point
        mask.tick serviceName
      show (mask.machine machine).returning
        ((mask.system machine.system).registerService serviceName) = _
      rw [Mask.system, registered]
      exact returning_masked machine _
  | send message =>
      have sent := machine.system.send_atClock mask.point mask.tick message
      show Except.ok ((mask.machine machine).setSystem
        ((mask.system machine.system).send message).2) = _
      rw [Mask.system, sent]
      rfl
  | stopService handle =>
      have stopped :=
        machine.system.stopService_atClock mask.point mask.tick handle
      show Except.ok ((mask.machine machine).setSystem
        ((mask.system machine.system).stopService handle).2) = _
      rw [Mask.system, stopped]
      rfl
  | releaseService handle =>
      exact congrArg Except.ok (release_masked machine handle)
  | shutdown =>
      have released :=
        @releaseEach_masked mask machine.system.services.keys machine
      show Except.ok { Machine.releaseEach machine.system.services.keys
        (mask.machine machine) with answer := none } = _
      rw [released]
      rfl
  | call sourceHandle targetHandle payloadText =>
      have called := machine.system.call_atClock mask.point mask.tick
        sourceHandle targetHandle payloadText
      show (mask.machine machine).returning ((mask.system machine.system).call
        sourceHandle targetHandle payloadText) = _
      rw [Mask.system, called]
      exact returning_masked machine _
  | respond sourceHandle sessionId payloadText =>
      have answered := machine.system.respond_atClock mask.point mask.tick
        sourceHandle sessionId payloadText
      show Except.ok ((mask.machine machine).setSystem
        ((mask.system machine.system).respond sourceHandle sessionId
          payloadText).2) = _
      rw [Mask.system, answered]
      rfl
  | scheduleTimeout targetHandle sessionId delay payloadText =>
      exact unset.elim
  | cancelTimeout timerId =>
      have cancelled :=
        machine.system.cancelTimeout_atClock mask.point mask.tick timerId
      show Except.ok ((mask.machine machine).setSystem
        ((mask.system machine.system).cancelTimeout timerId).2) = _
      rw [Mask.system, cancelled]
      rfl
  | pumpTimers now => exact absurd rfl (unpumped now)
  | dispatchBatch maxMessagesPerService observed =>
      exact congrArg Except.ok (launch_masked inside _ _ _)
  | runUntilIdle maxBatches maxMessagesPerService =>
      simp only [Machine.step]
      split
      · exact congrArg Except.ok (launch_masked inside _ _ _)
      · rfl
  | dispatchOnce => exact congrArg Except.ok (launch_masked inside _ _ _)
  | initializeContext =>
      exact onContext_masked machine fun context =>
        context.initializeContext.2
  | startContext =>
      exact onContext_masked machine fun context => context.start.2
  | stopContext => exact onContext_masked machine _
  | releaseContext => exact onContext_masked machine _
  | returns => exact resume_masked (above rfl)
  | throws => exact unwind_masked machine

/-- A step moves the clock at most. -/
theorem step_clocked {machine : Machine} {action : Action}
    (unset : action.SetsNoTimer) (vacant : machine.system.timerQueue.Vacant)
    (inside : mask.depth < machine.stack.length)
    (above : action = .returns → mask.depth + 1 < machine.stack.length) :
    ∃ point tick, (mask.machine machine).step action =
      (machine.step action).map
        (Mask.machine { mask with point := point, tick := tick }) := by
  by_cases pumps : ∃ now, action = .pumpTimers now
  · obtain ⟨now, rfl⟩ := pumps
    obtain ⟨_, _, plain⟩ := machine.system.pumpTimers_vacant vacant now
    obtain ⟨point, tick, hidden⟩ :=
      (mask.system machine.system).pumpTimers_vacant vacant now
    refine ⟨point, tick, ?_⟩
    show (mask.machine machine).returning
        ((mask.system machine.system).pumpTimers now) =
      (machine.returning (machine.system.pumpTimers now)).map _
    rw [plain, hidden]
    simp only [Machine.returning, Except.map, Machine.setSystem, Mask.machine,
      stack_clock]
    rfl
  · refine ⟨mask.point, mask.tick, ?_⟩
    apply step_masked unset _ inside above
    intro now same
    exact pumps ⟨now, same⟩

/-- The handler of the batch is not shown its message again. -/
theorem handling_masked {stack : List Activation} {activation : Activation}
    (found : activationAt mask.depth stack = some activation)
    (phase : activation.phase = .handling) :
    ∀ top below, mask.stack stack = top :: below →
      below.length = mask.depth → top.phase = .handling := by
  intro top below shape bottom
  cases stack with
  | nil => cases shape
  | cons current rest =>
      rw [Mask.stack, List.cons.injEq] at shape
      obtain ⟨same, tail⟩ := shape
      have here : rest.length = mask.depth := by
        rw [← bottom, ← tail, length_stack]
      rw [activationAt, if_pos here, Option.some.injEq] at found
      rw [if_pos here] at same
      rw [← same, found]
      exact phase

end Mask

end Crynet
