import Crynet.Actor.Operations
import Crynet.Foundation.Execution

/-!
# Dispatching

`dispatch_batch` hands control to observers and handlers, which may call any
operation, dispatching included.  The machine is a system with a call stack:
one activation for each `dispatch_batch` that has not returned.  Its actions
are the operations, called by the program when the stack is empty and by the
running observer or handler otherwise, and the two ways in which the running
callback ends.  `run_until_idle` and `dispatch_once` differ from
`dispatch_batch` only in what they do with its result, which the caller of an
activation records.

An activation keeps using the slot it found when it began.  Its `erased` flag
says that this slot is gone since; it is not in the source.
-/

namespace Crynet

/-- Who called `dispatch_batch`: the user, `dispatch_once`, or the loop of
`run_until_idle` with its local counters. -/
inductive Caller where
  | user
  | once
  | untilIdle (maxBatches maxMessages totalDispatched executedBatches : Nat)
  deriving DecidableEq, Repr

/-- The local variables of `dispatch_batch` before and after a message. -/
structure Batch where
  handle : ServiceHandle
  maxMessages : Nat
  observed : Bool
  dispatched : Nat
  caller : Caller
  deriving DecidableEq, Repr

/-- The callback that runs: the observer or the handler. -/
inductive Phase where
  | observing
  | handling
  deriving DecidableEq, Repr

/-- A `dispatch_batch` in the middle of a message. -/
structure Activation where
  batch : Batch
  message : Message
  phase : Phase
  erased : Bool
  deriving DecidableEq, Repr

/-- What a dispatch operation returned. -/
inductive Answer where
  | batch (dispatched : Nat)
  | once (dispatched : Bool)
  | idle (maxBatches executedBatches totalDispatched : Nat)
  deriving DecidableEq, Repr

/-- Why an action has no next state: a loop never ends, no callback runs, or
memory of an erased slot is accessed. -/
inductive Fault where
  | diverges
  | notCalled
  | erasedSlot
  | erasedContext
  deriving DecidableEq, Repr

inductive Action where
  | registerService (serviceName : Text)
  | send (message : Message)
  | stopService (handle : ServiceHandle)
  | releaseService (handle : ServiceHandle)
  | shutdown
  | call (sourceHandle targetHandle : ServiceHandle) (payloadText : Text)
  | respond (sourceHandle : ServiceHandle) (sessionId : SessionId)
      (payloadText : Text)
  | scheduleTimeout (targetHandle : ServiceHandle) (sessionId : SessionId)
      (delay : Int64) (payloadText : Text)
  | cancelTimeout (timerId : TimerId)
  | pumpTimers (now : TimePoint)
  | dispatchBatch (maxMessagesPerService : Nat) (observed : Bool)
  | runUntilIdle (maxBatches maxMessagesPerService : Nat)
  | dispatchOnce
  | initializeContext
  | startContext
  | stopContext
  | releaseContext
  | returns
  | throws
  deriving DecidableEq, Repr

/-- The answer is what the last action made a dispatch operation return. -/
structure Machine where
  system : ActorSystem
  stack : List Activation
  answer : Option Answer

namespace ActorSystem

/-- The call of the handler. -/
def invoke (system : ActorSystem) (handle : ServiceHandle)
    (context : ServiceContext) (message : Message) : ActorSystem :=
  system.record (.delivered handle message context.isRunning)

/-- The end of `dispatch_batch`, behind the loop. -/
def finishBatch (system : ActorSystem) (handle : ServiceHandle)
    (service : ServiceSlot) : ActorSystem :=
  let completed := (system.scheduler.complete handle).2
  { system with
    scheduler :=
      if service.queue.empty = false ∧ service.context.isRunning = true then
        (completed.markReady handle).2
      else
        completed }

/-- The loop of `dispatch_batch` up to the next callback; no activation when
the batch is over. -/
def continueBatch (system : ActorSystem) (batch : Batch)
    (service : ServiceSlot) : Option Activation × ActorSystem :=
  if batch.dispatched < batch.maxMessages then
    match service.queue.dequeue with
    | none => (none, system.finishBatch batch.handle service)
    | some (message, queue) =>
        let taken := system.setService batch.handle
          { service with queue := queue }
        if batch.observed then
          (some
            { batch := batch
              message := message
              phase := .observing
              erased := false }, taken)
        else
          (some
            { batch := batch
              message := message
              phase := .handling
              erased := false }, taken.invoke batch.handle service.context message)
  else
    (none, system.finishBatch batch.handle service)

/-- `dispatch_batch` up to the first callback; no activation when it returns
zero. -/
def startBatch (system : ActorSystem) (maxMessagesPerService : Nat)
    (observed : Bool) (caller : Caller) : Option Activation × ActorSystem :=
  match system.scheduler.acquireNext with
  | none => (none, system)
  | some (handle, acquired) =>
      match system.services.lookup handle with
      | none =>
          (none, { system with scheduler := (acquired.complete handle).2 })
      | some service =>
          { system with scheduler := acquired }.continueBatch
            { handle := handle
              maxMessages :=
                if maxMessagesPerService = 0 then 1 else maxMessagesPerService
              observed := observed
              dispatched := 0
              caller := caller }
            service

end ActorSystem

/-- What the operation that called `dispatch_batch` returns when it gets the
last result. -/
def Caller.answer : Caller → Nat → Answer
  | .user, dispatched => .batch dispatched
  | .once, dispatched => .once (decide (0 < dispatched))
  | .untilIdle maxBatches _ totalDispatched executedBatches, _ =>
      .idle maxBatches executedBatches totalDispatched

/-- Releasing a service erases the slot its activations use. -/
def Activation.erase (handle : ServiceHandle) (activation : Activation) :
    Activation :=
  if activation.batch.handle = handle then { activation with erased := true }
  else activation

namespace Machine

/-- A system constructed when the clock reads `now`. -/
def new (now : TimePoint) : Machine :=
  { system := ActorSystem.new now, stack := [], answer := none }

/-- The effect of an operation that does not dispatch. -/
def setSystem (machine : Machine) (system : ActorSystem) : Machine :=
  { machine with system := system, answer := none }

/-- Call `dispatch_batch`. -/
def launch (system : ActorSystem) (stack : List Activation)
    (maxMessagesPerService : Nat) (observed : Bool) (caller : Caller) :
    Machine :=
  match system.startBatch maxMessagesPerService observed caller with
  | (some activation, started) =>
      { system := started, stack := activation :: stack, answer := none }
  | (none, started) =>
      { system := started, stack := stack, answer := some (caller.answer 0) }

/-- Hand the result of `dispatch_batch` to its caller. -/
def finish (system : ActorSystem) (stack : List Activation) (batch : Batch) :
    Machine :=
  match batch.caller with
  | .untilIdle maxBatches maxMessages totalDispatched executedBatches =>
      let total := totalDispatched + batch.dispatched
      let executed := executedBatches + 1
      if batch.dispatched = 0 then
        { system := system
          stack := stack
          answer := some (batch.caller.answer batch.dispatched) }
      else if executed < maxBatches then
        launch system stack maxMessages false
          (.untilIdle maxBatches maxMessages total executed)
      else
        { system := system
          stack := stack
          answer := some (.idle maxBatches executed total) }
  | caller =>
      { system := system
        stack := stack
        answer := some (caller.answer batch.dispatched) }

/-- Go on with a batch whose slot is still there. -/
def proceed (system : ActorSystem) (stack : List Activation) (batch : Batch) :
    Except Fault Machine :=
  match system.services.lookup batch.handle with
  | none => .error .erasedSlot
  | some service =>
      match system.continueBatch batch service with
      | (some activation, continued) =>
          .ok
            { system := continued
              stack := activation :: stack
              answer := none }
      | (none, finished) => .ok (finish finished stack batch)

/-- The handler comes back to the loop. -/
def handled (system : ActorSystem) (stack : List Activation)
    (activation : Activation) : Except Fault Machine :=
  proceed
    { system with
      metrics := system.metrics.onMessageDispatched
      history := system.history ++
        [.handled activation.batch.handle activation.message] }
    stack
    { activation.batch with dispatched := activation.batch.dispatched + 1 }

/-- The observer comes back, and the handler is called. -/
def observed (system : ActorSystem) (stack : List Activation)
    (activation : Activation) : Except Fault Machine :=
  match system.services.lookup activation.batch.handle with
  | none => .error .erasedSlot
  | some service =>
      .ok
        { system := system.invoke activation.batch.handle service.context
            activation.message
          stack := { activation with phase := .handling } :: stack
          answer := none }

/-- The running callback returns. -/
def resume (machine : Machine) : Except Fault Machine :=
  match machine.stack with
  | [] => .error .notCalled
  | activation :: stack =>
      if activation.erased = true then
        .error .erasedSlot
      else
        match activation.phase with
        | .observing => observed machine.system stack activation
        | .handling => handled machine.system stack activation

/-- The running callback throws, which ends its activation.  A callback that
called it may throw on. -/
def unwind (machine : Machine) : Except Fault Machine :=
  match machine.stack with
  | [] => .error .notCalled
  | activation :: stack =>
      .ok
        { system := machine.system.record
            (.lost activation.batch.handle activation.message)
          stack := stack
          answer := none }

/-- The running handler calls a method of the context it was given. -/
def onContext (machine : Machine)
    (method : ServiceContext → ServiceContext) : Except Fault Machine :=
  match machine.stack with
  | [] => .error .notCalled
  | activation :: _ =>
      if activation.phase = .observing then
        .error .notCalled
      else if activation.erased = true then
        .error .erasedContext
      else
        match machine.system.services.lookup activation.batch.handle with
        | none => .error .erasedContext
        | some service =>
            .ok (machine.setSystem
              (machine.system.setService activation.batch.handle
                { service with context := method service.context }))

def release (machine : Machine) (handle : ServiceHandle) : Machine :=
  let released := machine.system.releaseService handle
  { system := released.2
    stack :=
      if released.1 then machine.stack.map (Activation.erase handle)
      else machine.stack
    answer := none }

/-- Releasing several services one after the other. -/
def releaseEach : List ServiceHandle → Machine → Machine
  | [], machine => machine
  | handle :: handles, machine => releaseEach handles (machine.release handle)

/-- An operation that may not return. -/
def returning {Result : Type} (machine : Machine)
    (outcome : Option (Result × ActorSystem)) : Except Fault Machine :=
  match outcome with
  | none => .error .diverges
  | some (_, system) => .ok (machine.setSystem system)

def step (machine : Machine) : Action → Except Fault Machine
  | .registerService serviceName =>
      machine.returning (machine.system.registerService serviceName)
  | .send message => .ok (machine.setSystem (machine.system.send message).2)
  | .stopService handle =>
      .ok (machine.setSystem (machine.system.stopService handle).2)
  | .releaseService handle => .ok (machine.release handle)
  | .shutdown =>
      .ok
        { releaseEach machine.system.services.keys machine with
          answer := none }
  | .call sourceHandle targetHandle payloadText =>
      machine.returning
        (machine.system.call sourceHandle targetHandle payloadText)
  | .respond sourceHandle sessionId payloadText =>
      .ok (machine.setSystem
        (machine.system.respond sourceHandle sessionId payloadText).2)
  | .scheduleTimeout targetHandle sessionId delay payloadText =>
      .ok (machine.setSystem
        (machine.system.scheduleTimeout targetHandle sessionId delay
          payloadText).2)
  | .cancelTimeout timerId =>
      .ok (machine.setSystem (machine.system.cancelTimeout timerId).2)
  | .pumpTimers now => machine.returning (machine.system.pumpTimers now)
  | .dispatchBatch maxMessagesPerService observed =>
      .ok (launch machine.system machine.stack maxMessagesPerService observed
        .user)
  | .runUntilIdle maxBatches maxMessagesPerService =>
      if 0 < maxBatches then
        .ok (launch machine.system machine.stack maxMessagesPerService false
          (.untilIdle maxBatches maxMessagesPerService 0 0))
      else
        .ok
          { machine with answer := some (.idle maxBatches 0 0) }
  | .dispatchOnce =>
      .ok (launch machine.system machine.stack 1 false .once)
  | .initializeContext =>
      machine.onContext fun context => context.initializeContext.2
  | .startContext => machine.onContext fun context => context.start.2
  | .stopContext => machine.onContext ServiceContext.stop
  | .releaseContext => machine.onContext ServiceContext.release
  | .returns => machine.resume
  | .throws => machine.unwind

/-- Every action is permitted. -/
abbrev Unrestricted (_ : Machine) (_ : Action) : Prop := True

/-- Runs from an empty system. -/
def Reaches (permitted : Machine → Action → Prop) (now : TimePoint)
    (actions : List Action) (machine : Machine) : Prop :=
  Transition.Execution (Transition.returning step) permitted (new now) actions
    machine

variable {machine next : Machine}

theorem returning_cases {Result : Type}
    {outcome : Option (Result × ActorSystem)}
    (returned : machine.returning outcome = .ok next) :
    ∃ result system, outcome = some (result, system) ∧
      next = machine.setSystem system := by
  cases outcome with
  | none => cases returned
  | some outcome =>
      obtain ⟨result, system⟩ := outcome
      simp only [returning, Except.ok.injEq] at returned
      exact ⟨result, system, rfl, returned.symm⟩

/-- A release does nothing, or removes a slot and marks its activations. -/
theorem release_cases (machine : Machine) (handle : ServiceHandle) :
    machine.system.services.lookup handle = none ∧
        machine.release handle = { machine with answer := none } ∨
      ∃ service, machine.system.services.lookup handle = some service ∧
        machine.release handle =
          { system := machine.system.removeService handle service
            stack := machine.stack.map (Activation.erase handle)
            answer := none } := by
  unfold release
  rcases machine.system.releaseService_cases handle with
    ⟨missing, shape⟩ | ⟨service, found, shape⟩
  · rw [shape]
    exact Or.inl ⟨missing, rfl⟩
  · rw [shape]
    exact Or.inr ⟨service, found, rfl⟩

theorem onContext_cases {method : ServiceContext → ServiceContext}
    (called : machine.onContext method = .ok next) :
    ∃ activation stack service,
      machine.stack = activation :: stack ∧
        machine.system.services.lookup activation.batch.handle =
          some service ∧
        next = machine.setSystem
          (machine.system.setService activation.batch.handle
            { service with context := method service.context }) := by
  unfold onContext at called
  cases activations : machine.stack with
  | nil => simp [activations] at called
  | cons activation stack =>
      simp only [activations] at called
      split at called
      · cases called
      · split at called
        · cases called
        · split at called
          · cases called
          · rename_i service found
            simp only [Except.ok.injEq] at called
            exact ⟨activation, stack, service, rfl, found, called.symm⟩

end Machine

end Crynet
