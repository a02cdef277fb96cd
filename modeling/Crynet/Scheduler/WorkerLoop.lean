import Crynet.Scheduler.WorkerRunner

/-!
# The loops that drive a system

`run_until_idle` of a worker loop and of a runner.  Both take turns until one of
them is idle or enough have been taken, and both hand control to handlers in the
middle of a turn.  The calls made meanwhile are operations of the system; a
handler that drives a worker is the subject of another module.

A runner is a loop with an observer and with something to do when a turn has
ended, if it has a plugin, which is then a monitor.  A loop on its own is a
worker without plugin.
-/

namespace Crynet

/-- The loop of a worker and what its runner adds. -/
structure Worker where
  machine : Machine
  stopRequested : Bool := false
  workerId : Nat := 0
  plugin : Option WorkerMonitor := none

/-- Where a turn stands: it has returned, a handler runs, or an exception has
left it. -/
inductive TurnState where
  | completed (turn : WorkerLoopTurn)
  | handling (injectedTimerMessages : Nat)
  | left
  deriving DecidableEq, Repr

namespace Worker

/-- The observer of a turn is called when a message is about to be handled. -/
def observe (worker : Worker) (depth : Nat) : Except Fault Worker :=
  match worker.plugin, worker.machine.stack with
  | some monitor, activation :: stack =>
      if stack.length = depth ∧ activation.phase = .observing then
        match worker.machine.resume with
        | .error fault => .error fault
        | .ok next =>
            .ok
              { worker with
                machine := next
                plugin := some (monitor.onDispatchBegin worker.workerId
                  activation.message.trace) }
      else
        .ok worker
  | _, _ => .ok worker

/-- The end of `WorkerRunner::run_once`, behind the turn of its loop. -/
def endTurn (worker : Worker) (turn : WorkerLoopTurn) : Worker :=
  { worker with
    plugin := worker.plugin.map fun monitor =>
      if turn.idle = true then monitor.onIdle worker.workerId
      else monitor.onDispatchEnd worker.workerId }

/-- The turn goes on when its batch has called its observer or has returned.
The batch was begun with `depth` activations below it. -/
def settle (worker : Worker) (depth injectedTimerMessages : Nat) :
    Except Fault (TurnState × Worker) :=
  if depth < worker.machine.stack.length then
    match worker.observe depth with
    | .error fault => .error fault
    | .ok observed => .ok (.handling injectedTimerMessages, observed)
  else
    match worker.machine.answer with
    | some (.batch dispatched) =>
        let turn : WorkerLoopTurn :=
          { injectedTimerMessages := injectedTimerMessages
            dispatchedMessages := dispatched }
        .ok (.completed turn, worker.endTurn turn)
    | _ => .ok (.left, worker)

/-- `WorkerLoop::run_once` up to the first handler. -/
def loopRunOnce (worker : Worker) (now : TimePoint)
    (maxMessagesPerService : Nat) (observed : Bool) :
    Except Fault (TurnState × Worker) :=
  if worker.stopRequested = true then
    .ok (.completed {}, worker.endTurn {})
  else
    match worker.machine.system.pumpTimers now with
    | none => .error .diverges
    | some (injected, pumped) =>
        { worker with
          machine := Machine.launch pumped worker.machine.stack
            maxMessagesPerService observed .user }.settle
          worker.machine.stack.length injected

/-- `WorkerRunner::run_once` up to the first handler. -/
def runOnce (worker : Worker) (now : TimePoint)
    (maxMessagesPerService : Nat) : Except Fault (TurnState × Worker) :=
  match worker.plugin with
  | none => worker.loopRunOnce now maxMessagesPerService false
  | some monitor =>
      if monitor.stopRequested worker.workerId = true then
        .ok (.completed {}, { worker with stopRequested := true })
      else
        worker.loopRunOnce now maxMessagesPerService true

end Worker

/-- Whose `run_until_idle` it is. -/
inductive LoopKind where
  | workerLoop
  | workerRunner
  deriving DecidableEq, Repr

/-- What a call of `run_until_idle` keeps: its arguments, the activations below
it, and what the clock reads when so many cycles remain. -/
structure LoopCall where
  kind : LoopKind
  maxMessagesPerService : Nat
  depth : Nat
  clock : Nat → TimePoint

/-- A handler runs, with the counters of the loop; or the loop has returned, or
an exception has left it. -/
inductive LoopStatus where
  | running (remaining totalDispatched injectedTimerMessages : Nat)
  | returned (totalDispatched : Nat)
  | left
  deriving DecidableEq, Repr

structure Drive where
  worker : Worker
  status : LoopStatus

namespace LoopCall

/-- One turn of the kind of loop. -/
def runOnce (call : LoopCall) (worker : Worker) (now : TimePoint) :
    Except Fault (TurnState × Worker) :=
  match call.kind with
  | .workerLoop =>
      worker.loopRunOnce now call.maxMessagesPerService false
  | .workerRunner => worker.runOnce now call.maxMessagesPerService

/-- What the loop does with a turn: stop when it is idle, go on otherwise. -/
def afterTurn (again : Worker → Nat → Except Fault Drive)
    (remaining totalDispatched : Nat) :
    TurnState × Worker → Except Fault Drive
  | (.completed turn, worker) =>
      if turn.idle = true then
        .ok { worker := worker, status := .returned totalDispatched }
      else
        again worker (totalDispatched + turn.dispatchedMessages)
  | (.handling injectedTimerMessages, worker) =>
      .ok
        { worker := worker
          status := .running remaining totalDispatched
            injectedTimerMessages }
  | (.left, worker) => .ok { worker := worker, status := .left }

/-- The loop of `run_until_idle`. -/
def cycles (call : LoopCall) : Nat → Worker → Nat → Except Fault Drive
  | 0, worker, totalDispatched =>
      .ok { worker := worker, status := .returned totalDispatched }
  | remaining + 1, worker, totalDispatched =>
      if call.kind = .workerLoop ∧ worker.stopRequested = true then
        .ok { worker := worker, status := .returned totalDispatched }
      else
        match call.runOnce worker (call.clock remaining) with
        | .error fault => .error fault
        | .ok turn =>
            afterTurn (fun next total => call.cycles remaining next total)
              remaining totalDispatched turn

/-- What a handler does while the loop runs. -/
def step (call : LoopCall) (drive : Drive) (action : Action) :
    Except Fault Drive :=
  match drive.status with
  | .running remaining totalDispatched injectedTimerMessages =>
      match drive.worker.machine.step action with
      | .error fault => .error fault
      | .ok next =>
          match { drive.worker with machine := next }.settle call.depth
              injectedTimerMessages with
          | .error fault => .error fault
          | .ok turn =>
              afterTurn (call.cycles remaining) remaining totalDispatched turn
  | _ => .error .notCalled

end LoopCall

namespace Worker

/-- A call of `run_until_idle` that is made now. -/
def loopCall (worker : Worker) (kind : LoopKind) (clock : Nat → TimePoint)
    (maxMessagesPerService : Nat) : LoopCall :=
  { kind := kind
    maxMessagesPerService := maxMessagesPerService
    depth := worker.machine.stack.length
    clock := clock }

/-- `run_until_idle` up to the first handler. -/
def runUntilIdle (worker : Worker) (kind : LoopKind)
    (clock : Nat → TimePoint) (maxCycles maxMessagesPerService : Nat) :
    Except Fault Drive :=
  (worker.loopCall kind clock maxMessagesPerService).cycles maxCycles worker 0

/-- What becomes of a `run_until_idle` whose handlers do this. -/
def driveUntilIdle (worker : Worker) (kind : LoopKind)
    (clock : Nat → TimePoint) (maxCycles maxMessagesPerService : Nat)
    (actions : List Action) : Except Fault Drive :=
  match worker.runUntilIdle kind clock maxCycles maxMessagesPerService with
  | .error fault => .error fault
  | .ok drive =>
      Transition.runSteps
        (worker.loopCall kind clock maxMessagesPerService).step drive actions

end Worker

/-- `WorkerLoop::run_until_idle`, called on a loop of the system. -/
def WorkerLoop.runUntilIdle (machine : Machine) (clock : Nat → TimePoint)
    (maxCycles maxMessagesPerService : Nat) (actions : List Action) :
    Except Fault Drive :=
  Worker.driveUntilIdle { machine := machine } .workerLoop clock maxCycles
    maxMessagesPerService actions

/-- `WorkerRunner::run_until_idle`, called on a runner of the system. -/
def WorkerRunner.runUntilIdle (machine : Machine) (workerId : Nat)
    (plugin : Option WorkerMonitor) (clock : Nat → TimePoint)
    (maxCycles maxMessagesPerService : Nat) (actions : List Action) :
    Except Fault Drive :=
  Worker.driveUntilIdle
    { machine := machine, workerId := workerId, plugin := plugin }
    .workerRunner clock maxCycles maxMessagesPerService actions

end Crynet
