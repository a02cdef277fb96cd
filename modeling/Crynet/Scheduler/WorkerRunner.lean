import Crynet.Actor.Licence
import Crynet.Monitor.MonitorRunner
import Mathlib.Logic.Relation

/-!
# Worker runners

Runners drive one system and share one monitor, which is the only plugin of
each of them.  A `run_once` pumps the timers, dispatches a batch whose observer
tells the monitor which message is about to be handled, and tells the monitor
at its end whether the turn was idle.  Handlers may do anything meanwhile, call
`run_once` included, so the turns that have not ended form a stack.

A runner is known by the number of its worker.  What turns have told the
monitor that they ended, and which of them an exception has left, is recorded;
it is not in the source.
-/

namespace Crynet

structure WorkerLoopTurn where
  injectedTimerMessages : Nat := 0
  dispatchedMessages : Nat := 0
  deriving DecidableEq, Repr

def WorkerLoopTurn.idle (turn : WorkerLoopTurn) : Bool :=
  turn.injectedTimerMessages == 0 && turn.dispatchedMessages == 0

/-- What `dispatch_batch` shows its observer. -/
def Message.trace (message : Message) : DispatchTrace :=
  { messageType := message.type
    sourceHandle := message.sourceHandle
    targetHandle := message.targetHandle
    sessionId := message.sessionId }

/-- A `run_once` whose batch has not ended.  The batch was begun with `depth`
activations below it. -/
structure RunnerTurn where
  workerId : Nat
  injectedTimerMessages : Nat
  depth : Nat
  deriving DecidableEq, Repr

/-- A system, the runners that drive it and their monitor.  A worker is stopped
when its loop has been asked to stop, and a turn is finished when it has come to
its last callback, `on_idle` or `on_dispatch_end`. -/
structure Crew where
  machine : Machine
  monitor : WorkerMonitor
  stopped : List Nat := []
  turns : List RunnerTurn := []
  finished : List (Nat × WorkerLoopTurn) := []
  abandoned : List Nat := []

inductive CrewAction where
  | operation (action : Action)
  | runOnce (workerId : Nat) (now : TimePoint) (maxMessagesPerService : Nat)
  | requestQuit
  | checkOnce
  deriving DecidableEq, Repr

namespace Crew

def new (workerCount : UInt64) (now : TimePoint) : Crew :=
  { machine := Machine.new now
    monitor := WorkerMonitor.new workerCount.toNat }

/-- The end of `run_once`, behind the batch. -/
def finishTurn (crew : Crew) (workerId : Nat) (turn : WorkerLoopTurn) : Crew :=
  { crew with
    monitor :=
      if turn.idle = true then crew.monitor.onIdle workerId
      else crew.monitor.onDispatchEnd workerId
    finished := crew.finished ++ [(workerId, turn)] }

/-- The observer of a turn is called when a message is about to be handled. -/
def observe (crew : Crew) (turn : RunnerTurn) : Except Fault Crew :=
  match crew.machine.stack with
  | [] => .ok crew
  | activation :: _ =>
      if activation.phase = .observing then
        match crew.machine.resume with
        | .error fault => .error fault
        | .ok next =>
            .ok
              { crew with
                machine := next
                monitor := crew.monitor.onDispatchBegin turn.workerId
                  activation.message.trace }
      else
        .ok crew

/-- The innermost turn goes on when its batch has called its observer or has
returned. -/
def settle (crew : Crew) : Except Fault Crew :=
  match crew.turns with
  | [] => .ok crew
  | turn :: turns =>
      if crew.machine.stack.length = turn.depth then
        match crew.machine.answer with
        | some (.batch dispatched) =>
            .ok ({ crew with turns := turns }.finishTurn turn.workerId
              { injectedTimerMessages := turn.injectedTimerMessages
                dispatchedMessages := dispatched })
        | _ => .ok crew
      else if crew.machine.stack.length = turn.depth + 1 then
        crew.observe turn
      else
        .ok crew

/-- An exception that leaves the batch of the innermost turn leaves the turn as
well. -/
def abandon (crew : Crew) : Crew :=
  match crew.turns with
  | [] => crew
  | turn :: turns =>
      if crew.machine.stack.length = turn.depth then
        { crew with
          turns := turns
          abandoned := turn.workerId :: crew.abandoned }
      else
        crew

def operate (crew : Crew) (action : Action) : Except Fault Crew :=
  match crew.machine.step action with
  | .error fault => .error fault
  | .ok next =>
      match action with
      | .returns => { crew with machine := next }.settle
      | .throws => .ok { crew with machine := next }.abandon
      | _ => .ok { crew with machine := next }

/-- `WorkerRunner::run_once` up to the first handler.  When the monitor wants
the worker to stop, the turn that is returned is idle, but the monitor is told
nothing and the turn is not recorded. -/
def runOnce (crew : Crew) (workerId : Nat) (now : TimePoint)
    (maxMessagesPerService : Nat) : Except Fault Crew :=
  if crew.monitor.stopRequested workerId = true then
    .ok { crew with stopped := workerId :: crew.stopped }
  else if workerId ∈ crew.stopped then
    .ok (crew.finishTurn workerId {})
  else
    match crew.machine.system.pumpTimers now with
    | none => .error .diverges
    | some (injected, pumped) =>
        { crew with
          machine := Machine.launch pumped crew.machine.stack
            maxMessagesPerService true .user
          turns :=
            { workerId := workerId
              injectedTimerMessages := injected
              depth := crew.machine.stack.length } :: crew.turns }.settle

def step (crew : Crew) : CrewAction → Except Fault Crew
  | .operation action => crew.operate action
  | .runOnce workerId now maxMessagesPerService =>
      crew.runOnce workerId now maxMessagesPerService
  | .requestQuit => .ok { crew with monitor := crew.monitor.requestQuit }
  | .checkOnce => .ok { crew with monitor := crew.monitor.checkOnce.2 }

/-- Runs from an empty system and a new monitor. -/
def Reaches (workerCount : UInt64) (now : TimePoint)
    (actions : List CrewAction) (crew : Crew) : Prop :=
  Transition.Execution (Transition.returning step) (fun _ _ => True)
    (new workerCount now) actions crew

/-- What a step of the crew does to the monitor and the turns, once what it
does to the system is left open. -/
inductive Shift (crew : Crew) : Crew → Prop where
  | aside (machine : Machine) (stopped : List Nat) :
      Shift crew { crew with machine := machine, stopped := stopped }
  | begins (turn : RunnerTurn) :
      Shift crew { crew with turns := turn :: crew.turns }
  | observes {turn : RunnerTurn} (current : turn ∈ crew.turns)
      (trace : DispatchTrace) :
      Shift crew
        { crew with
          monitor := crew.monitor.onDispatchBegin turn.workerId trace }
  | passes (workerId : Nat) (turn : WorkerLoopTurn) :
      Shift crew (crew.finishTurn workerId turn)
  | ends {current : RunnerTurn} {turns : List RunnerTurn}
      (innermost : crew.turns = current :: turns) {turn : WorkerLoopTurn}
      (busy : turn.idle = false) :
      Shift crew
        ({ crew with turns := turns }.finishTurn current.workerId turn)
  | abandons {current : RunnerTurn} {turns : List RunnerTurn}
      (innermost : crew.turns = current :: turns) :
      Shift crew
        { crew with
          turns := turns
          abandoned := current.workerId :: crew.abandoned }
  | quits : Shift crew { crew with monitor := crew.monitor.requestQuit }
  | checks : Shift crew { crew with monitor := crew.monitor.checkOnce.2 }

abbrev Shifts : Crew → Crew → Prop :=
  Relation.ReflTransGen Shift

variable {crew next : Crew}

private theorem observe_shifts {turn : RunnerTurn} (current : turn ∈ crew.turns)
    (observed : crew.observe turn = .ok next) : crew.Shifts next := by
  unfold observe at observed
  cases activations : crew.machine.stack with
  | nil =>
      simp only [activations, Except.ok.injEq] at observed
      subst observed
      exact .refl
  | cons activation stack =>
      simp only [activations] at observed
      split at observed
      · cases resumed : crew.machine.resume with
        | error fault => simp [resumed] at observed
        | ok machine =>
            simp only [resumed, Except.ok.injEq] at observed
            subst observed
            have shown := Shift.observes current activation.message.trace
            exact .tail (.single shown) (.aside machine crew.stopped)
      · cases observed
        exact .refl

private theorem abandon_shifts (crew : Crew) : crew.Shifts crew.abandon := by
  unfold abandon
  split
  · exact .refl
  · rename_i innermost
    split
    · exact .single (.abandons innermost)
    · exact .refl

/-- Behind a handler, a batch returns that has handled a message. -/
theorem settle_shifts
    (worked : ∀ dispatched,
      crew.machine.answer = some (.batch dispatched) → 0 < dispatched)
    (settled : crew.settle = .ok next) : crew.Shifts next := by
  unfold settle at settled
  cases innermost : crew.turns with
  | nil =>
      simp only [innermost, Except.ok.injEq] at settled
      subst settled
      exact .refl
  | cons turn turns =>
      simp only [innermost] at settled
      split at settled
      · split at settled
        · rename_i dispatched answer
          cases settled
          have busy : WorkerLoopTurn.idle
              { injectedTimerMessages := turn.injectedTimerMessages
                dispatchedMessages := dispatched } = false := by
            have positive := worked dispatched answer
            simp only [WorkerLoopTurn.idle, Bool.and_eq_false_iff,
              beq_eq_false_iff_ne]
            omega
          exact .single (.ends innermost busy)
        · cases settled
          exact .refl
      · split at settled
        · apply observe_shifts _ settled
          rw [innermost]
          exact List.mem_cons_self
        · cases settled
          exact .refl

end Crew

namespace Machine

variable {machine next : Machine}

private theorem launch_batch {system : ActorSystem} {stack : List Activation}
    {maxMessages : Nat} {observed : Bool} {caller : Caller} {dispatched : Nat}
    (answered : (launch system stack maxMessages observed caller).answer =
      some (.batch dispatched)) : caller = .user := by
  unfold launch at answered
  split at answered
  · cases answered
  · cases caller with
    | user => rfl
    | once => cases answered
    | untilIdle _ _ _ _ => cases answered

private theorem finish_batch {system : ActorSystem} {stack : List Activation}
    {batch : Batch} {dispatched : Nat}
    (answered : (finish system stack batch).answer =
      some (.batch dispatched)) : dispatched = batch.dispatched := by
  unfold finish at answered
  cases caller : batch.caller with
  | user =>
      simp only [caller, Caller.answer, Option.some.injEq,
        Answer.batch.injEq] at answered
      exact answered.symm
  | once => simp [caller, Caller.answer] at answered
  | untilIdle maxBatches maxMessages totalDispatched executedBatches =>
      simp only [caller] at answered
      split at answered
      · cases answered
      · split at answered
        · cases launch_batch answered
        · cases answered

/-- A callback that returns ends a batch only when it was a handler. -/
theorem resume_batch {dispatched : Nat} (resumed : machine.resume = .ok next)
    (answered : next.answer = some (.batch dispatched)) : 0 < dispatched := by
  unfold resume at resumed
  cases activations : machine.stack with
  | nil => simp [activations] at resumed
  | cons activation stack =>
      simp only [activations] at resumed
      split at resumed
      · cases resumed
      · cases phase : activation.phase with
        | observing =>
            simp only [phase, observed] at resumed
            split at resumed
            · cases resumed
            · cases resumed
              cases answered
        | handling =>
            simp only [phase, handled, proceed] at resumed
            split at resumed
            · cases resumed
            · split at resumed
              · cases resumed
                cases answered
              · cases resumed
                rw [finish_batch answered]
                exact Nat.succ_pos _

end Machine

namespace Crew

variable {crew next : Crew}

private theorem operate_shifts {action : Action}
    (operated : crew.operate action = .ok next) : crew.Shifts next := by
  unfold operate at operated
  cases stepped : crew.machine.step action with
  | error fault => simp [stepped] at operated
  | ok machine =>
      have moved : crew.Shifts { crew with machine := machine } :=
        .single (.aside machine crew.stopped)
      simp only [stepped] at operated
      cases action with
      | returns =>
          refine moved.trans (settle_shifts ?_ operated)
          intro dispatched answered
          exact Machine.resume_batch stepped answered
      | throws =>
          cases operated
          exact moved.trans (abandon_shifts _)
      | _ =>
          cases operated
          exact moved

private theorem runOnce_shifts {workerId : Nat} {now : TimePoint} {maxMessages : Nat}
    (ran : crew.runOnce workerId now maxMessages = .ok next) :
    crew.Shifts next := by
  unfold runOnce at ran
  split at ran
  · cases ran
    exact .single (.aside crew.machine _)
  · split at ran
    · cases ran
      exact .single (.passes workerId _)
    · cases pumped : crew.machine.system.pumpTimers now with
      | none => simp [pumped] at ran
      | some pump =>
          obtain ⟨injected, system⟩ := pump
          simp only [pumped, Machine.launch] at ran
          cases started : system.startBatch maxMessages true .user with
          | mk activation after =>
              simp only [started] at ran
              cases activation with
              | none =>
                  simp only [settle, if_true, Caller.answer,
                    Except.ok.injEq] at ran
                  subst ran
                  exact .tail (.single (.aside _ crew.stopped))
                    (.passes workerId _)
              | some activation =>
                  have begun : crew.Shifts
                      { crew with
                        machine :=
                          { system := after
                            stack := activation :: crew.machine.stack
                            answer := none }
                        turns :=
                          { workerId := workerId
                            injectedTimerMessages := injected
                            depth := crew.machine.stack.length } ::
                              crew.turns } :=
                    .tail (.single (.begins _)) (.aside _ crew.stopped)
                  refine begun.trans (settle_shifts ?_ ran)
                  intro dispatched answered
                  cases answered

/-- The step lemma of the crew. -/
theorem step_shifts {action : CrewAction}
    (stepped : crew.step action = .ok next) : crew.Shifts next := by
  cases action with
  | operation action => exact operate_shifts stepped
  | runOnce workerId now maxMessages => exact runOnce_shifts stepped
  | requestQuit =>
      cases stepped
      exact .single .quits
  | checkOnce =>
      cases stepped
      exact .single .checks

/-- The rule for what every shift preserves. -/
theorem reaches_invariant {workerCount : UInt64} {now : TimePoint}
    {actions : List CrewAction} (invariant : Crew → Prop)
    (initially : invariant (new workerCount now))
    (preserved : ∀ crew next, invariant crew → crew.Shift next →
      invariant next)
    (reached : Reaches workerCount now actions crew) : invariant crew := by
  apply reached.invariant invariant initially
  intro current action next holds _ stepped
  have shifts := step_shifts stepped
  clear stepped
  induction shifts with
  | refl => exact holds
  | tail _ shift induction => exact preserved _ _ induction shift

/-- The machine of a crew takes steps of its own. -/
def Proceeds (machine next : Machine) : Prop :=
  ∃ actions, Transition.Execution (Transition.returning Machine.step)
    Machine.Unrestricted machine actions next

private theorem observe_proceeds {turn : RunnerTurn}
    (observed : crew.observe turn = .ok next) :
    Proceeds crew.machine next.machine := by
  unfold observe at observed
  split at observed
  · cases observed
    exact ⟨[], .nil⟩
  · split at observed
    · cases resumed : crew.machine.resume with
      | error fault => simp [resumed] at observed
      | ok machine =>
          simp only [resumed, Except.ok.injEq] at observed
          subst observed
          have stepped : crew.machine.step .returns = .ok machine := resumed
          exact ⟨[.returns], .single trivial stepped⟩
    · cases observed
      exact ⟨[], .nil⟩

private theorem settle_proceeds (settled : crew.settle = .ok next) :
    Proceeds crew.machine next.machine := by
  unfold settle at settled
  split at settled
  · cases settled
    exact ⟨[], .nil⟩
  · split at settled
    · split at settled
      · cases settled
        exact ⟨[], .nil⟩
      · cases settled
        exact ⟨[], .nil⟩
    · split at settled
      · exact observe_proceeds settled
      · cases settled
        exact ⟨[], .nil⟩

private theorem abandon_machine (crew : Crew) : crew.abandon.machine = crew.machine := by
  unfold abandon
  split
  · rfl
  · split <;> rfl

private theorem step_proceeds {action : CrewAction}
    (stepped : crew.step action = .ok next) :
    Proceeds crew.machine next.machine := by
  cases action with
  | operation action =>
      simp only [step, operate] at stepped
      cases moved : crew.machine.step action with
      | error fault => simp [moved] at stepped
      | ok machine =>
          have single : Transition.Execution
              (Transition.returning Machine.step) Machine.Unrestricted
              crew.machine [action] machine := .single trivial moved
          simp only [moved] at stepped
          cases action with
          | returns =>
              obtain ⟨more, later⟩ := settle_proceeds stepped
              exact ⟨_, single.trans later⟩
          | throws =>
              cases stepped
              rw [abandon_machine]
              exact ⟨_, single⟩
          | _ =>
              cases stepped
              exact ⟨_, single⟩
  | runOnce workerId now maxMessages =>
      simp only [step, runOnce] at stepped
      split at stepped
      · cases stepped
        exact ⟨[], .nil⟩
      · split at stepped
        · cases stepped
          exact ⟨[], .nil⟩
        · cases pumped : crew.machine.system.pumpTimers now with
          | none => simp [pumped] at stepped
          | some pump =>
              simp only [pumped] at stepped
              have polled : crew.machine.step (.pumpTimers now) =
                  .ok (crew.machine.setSystem pump.2) := by
                simp only [Machine.step, Machine.returning, pumped]
              have launched :
                  (crew.machine.setSystem pump.2).step
                      (.dispatchBatch maxMessages true) =
                    .ok (Machine.launch pump.2 crew.machine.stack maxMessages
                      true .user) := rfl
              have began : Proceeds crew.machine
                  (Machine.launch pump.2 crew.machine.stack maxMessages true
                    .user) :=
                ⟨_, .snoc (.single trivial polled) trivial launched⟩
              obtain ⟨first, before⟩ := began
              obtain ⟨more, later⟩ := settle_proceeds stepped
              exact ⟨_, before.trans later⟩
  | requestQuit =>
      cases stepped
      exact ⟨[], .nil⟩
  | checkOnce =>
      cases stepped
      exact ⟨[], .nil⟩

/-- So what holds of every run of the machine holds of the machine of every
crew. -/
theorem machine_reached {workerCount : UInt64} {now : TimePoint}
    {actions : List CrewAction}
    (reached : Reaches workerCount now actions crew) :
    ∃ moves, Machine.Reaches Machine.Unrestricted now moves crew.machine :=
  reached.simulate Crew.machine (fun _ => True) trivial
    (fun _ _ _ _ _ _ => trivial)
    (fun _ _ _ _ _ stepped => step_proceeds stepped)

end Crew

end Crynet
