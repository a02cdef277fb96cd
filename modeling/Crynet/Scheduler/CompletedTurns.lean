import Crynet.Scheduler.BusyWorkers

/-!
# Turns that complete

When no handler throws and none drives a runner or the monitor, a turn that has
begun is the only one until it ends.  It then leaves no route behind, its
idleness is in the flag of its worker and in the count of busy turns, and a
pass of checks between turns finds nothing stalled.
-/

namespace Crynet

namespace WorkerMonitor

/-- Neither the count of busy turns nor the request to quit is touched. -/
structure Quiet (monitor next : WorkerMonitor) : Prop where
  busyTurns : next.busyTurns = monitor.busyTurns
  quitRequested : next.quitRequested = monitor.quitRequested

theorem Quiet.refl (monitor : WorkerMonitor) : Quiet monitor monitor :=
  ⟨rfl, rfl⟩

theorem Quiet.trans {monitor middle next : WorkerMonitor}
    (first : Quiet monitor middle) (second : Quiet middle next) :
    Quiet monitor next :=
  ⟨second.busyTurns.trans first.busyTurns,
    second.quitRequested.trans first.quitRequested⟩

variable (monitor : WorkerMonitor) (workerId : Nat)

theorem markSleeping_quiet : Quiet monitor (monitor.markSleeping workerId) := by
  unfold markSleeping
  split
  · exact .refl monitor
  · split
    · exact .refl monitor
    · exact ⟨rfl, rfl⟩

private theorem markAwake_quiet : Quiet monitor (monitor.markAwake workerId) := by
  unfold markAwake
  split
  · exact .refl monitor
  · split
    · exact .refl monitor
    · exact ⟨rfl, rfl⟩

theorem trigger_quiet (trace : DispatchTrace) :
    Quiet monitor (monitor.trigger workerId trace) := by
  unfold trigger
  split
  · exact .refl monitor
  · exact ⟨rfl, rfl⟩

private theorem clear_quiet : Quiet monitor (monitor.clear workerId) := by
  unfold clear
  split
  · exact .refl monitor
  · exact ⟨rfl, rfl⟩

private theorem checkStalled_quiet :
    Quiet monitor (monitor.checkStalled workerId).2 := by
  unfold checkStalled
  split
  · exact .refl monitor
  · split
    · exact ⟨rfl, rfl⟩
    · split
      · exact ⟨rfl, rfl⟩
      · exact ⟨rfl, rfl⟩

private theorem scan_quiet (workerIds : List Nat) :
    Quiet monitor (monitor.scan workerIds).2 := by
  induction workerIds generalizing monitor with
  | nil => exact .refl monitor
  | cons workerId workerIds induction =>
      exact (monitor.checkStalled_quiet workerId).trans (induction _)

/-- The end of a turn that was not idle counts it if the worker exists. -/
theorem onDispatchEnd_counts :
    (monitor.onDispatchEnd workerId).busyTurns =
        monitor.busyTurns +
          (if workerId < monitor.workers.length then 1 else 0) ∧
      (monitor.onDispatchEnd workerId).quitRequested =
        monitor.quitRequested := by
  have quiet := (monitor.markAwake_quiet workerId).trans
    ((monitor.markAwake workerId).clear_quiet workerId)
  have length : ((monitor.markAwake workerId).clear workerId).workers.length =
      monitor.workers.length :=
    ((monitor.markAwake_edits workerId).trans
      ((monitor.markAwake workerId).clear_edits workerId)).length
  rw [onDispatchEnd, ← length, ← quiet.busyTurns, ← quiet.quitRequested]
  generalize (monitor.markAwake workerId).clear workerId = cleared
  unfold onBusyTurn
  have awake := cleared.markAwake_quiet workerId
  by_cases inside : workerId < cleared.workers.length
  · rw [List.getElem?_eq_getElem inside, if_pos inside]
    exact ⟨congrArg (· + 1) awake.busyTurns, awake.quitRequested⟩
  · rw [List.getElem?_eq_none (Nat.le_of_not_lt inside), if_neg inside]
    exact ⟨(UInt64.add_zero _).symm, rfl⟩

private theorem checkStalled_activeRoute (other : Nat) :
    (monitor.checkStalled workerId).2.activeRoute other =
      monitor.activeRoute other := by
  have edited := monitor.checkStalled_edits workerId other
  unfold activeRoute
  by_cases here : other = workerId
  · rw [edited, if_pos here]
    cases monitor.workers[other]? with
    | none => rfl
    | some slot => rfl
  · rw [edited, if_neg here]

private theorem checkStalled_inactive
    (inactive : monitor.activeRoute workerId = none) :
    (monitor.checkStalled workerId).1 = none := by
  unfold activeRoute at inactive
  unfold checkStalled
  cases found : monitor.workers[workerId]? with
  | none => rfl
  | some slot =>
      simp only [found] at inactive ⊢
      split at inactive
      · cases inactive
      · rename_i silent
        rw [Bool.not_eq_true] at silent
        rw [if_pos silent]

/-- Nothing is found stalled when no worker has a route. -/
theorem scan_inactive {monitor : WorkerMonitor} (workerIds : List Nat)
    (inactive : ∀ workerId, monitor.activeRoute workerId = none) :
    (monitor.scan workerIds).1 = 0 := by
  induction workerIds generalizing monitor with
  | nil => rfl
  | cons workerId workerIds induction =>
      rw [scan, monitor.checkStalled_inactive workerId (inactive workerId)]
      simp only [Option.isSome_none, Bool.false_eq_true, if_false,
        Nat.zero_add]
      apply induction
      intro other
      rw [checkStalled_activeRoute]
      exact inactive other

end WorkerMonitor

namespace Crew

/-- The turn of a worker of the monitor that was not idle. -/
def busy (workerCount : UInt64) (entry : Nat × WorkerLoopTurn) : Bool :=
  decide (entry.1 < workerCount.toNat) && !entry.2.idle

/-- The count of busy turns is what the turns so far amount to. -/
def Counted (workerCount : UInt64) (crew : Crew) : Prop :=
  crew.monitor.busyTurns =
    UInt64.ofNat (crew.finished.countP (busy workerCount))

variable {workerCount : UInt64} {crew next : Crew}

/-- What the end of a turn does to the count of busy turns. -/
theorem finishTurn_counts (crew : Crew) (workerId : Nat)
    (turn : WorkerLoopTurn) :
    (crew.finishTurn workerId turn).monitor.busyTurns =
        crew.monitor.busyTurns +
          (if workerId < crew.monitor.workers.length ∧ turn.idle = false then
            1 else 0) ∧
      (crew.finishTurn workerId turn).monitor.quitRequested =
        crew.monitor.quitRequested := by
  cases quiet : turn.idle with
  | true =>
      have told : (crew.finishTurn workerId turn).monitor =
          crew.monitor.markSleeping workerId := by
        rw [finishTurn, if_pos quiet]
        rfl
      have silent := crew.monitor.markSleeping_quiet workerId
      rw [told]
      refine ⟨?_, silent.quitRequested⟩
      simpa using silent.busyTurns
  | false =>
      have told : (crew.finishTurn workerId turn).monitor =
          crew.monitor.onDispatchEnd workerId := by
        rw [finishTurn, if_neg (Bool.eq_false_iff.mp quiet)]
      rw [told]
      simpa using crew.monitor.onDispatchEnd_counts workerId

theorem Counted.finishTurn (counted : crew.Counted workerCount)
    (size : crew.monitor.workers.length = workerCount.toNat) (workerId : Nat)
    (turn : WorkerLoopTurn) :
    (crew.finishTurn workerId turn).Counted workerCount := by
  rw [Counted, (crew.finishTurn_counts workerId turn).1, counted, size]
  show _ = UInt64.ofNat ((crew.finished ++ [(workerId, turn)]).countP _)
  rw [List.countP_append, UInt64.ofNat_add, List.countP_singleton, busy]
  congr 1
  cases turn.idle with
  | true => simp
  | false => by_cases inside : workerId < workerCount.toNat <;> simp [inside]

/-- The step lemma of the count. -/
theorem Counted.shift (counted : crew.Counted workerCount)
    (sound : crew.Sound workerCount) (shift : crew.Shift next) :
    next.Counted workerCount := by
  cases shift with
  | aside machine stopped => exact counted
  | begins turn => exact counted
  | observes _ trace =>
      exact (crew.monitor.trigger_quiet _ trace).busyTurns.trans counted
  | passes workerId turn => exact counted.finishTurn sound.size workerId turn
  | @ends current turns _ turn _ =>
      have below : Counted workerCount { crew with turns := turns } := counted
      exact below.finishTurn sound.size current.workerId turn
  | abandons _ => exact counted
  | quits => exact counted
  | checks => exact (crew.monitor.scan_quiet _).busyTurns.trans counted

/-- The step lemmas of flags, routes and the count. -/
theorem reaches_counted {now : TimePoint} {actions : List CrewAction}
    (reached : Reaches workerCount now actions crew) :
    crew.Sound workerCount ∧ crew.Counted workerCount := by
  apply reaches_invariant (fun crew => crew.Sound workerCount ∧
    crew.Counted workerCount) ⟨Sound.initially workerCount now, rfl⟩
  · rintro current next ⟨sound, counted⟩ shift
    exact ⟨sound.shift shift, counted.shift sound shift⟩
  · exact reached

/-- No handler throws or drives a runner or the monitor, and nobody asks the
workers to quit. -/
def Orderly (workerCount : UInt64) (crew : Crew) : CrewAction → Prop
  | .operation action => crew.turns = [] ∨ action ≠ .throws
  | .runOnce workerId _ _ =>
      crew.turns = [] ∧ workerId < workerCount.toNat
  | .requestQuit => False
  | .checkOnce => crew.turns = []

/-- Orderly steps from one state to another. -/
abbrev OrderlyRun (workerCount : UInt64) (first : Crew)
    (actions : List CrewAction) (last : Crew) : Prop :=
  Transition.Execution (Transition.returning step) (Orderly workerCount) first
    actions last

/-- No worker has been stopped, and no exception has left a turn. -/
structure Tidy (crew : Crew) : Prop where
  stopped : crew.stopped = []
  abandoned : crew.abandoned = []
  quitRequested : crew.monitor.quitRequested = false

/-- The only turn is one of the given worker, or it has been completed. -/
def Serves (workerId : Nat) (finished : List (Nat × WorkerLoopTurn))
    (crew : Crew) : Prop :=
  (crew.turns.map RunnerTurn.workerId = [workerId] ∧
    crew.finished = finished) ∨
  (crew.turns = [] ∧
    ∃ turn, crew.finished = finished ++ [(workerId, turn)])

theorem Tidy.finishTurn (tidy : crew.Tidy) (workerId : Nat)
    (turn : WorkerLoopTurn) : (crew.finishTurn workerId turn).Tidy :=
  ⟨tidy.stopped, tidy.abandoned,
    (crew.finishTurn_counts workerId turn).2.trans tidy.quitRequested⟩

theorem Tidy.observe {turn : RunnerTurn} (tidy : crew.Tidy)
    (observed : crew.observe turn = .ok next) :
    next.Tidy ∧ next.turns = crew.turns ∧ next.finished = crew.finished := by
  unfold Crew.observe at observed
  cases activations : crew.machine.stack with
  | nil =>
      simp only [activations, Except.ok.injEq] at observed
      subst observed
      exact ⟨tidy, rfl, rfl⟩
  | cons activation stack =>
      simp only [activations] at observed
      split at observed
      · cases resumed : crew.machine.resume with
        | error fault => simp [resumed] at observed
        | ok machine =>
            simp only [resumed, Except.ok.injEq] at observed
            subst observed
            have quiet := crew.monitor.trigger_quiet turn.workerId
              activation.message.trace
            exact ⟨⟨tidy.stopped, tidy.abandoned,
              quiet.quitRequested.trans tidy.quitRequested⟩, rfl, rfl⟩
      · cases observed
        exact ⟨tidy, rfl, rfl⟩

theorem Tidy.settle (tidy : crew.Tidy) (settled : crew.settle = .ok next) :
    next.Tidy ∧ ∀ workerId finished, Serves workerId finished crew →
      Serves workerId finished next := by
  unfold Crew.settle at settled
  cases innermost : crew.turns with
  | nil =>
      simp only [innermost, Except.ok.injEq] at settled
      subst settled
      exact ⟨tidy, fun _ _ serves => serves⟩
  | cons turn turns =>
      simp only [innermost] at settled
      split at settled
      · split at settled
        · cases settled
          have below : Tidy { crew with turns := turns } :=
            ⟨tidy.stopped, tidy.abandoned, tidy.quitRequested⟩
          refine ⟨below.finishTurn _ _, ?_⟩
          intro workerId finished serves
          rcases serves with ⟨only, before⟩ | ⟨none, _⟩
          · rw [innermost, List.map_cons, List.cons.injEq] at only
            obtain ⟨same, last⟩ := only
            rw [← before, ← same]
            exact Or.inr ⟨List.map_eq_nil_iff.mp last, _, rfl⟩
          · rw [innermost] at none
            cases none
        · cases settled
          exact ⟨tidy, fun _ _ serves => serves⟩
      · split at settled
        · obtain ⟨kept, turnsKept, finishedKept⟩ := tidy.observe settled
          refine ⟨kept, ?_⟩
          intro workerId finished serves
          rw [Serves, turnsKept, finishedKept]
          exact serves
        · cases settled
          exact ⟨tidy, fun _ _ serves => serves⟩

theorem Tidy.operate {action : Action} (tidy : crew.Tidy)
    (orderly : Orderly workerCount crew (.operation action))
    (operated : crew.operate action = .ok next) :
    next.Tidy ∧ ∀ workerId finished, Serves workerId finished crew →
      Serves workerId finished next := by
  unfold Crew.operate at operated
  cases stepped : crew.machine.step action with
  | error fault => simp [stepped] at operated
  | ok machine =>
      simp only [stepped] at operated
      have moved : Tidy { crew with machine := machine } :=
        ⟨tidy.stopped, tidy.abandoned, tidy.quitRequested⟩
      cases action with
      | returns => exact moved.settle operated
      | throws =>
          cases operated
          have none : crew.turns = [] := orderly.resolve_right fun normal =>
            normal rfl
          have same : abandon { crew with machine := machine } =
              { crew with machine := machine } := by
            simp only [abandon, none]
          rw [same]
          exact ⟨moved, fun _ _ serves => serves⟩
      | _ =>
          cases operated
          exact ⟨moved, fun _ _ serves => serves⟩

/-- A `run_once` outside all turns begins a turn, or completes it at once. -/
theorem Tidy.runOnce {workerId maxMessages : Nat} {now : TimePoint}
    (tidy : crew.Tidy) (outside : crew.turns = [])
    (ran : crew.runOnce workerId now maxMessages = .ok next) :
    next.Tidy ∧ Serves workerId crew.finished next := by
  unfold Crew.runOnce at ran
  rw [if_neg (by simp [WorkerMonitor.stopRequested, tidy.quitRequested]),
    if_neg (by simp [tidy.stopped])] at ran
  cases pumped : crew.machine.system.pumpTimers now with
  | none => simp [pumped] at ran
  | some pump =>
      obtain ⟨injected, system⟩ := pump
      simp only [pumped] at ran
      have begun : Tidy
          { crew with
            machine := Machine.launch system crew.machine.stack maxMessages
              true .user
            turns :=
              { workerId := workerId
                injectedTimerMessages := injected
                depth := crew.machine.stack.length } :: crew.turns } :=
        ⟨tidy.stopped, tidy.abandoned, tidy.quitRequested⟩
      obtain ⟨kept, served⟩ := begun.settle ran
      refine ⟨kept, served workerId crew.finished (Or.inl ⟨?_, rfl⟩)⟩
      rw [outside]
      rfl

theorem Tidy.step {action : CrewAction} (tidy : crew.Tidy)
    (orderly : Orderly workerCount crew action)
    (stepped : crew.step action = .ok next) : next.Tidy := by
  cases action with
  | operation action => exact (tidy.operate orderly stepped).1
  | runOnce workerId now maxMessages =>
      exact (tidy.runOnce orderly.1 stepped).1
  | requestQuit => exact orderly.elim
  | checkOnce =>
      cases stepped
      exact ⟨tidy.stopped, tidy.abandoned,
        (crew.monitor.scan_quiet _).quitRequested.trans tidy.quitRequested⟩

section

variable {now : TimePoint} {actions : List CrewAction}

private theorem orderlyRun_reaches {first : Crew} {later : List CrewAction}
    (reached : Reaches workerCount now actions first)
    (run : OrderlyRun workerCount first later crew) :
    Reaches workerCount now (actions ++ later) crew :=
  reached.trans (run.weaken fun _ _ _ => trivial)

private theorem orderlyRun_tidy
    (run : OrderlyRun workerCount (new workerCount now) actions crew) :
    crew.Tidy :=
  run.invariant Tidy ⟨rfl, rfl, rfl⟩ fun _ _ _ tidy orderly stepped =>
    tidy.step orderly stepped

/-- Between turns no worker has a route. -/
theorem inactive_of_outside
    (run : OrderlyRun workerCount (new workerCount now) actions crew)
    (outside : crew.turns = []) (workerId : Nat) :
    crew.monitor.activeRoute workerId = none := by
  have sound := (reaches_counted (orderlyRun_reaches .nil run)).1
  by_contra active
  have engaged := sound.active_engaged (Option.isSome_iff_ne_none.mpr active)
  simp [Crew.engaged, executing, outside, (orderlyRun_tidy run).abandoned]
    at engaged

/-- Only operations of the system. -/
def Operating (workerCount : UInt64) (crew : Crew) (action : CrewAction) :
    Prop :=
  Orderly workerCount crew action ∧
    ∃ operation, action = .operation operation

/-- In an orderly run, a turn that has been completed leaves its worker without
a route, flagged if the turn was idle and counted otherwise; and no pass of
checks between turns reports a stall. -/
theorem completed_turns_clean
    (run : OrderlyRun workerCount (new workerCount now) actions crew)
    (outside : crew.turns = []) :
    crew.monitor.checkOnce.1.detectedStalls = 0 ∧
      ∀ (workerId : Nat) (time : TimePoint) (maxMessages : Nat)
        (begun final : Crew) (operations : List CrewAction),
        workerId < workerCount.toNat →
        crew.step (.runOnce workerId time maxMessages) = .ok begun →
        Transition.Execution (Transition.returning step)
          (Operating workerCount) begun operations final →
        final.turns = [] →
        ∃ turn, final.finished = crew.finished ++ [(workerId, turn)] ∧
          final.monitor.activeRoute workerId = none ∧
          final.monitor.workers[workerId]?.map WorkerSlot.sleeping =
            some turn.idle ∧
          final.monitor.busyTurns = crew.monitor.busyTurns +
            if turn.idle = true then 0 else 1 := by
  constructor
  · exact WorkerMonitor.scan_inactive _ (inactive_of_outside run outside)
  · intro workerId time maxMessages begun final operations inside stepped
      served ended
    have begins : OrderlyRun workerCount (new workerCount now)
        (actions ++ [.runOnce workerId time maxMessages]) begun :=
      run.snoc ⟨outside, inside⟩ stepped
    have whole := begins.trans (served.weaken fun _ _ allowed => allowed.1)
    obtain ⟨sound, counted⟩ := reaches_counted (orderlyRun_reaches .nil whole)
    have before := (reaches_counted (orderlyRun_reaches .nil run)).2
    have serves : final.Tidy ∧ Serves workerId crew.finished final := by
      apply served.invariant fun current => current.Tidy ∧
        Serves workerId crew.finished current
      · exact (orderlyRun_tidy run).runOnce outside stepped
      · rintro current action next ⟨tidy, serves⟩ ⟨orderly, _, rfl⟩ moved
        obtain ⟨kept, served⟩ := tidy.operate orderly moved
        exact ⟨kept, served workerId crew.finished serves⟩
    rcases serves.2 with ⟨still, _⟩ | ⟨_, turn, finished⟩
    · rw [ended] at still
      cases still
    · refine ⟨turn, finished, inactive_of_outside whole ended workerId, ?_, ?_⟩
      · have present : workerId < final.monitor.workers.length := by
          rw [sound.size]
          exact inside
        have found := List.getElem?_eq_getElem present
        rw [found, Option.map_some, (sound.tells workerId _ found).flag,
          lastIdle, finished, List.foldl_append]
        simp only [List.foldl_cons, List.foldl_nil, if_true]
      · rw [counted, finished, List.countP_append, UInt64.ofNat_add, ← before,
          List.countP_singleton, busy, decide_eq_true inside]
        cases turn.idle with
        | true => rfl
        | false => rfl

/-- A worker handles one message, and is then idle. -/
theorem completed_turns_clean_served :
    ∃ crew final : Crew, OrderlyRun 1 (new 1 0)
        [.operation (.registerService [97]),
          .operation (.send { targetHandle := 1 })] crew ∧
      crew.monitor.checkOnce.1.detectedStalls = 0 ∧
      final.finished = [(0, ⟨0, 1⟩)] ∧
      final.monitor.activeRoute 0 = none ∧
      final.monitor.workers[0]?.map WorkerSlot.sleeping = some false ∧
      final.monitor.busyTurns = crew.monitor.busyTurns + 1 := by
  have ran : ∃ crew begun final, Transition.runSteps step (new 1 0)
      [.operation (.registerService [97]),
        .operation (.send { targetHandle := 1 })] = .ok crew ∧
      crew.turns = [] ∧ crew.step (.runOnce 0 0 1) = .ok begun ∧
      begun.step (.operation .returns) = .ok final ∧ final.turns = [] ∧
      crew.finished = [] ∧ final.finished = [(0, ⟨0, 1⟩)] :=
    ⟨_, _, _, rfl, rfl, rfl, rfl, rfl, rfl, rfl⟩
  obtain ⟨crew, begun, final, ran, outside, stepped, returned, ended, fresh,
    finished⟩ := ran
  have run : OrderlyRun 1 (new 1 0)
      [.operation (.registerService [97]),
        .operation (.send { targetHandle := 1 })] crew := by
    apply Transition.Execution.ofRunSteps ran
    intro label member current
    simp only [List.mem_cons, List.not_mem_nil, or_false] at member
    rcases member with rfl | rfl
    · exact Or.inr (by decide)
    · exact Or.inr (by decide)
  have served : Transition.Execution (Transition.returning step) (Operating 1)
      begun [.operation .returns] final :=
    .single ⟨Or.inr (by decide), .returns, rfl⟩ returned
  obtain ⟨calm, turns⟩ := completed_turns_clean run outside
  obtain ⟨turn, ends, silent, flagged, counted⟩ :=
    turns 0 0 1 begun final _ (by decide) stepped served ended
  rw [finished, fresh, List.nil_append, List.singleton_inj] at ends
  obtain ⟨_, rfl⟩ := Prod.mk.inj ends
  exact ⟨crew, final, run, calm, finished, silent, flagged, counted⟩

end

end Crew

end Crynet
