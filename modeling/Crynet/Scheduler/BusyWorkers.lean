import Crynet.Scheduler.SleepAccounting
import Crynet.Scheduler.WorkerRunner
import Mathlib.Data.List.Induction

/-!
# Busy and sleeping workers

The monitor learns at the end of a turn whether the worker is asleep, and at
the beginning of a message which one it handles.  So the flag of a worker tells
what its last turn was, not what the worker does: a worker that has been idle
stays flagged while it handles the first messages it finds.
-/

namespace Crynet

namespace Crew

/-- The last turn of a worker that came to its `on_idle` or `on_dispatch_end`
was idle. -/
def lastIdle (crew : Crew) (workerId : Nat) : Bool :=
  crew.finished.foldl
    (fun last entry => if entry.1 = workerId then entry.2.idle else last)
    false

/-- The worker is inside a `run_once`. -/
def executing (crew : Crew) (workerId : Nat) : Bool :=
  crew.turns.any fun turn => turn.workerId == workerId

/-- The worker is inside a `run_once`, or an exception has left one. -/
def engaged (crew : Crew) (workerId : Nat) : Bool :=
  crew.executing workerId || decide (workerId ∈ crew.abandoned)

/-- What the slot of a worker says about its turns. -/
structure Tells (crew : Crew) (workerId : Nat) (slot : WorkerSlot) :
    Prop where
  flag : slot.sleeping = crew.lastIdle workerId
  route : slot.route.active = true → crew.engaged workerId = true

structure Sound (workerCount : UInt64) (crew : Crew) : Prop where
  size : crew.monitor.workers.length = workerCount.toNat
  accounted : crew.monitor.Accounted
  tells : ∀ workerId slot, crew.monitor.workers[workerId]? = some slot →
    crew.Tells workerId slot

variable {workerCount : UInt64} {crew next : Crew}

private theorem lastIdle_finishTurn (crew : Crew) (workerId other : Nat)
    (turn : WorkerLoopTurn) :
    (crew.finishTurn workerId turn).lastIdle other =
      if workerId = other then turn.idle else crew.lastIdle other := by
  simp [lastIdle, finishTurn, List.foldl_append]

theorem Tells.mono {workerId : Nat} {slot : WorkerSlot}
    (tells : crew.Tells workerId slot)
    (finished : next.finished = crew.finished)
    (engaged : crew.engaged workerId = true → next.engaged workerId = true) :
    next.Tells workerId slot := by
  refine ⟨?_, fun active => engaged (tells.route active)⟩
  rw [lastIdle, finished]
  exact tells.flag

namespace Sound

theorem initially (workerCount : UInt64) (now : TimePoint) :
    (new workerCount now).Sound workerCount := by
  refine ⟨List.length_replicate, WorkerMonitor.Accounted.new _, ?_⟩
  intro workerId slot found
  have fresh := List.eq_of_mem_replicate (List.mem_of_getElem? found)
  rw [fresh]
  exact ⟨rfl, nofun⟩

/-- The monitor is told that a turn has ended. -/
theorem finishTurn (sound : crew.Sound workerCount) (kept : Crew)
    (monitor : kept.monitor = crew.monitor)
    (finished : kept.finished = crew.finished) (workerId : Nat)
    (turn : WorkerLoopTurn)
    (others : ∀ other, other ≠ workerId → crew.engaged other = true →
      kept.engaged other = true)
    (own : turn.idle = true → crew.engaged workerId = true →
      kept.engaged workerId = true) :
    (kept.finishTurn workerId turn).Sound workerCount := by
  have elsewhere : ∀ other slot, other ≠ workerId → crew.Tells other slot →
      (kept.finishTurn workerId turn).Tells other slot := by
    intro other slot different tells
    refine ⟨?_, fun active => others other different (tells.route active)⟩
    rw [lastIdle_finishTurn, if_neg (Ne.symm different), lastIdle, finished]
    exact tells.flag
  cases quiet : turn.idle with
  | true =>
      have told : (kept.finishTurn workerId turn).monitor =
          crew.monitor.markSleeping workerId := by
        rw [Crew.finishTurn, if_pos quiet, monitor]
        rfl
      have edits := crew.monitor.markSleeping_edits workerId
      rw [← told] at edits
      refine ⟨edits.length.trans sound.size, ?_, ?_⟩
      · rw [told]
        exact sound.accounted.markSleeping workerId
      · apply edits.forall_slots sound.tells _ elsewhere
        intro slot tells
        refine ⟨?_, fun active => own quiet (tells.route active)⟩
        rw [lastIdle_finishTurn, if_pos rfl, quiet]
  | false =>
      have told : (kept.finishTurn workerId turn).monitor =
          crew.monitor.onDispatchEnd workerId := by
        rw [Crew.finishTurn, if_neg (Bool.eq_false_iff.mp quiet), monitor]
      have edits := crew.monitor.onDispatchEnd_edits workerId
      rw [← told] at edits
      refine ⟨edits.length.trans sound.size, ?_, ?_⟩
      · rw [told]
        exact sound.accounted.onDispatchEnd workerId
      · apply edits.forall_slots sound.tells _ elsewhere
        intro slot tells
        refine ⟨?_, nofun⟩
        rw [lastIdle_finishTurn, if_pos rfl, quiet]

/-- A pass of checks changes neither flags nor routes. -/
theorem scan {monitor : WorkerMonitor} (workerIds : List Nat)
    {property : Nat → WorkerSlot → Prop}
    (initially : ∀ workerId slot, monitor.workers[workerId]? = some slot →
      property workerId slot)
    (checked : ∀ workerId slot, property workerId slot →
      property workerId slot.check) :
    (monitor.scan workerIds).2.workers.length = monitor.workers.length ∧
      ∀ workerId slot,
        (monitor.scan workerIds).2.workers[workerId]? = some slot →
          property workerId slot := by
  induction workerIds generalizing monitor with
  | nil => exact ⟨rfl, initially⟩
  | cons workerId workerIds induction =>
      have edits := monitor.checkStalled_edits workerId
      have kept := edits.forall_slots initially
        (fun slot => checked workerId slot) (fun _ _ _ holds => holds)
      have later := induction kept
      exact ⟨later.1.trans edits.length, later.2⟩

/-- The step lemma of the flags and routes. -/
theorem shift (sound : crew.Sound workerCount) (shift : crew.Shift next) :
    next.Sound workerCount := by
  cases shift with
  | aside machine stopped =>
      exact ⟨sound.size, sound.accounted, fun workerId slot found =>
        (sound.tells workerId slot found).mono rfl id⟩
  | begins turn =>
      refine ⟨sound.size, sound.accounted, fun workerId slot found =>
        (sound.tells workerId slot found).mono rfl ?_⟩
      intro engaged
      simp only [Crew.engaged, executing, List.any_cons, Bool.or_eq_true]
        at engaged ⊢
      tauto
  | @observes turn current trace =>
      have edits := crew.monitor.trigger_edits turn.workerId trace
      refine ⟨edits.length.trans sound.size,
        sound.accounted.trigger turn.workerId trace,
        edits.forall_slots sound.tells ?_ ?_⟩
      · intro slot tells
        refine ⟨tells.flag, fun _ => ?_⟩
        have inside : crew.executing turn.workerId = true :=
          List.any_eq_true.mpr ⟨turn, current, beq_self_eq_true _⟩
        show (crew.executing turn.workerId || _) = true
        rw [inside]
        rfl
      · intro other slot _ tells
        exact tells.mono rfl id
  | passes workerId turn =>
      exact sound.finishTurn crew rfl rfl workerId turn
        (fun _ _ engaged => engaged) (fun _ engaged => engaged)
  | @ends current turns innermost turn busy =>
      apply sound.finishTurn { crew with turns := turns } rfl rfl
      · intro other different engaged
        simp only [Crew.engaged, executing, innermost, List.any_cons,
          Bool.or_eq_true, beq_iff_eq] at engaged ⊢
        rcases engaged with (same | inside) | left
        · exact absurd same.symm different
        · exact Or.inl inside
        · exact Or.inr left
      · intro idle
        rw [busy] at idle
        cases idle
  | @abandons current turns innermost =>
      refine ⟨sound.size, sound.accounted, fun workerId slot found =>
        (sound.tells workerId slot found).mono rfl ?_⟩
      intro engaged
      simp only [Crew.engaged, executing, innermost, List.any_cons,
        Bool.or_eq_true, beq_iff_eq, decide_eq_true_eq, List.mem_cons]
        at engaged ⊢
      rcases engaged with (same | inside) | left
      · exact Or.inr (Or.inl same.symm)
      · exact Or.inl inside
      · exact Or.inr (Or.inr left)
  | quits =>
      exact ⟨sound.size, sound.accounted, fun workerId slot found =>
        (sound.tells workerId slot found).mono rfl id⟩
  | checks =>
      have scanned := scan (List.range crew.monitor.snapshot.workerCount)
        sound.tells (fun _ _ tells => ⟨tells.flag, tells.route⟩)
      refine ⟨scanned.1.trans sound.size, ?_, fun workerId slot found =>
        (scanned.2 workerId slot found).mono rfl id⟩
      show (crew.monitor.scan _).2.Accounted
      rw [WorkerMonitor.scan_checks]
      exact sound.accounted.performAll _

end Sound

/-- A number of workers, counted by slot or by number. -/
theorem countP_slots {slots : List WorkerSlot} {bySlot : WorkerSlot → Bool}
    {byNumber : Nat → Bool}
    (agree : ∀ workerId slot, slots[workerId]? = some slot →
      bySlot slot = byNumber workerId) :
    slots.countP bySlot = (List.range slots.length).countP byNumber := by
  induction slots using List.reverseRecOn with
  | nil => rfl
  | append_singleton slots slot induction =>
      have last : bySlot slot = byNumber slots.length := by
        apply agree
        rw [List.getElem?_append_right (Nat.le_refl _)]
        simp
      have earlier := induction fun workerId other found => agree workerId
        other (by
          rw [List.getElem?_append_left (List.getElem?_eq_some_iff.mp found).1]
          exact found)
      rw [List.countP_append, earlier, List.length_append, List.length_singleton,
        List.range_succ, List.countP_append, List.countP_singleton,
        List.countP_singleton, last]

private theorem countP_add_le {workerIds : List Nat} {first second both : Nat → Bool}
    (implied : ∀ workerId, first workerId = true → second workerId = true →
      both workerId = true) :
    workerIds.countP first + workerIds.countP second ≤
      workerIds.length + workerIds.countP both := by
  induction workerIds with
  | nil => exact Nat.le_refl 0
  | cons workerId workerIds induction =>
      have here := implied workerId
      simp only [List.countP_cons, List.length_cons]
      cases one : first workerId with
      | false =>
          simp only [Bool.false_eq_true, if_false]
          split
          · split <;> omega
          · split <;> omega
      | true =>
          cases two : second workerId with
          | false =>
              simp only [Bool.false_eq_true, if_false, if_true]
              split <;> omega
          | true =>
              rw [here one two]
              simp only [if_true]
              omega

theorem Sound.active_engaged (sound : crew.Sound workerCount) {workerId : Nat}
    (active : (crew.monitor.activeRoute workerId).isSome = true) :
    crew.engaged workerId = true := by
  unfold WorkerMonitor.activeRoute at active
  cases found : crew.monitor.workers[workerId]? with
  | none => simp [found] at active
  | some slot =>
      apply (sound.tells workerId slot found).route
      by_contra inactive
      simp [found, inactive] at active

private theorem Sound.sleepers_eq (sound : crew.Sound workerCount) :
    crew.monitor.sleepers =
      (List.range workerCount.toNat).countP crew.lastIdle := by
  rw [← sound.size]
  apply countP_slots
  intro workerId slot found
  exact (sound.tells workerId slot found).flag

/-- In every state a worker is flagged exactly when its last turn that told the
monitor of its end was idle, and it has a route only while it is inside a turn or
an exception has left one. -/
theorem flags_lag_behind {now : TimePoint} {actions : List CrewAction}
    (reached : Reaches workerCount now actions crew) :
    (∀ workerId < workerCount.toNat,
      crew.monitor.workers[workerId]?.map WorkerSlot.sleeping =
        some (crew.lastIdle workerId)) ∧
      (∀ workerId, (crew.monitor.activeRoute workerId).isSome = true →
        crew.engaged workerId = true) ∧
      crew.monitor.snapshot.sleepingWorkers.toNat =
        (List.range workerCount.toNat).countP crew.lastIdle ∧
      (∀ busyWorkers, crew.monitor.shouldWake busyWorkers = true ↔
        (List.range workerCount.toNat).countP
          (fun workerId => !crew.lastIdle workerId) ≤ busyWorkers.toNat) ∧
      crew.monitor.snapshot.sleepingWorkers.toNat +
          (List.range workerCount.toNat).countP
            (fun workerId => (crew.monitor.activeRoute workerId).isSome) ≤
        workerCount.toNat +
          (List.range workerCount.toNat).countP fun workerId =>
            crew.lastIdle workerId && crew.engaged workerId := by
  have sound : crew.Sound workerCount :=
    reaches_invariant _ (Sound.initially workerCount now)
      (fun _ _ sound shift => sound.shift shift) reached
  have small : crew.monitor.workers.length < 2 ^ 64 := by
    rw [sound.size]
    exact workerCount.toNat_lt
  have counted : crew.monitor.snapshot.sleepingWorkers.toNat =
      (List.range workerCount.toNat).countP crew.lastIdle :=
    (sound.accounted.toNat small).trans sound.sleepers_eq
  refine ⟨?_, fun _ => sound.active_engaged, counted, ?_, ?_⟩
  · intro workerId inside
    rw [← sound.size] at inside
    have found := List.getElem?_eq_getElem inside
    rw [found, Option.map_some]
    exact congrArg some (sound.tells workerId _ found).flag
  · intro busyWorkers
    have all : (List.range workerCount.toNat).length =
        (List.range workerCount.toNat).countP crew.lastIdle +
          (List.range workerCount.toNat).countP fun workerId =>
            !crew.lastIdle workerId := by
      simpa using @List.length_eq_countP_add_countP Nat crew.lastIdle
        (List.range workerCount.toNat)
    rw [List.length_range] at all
    rw [sound.accounted.shouldWake_iff small, sound.size, sound.sleepers_eq]
    omega
  · have bound : (List.range workerCount.toNat).countP crew.lastIdle +
        (List.range workerCount.toNat).countP
          (fun workerId => (crew.monitor.activeRoute workerId).isSome) ≤
        (List.range workerCount.toNat).length +
          (List.range workerCount.toNat).countP fun workerId =>
            crew.lastIdle workerId && crew.engaged workerId := by
      apply countP_add_le
      intro workerId idle active
      rw [idle, sound.active_engaged active]
      rfl
    rw [List.length_range] at bound
    rw [counted]
    exact bound

/-- A worker that was idle handles its first message. -/
theorem flags_lag_behind_waking :
    ∃ crew, Reaches 1 0
        [.runOnce 0 0 1, .operation (.registerService [97]),
          .operation (.send { targetHandle := 1 }), .runOnce 0 0 1] crew ∧
      crew.lastIdle 0 = true ∧ crew.engaged 0 = true ∧
      crew.monitor.workers[0]?.map WorkerSlot.sleeping = some true := by
  have ran : ∃ crew, Transition.runSteps step (new 1 0)
      [.runOnce 0 0 1, .operation (.registerService [97]),
        .operation (.send { targetHandle := 1 }), .runOnce 0 0 1] = .ok crew ∧
      crew.lastIdle 0 = true ∧ crew.engaged 0 = true :=
    ⟨_, rfl, rfl, rfl⟩
  obtain ⟨crew, ran, idle, engaged⟩ := ran
  have reached : Reaches 1 0
      [.runOnce 0 0 1, .operation (.registerService [97]),
        .operation (.send { targetHandle := 1 }), .runOnce 0 0 1] crew :=
    Transition.Execution.ofRunSteps ran fun _ _ _ => trivial
  have flagged := (flags_lag_behind reached).1 0 (by decide)
  rw [idle] at flagged
  exact ⟨crew, reached, idle, engaged, flagged⟩

/-- While it does, it has a route and is counted as sleeping. -/
theorem busy_worker_sleeps :
    ∃ crew, Reaches 1 0
        [.runOnce 0 0 1, .operation (.registerService [97]),
          .operation (.send { targetHandle := 1 }), .runOnce 0 0 1] crew ∧
      crew.monitor.activeRoute 0 = some { targetHandle := 1 } ∧
      crew.monitor.workers[0]?.map WorkerSlot.sleeping = some true ∧
      crew.monitor.snapshot.workerCount = 1 ∧
      crew.monitor.snapshot.sleepingWorkers = 1 ∧
      crew.monitor.shouldWake 0 = true ∧ crew.abandoned = [] := by
  have ran : ∃ crew, Transition.runSteps step (new 1 0)
      [.runOnce 0 0 1, .operation (.registerService [97]),
        .operation (.send { targetHandle := 1 }), .runOnce 0 0 1] = .ok crew ∧
      crew.monitor.activeRoute 0 = some { targetHandle := 1 } ∧
      crew.monitor.workers[0]?.map WorkerSlot.sleeping = some true ∧
      crew.monitor.snapshot.workerCount = 1 ∧
      crew.monitor.snapshot.sleepingWorkers = 1 ∧
      crew.monitor.shouldWake 0 = true ∧ crew.abandoned = [] :=
    ⟨_, rfl, rfl, rfl, rfl, rfl, rfl, rfl⟩
  obtain ⟨crew, ran, rest⟩ := ran
  refine ⟨crew, ?_, rest⟩
  exact Transition.Execution.ofRunSteps ran fun _ _ _ => trivial

end Crew

end Crynet
