import Crynet.Foundation.Watchdog
import Crynet.Monitor.SkynetMonitor
import Crynet.Scheduler.WorkerMonitor
import Mathlib.Algebra.Ring.Nat

/-!
# Stall verdicts

The two counters of a slot encode a watchdog of its worker, and so do those of
skynet, which copies the one into the other at fewer moments.  So both report a
stall when the last message of a worker has been checked before, and never
otherwise.
-/

namespace Crynet

open Watchdog (Encodes Event Watch)

namespace MonitorAction

/-- The route that an operation sets for a worker. -/
def triggers (workerId : Nat) : MonitorAction → Option DispatchTrace
  | .trigger other trace => if other = workerId then some trace else none
  | .onDispatchBegin other trace =>
      if other = workerId then some trace else none
  | _ => none

/-- The operation clears the route of a worker. -/
def clears (workerId : Nat) : MonitorAction → Bool
  | .clear other => other == workerId
  | .onDispatchEnd other => other == workerId
  | _ => false

/-- The operation advances the version of a worker. -/
def bumps (workerId : Nat) (action : MonitorAction) : Bool :=
  (action.triggers workerId).isSome || action.clears workerId

/-- What the watchdog of a worker sees of an operation. -/
def event (workerId : Nat) (action : MonitorAction) :
    Option (Event WorkerRoute) :=
  match action.triggers workerId with
  | some trace =>
      some (if trace.targetHandle = 0 then .stop else .start trace.route)
  | none =>
      if action.clears workerId = true then some .stop
      else if action = .checkStalled workerId then some .check
      else none

/-- The number of times the version of a worker has been advanced. -/
def versions (workerId : Nat) (actions : List MonitorAction) : Nat :=
  actions.countP (bumps workerId)

/-- The last route set for a worker has a target, nothing has cleared it, and
it has been checked. -/
def Stalled (workerId : Nat) (actions : List MonitorAction)
    (route : WorkerRoute) : Prop :=
  ∃ before action after trace, actions = before ++ action :: after ∧
    action.triggers workerId = some trace ∧ trace.targetHandle ≠ 0 ∧
    trace.route = route ∧
    (∀ later ∈ after, later.triggers workerId = none ∧
      later.clears workerId = false) ∧
    .checkStalled workerId ∈ after

variable {workerId : Nat} {action : MonitorAction}

private theorem event_of_triggers {trace : DispatchTrace}
    (triggered : action.triggers workerId = some trace) :
    action.event workerId =
      some (if trace.targetHandle = 0 then .stop else .start trace.route) := by
  rw [event, triggered]

private theorem event_start {route : WorkerRoute}
    (started : action.event workerId = some (.start route)) :
    ∃ trace, action.triggers workerId = some trace ∧
      trace.targetHandle ≠ 0 ∧ trace.route = route := by
  unfold event at started
  split at started
  · rename_i trace triggered
    refine ⟨trace, triggered, ?_⟩
    split at started
    · cases started
    · rename_i nonzero
      simp only [Option.some.injEq, Event.start.injEq] at started
      exact ⟨nonzero, started⟩
  · split at started
    · cases started
    · split at started
      · cases started
      · cases started

private theorem event_check
    (checked : action.event workerId = some .check) :
    action = .checkStalled workerId := by
  unfold event at checked
  split at checked
  · split at checked
    · cases checked
    · cases checked
  · split at checked
    · cases checked
    · split at checked
      · rename_i same
        exact same
      · cases checked

/-- An operation that the watchdog does not see, or sees as a check, neither
sets nor clears the route. -/
theorem quiet_of_event
    (harmless : ∀ event, action.event workerId = some event →
      event = .check) :
    action.triggers workerId = none ∧ action.clears workerId = false := by
  unfold event at harmless
  split at harmless
  · exfalso
    have impossible := harmless _ rfl
    split at impossible
    · cases impossible
    · cases impossible
  · rename_i none
    refine ⟨none, ?_⟩
    split at harmless
    · cases harmless _ rfl
    · rename_i unclear
      exact Bool.eq_false_iff.mpr unclear

private theorem triggers_about {trace : DispatchTrace}
    (triggered : action.triggers workerId = some trace) :
    action.workerId? = some workerId := by
  cases action with
  | trigger other _ =>
      simp only [triggers] at triggered
      split at triggered
      · rename_i same
        exact congrArg some same
      · cases triggered
  | onDispatchBegin other _ =>
      simp only [triggers] at triggered
      split at triggered
      · rename_i same
        exact congrArg some same
      · cases triggered
  | _ => cases triggered

private theorem clears_about (cleared : action.clears workerId = true) :
    action.workerId? = some workerId := by
  cases action with
  | clear other => exact congrArg some (eq_of_beq cleared)
  | onDispatchEnd other => exact congrArg some (eq_of_beq cleared)
  | _ => cases cleared

/-- The watchdog of a worker sees nothing of the operations on others. -/
theorem event_elsewhere (elsewhere : action.workerId? ≠ some workerId) :
    action.event workerId = none ∧ action.bumps workerId = false := by
  have untriggered : action.triggers workerId = none := by
    cases triggered : action.triggers workerId with
    | none => rfl
    | some trace => exact absurd (triggers_about triggered) elsewhere
  have unclear : action.clears workerId = false := by
    by_contra cleared
    exact elsewhere (clears_about (Bool.not_eq_false _ ▸ cleared))
  have unchecked : action ≠ .checkStalled workerId := by
    intro checks
    rw [checks] at elsewhere
    exact elsewhere rfl
  constructor
  · simp [event, untriggered, unclear, unchecked]
  · simp [bumps, untriggered, unclear]

/-- The watchdog of a worker after a list of operations. -/
def watch (workerId : Nat) (actions : List MonitorAction) :
    Watch WorkerRoute :=
  Watch.after (actions.filterMap (event workerId))

/-- The watchdog finds a worker stalled exactly when it is. -/
theorem watched_iff {actions : List MonitorAction} {route : WorkerRoute} :
    watch workerId actions = .watched route ↔
      Stalled workerId actions route := by
  rw [watch, Watch.watched_iff]
  constructor
  · rintro ⟨before, checks, whole, some, only⟩
    obtain ⟨first, rest, split, _, started⟩ :=
      List.filterMap_eq_append_iff.mp whole
    obtain ⟨skipped, action, after, shape, _, begun, last⟩ :=
      List.filterMap_eq_cons_iff.mp started
    obtain ⟨trace, triggered, nonzero, same⟩ := event_start begun
    have seen : ∀ later ∈ after, ∀ event,
        later.event workerId = Option.some event → event = .check := by
      intro later member event sees
      apply only
      rw [← last]
      exact List.mem_filterMap.mpr ⟨later, member, sees⟩
    refine ⟨first ++ skipped, action, after, trace, ?_, triggered, nonzero,
      same, fun later member => quiet_of_event (seen later member), ?_⟩
    · rw [split, shape, List.append_assoc]
    · obtain ⟨event, inChecks⟩ := List.exists_mem_of_ne_nil checks some
      rw [← last] at inChecks
      obtain ⟨later, member, sees⟩ := List.mem_filterMap.mp inChecks
      rw [seen later member event sees] at sees
      rw [← event_check sees]
      exact member
  · rintro ⟨before, action, after, trace, whole, triggered, nonzero, same,
      quiet, checked⟩
    refine ⟨before.filterMap (event workerId),
      after.filterMap (event workerId), ?_, ?_, ?_⟩
    · rw [whole, List.filterMap_append, List.filterMap_cons,
        event_of_triggers triggered, if_neg nonzero, same]
    · have seen : Event.check ∈ after.filterMap (event workerId) := by
        apply List.mem_filterMap.mpr
        refine ⟨.checkStalled workerId, checked, ?_⟩
        simp [event, triggers, clears]
      exact List.ne_nil_of_mem seen
    · intro seen member
      obtain ⟨later, inAfter, sees⟩ := List.mem_filterMap.mp member
      obtain ⟨untriggered, unclear⟩ := quiet later inAfter
      simp only [event, untriggered, unclear, Bool.false_eq_true, if_false]
        at sees
      split at sees
      · cases sees
        rfl
      · cases sees

end MonitorAction

/-- The counters of a slot encode the watchdog of its worker. -/
structure WorkerSlot.Follows (slot : WorkerSlot) (watch : Watch WorkerRoute)
    (versions : Nat) : Prop where
  version : slot.version.toNat = versions
  encodes : Encodes (if slot.route.active = true then some slot.route else none)
    slot.version.toNat slot.checkedVersion.toNat watch

namespace WorkerSlot.Follows

variable {slot : WorkerSlot} {watch : Watch WorkerRoute} {versions : Nat}

theorem initially : Follows {} .quiet 0 := ⟨rfl, .initially⟩

private theorem advanced (follows : slot.Follows watch versions)
    (room : versions + 1 < 2 ^ 64) :
    (slot.version + 1).toNat = slot.version.toNat + 1 := by
  have version := follows.version
  rw [UInt64.toNat_add, UInt64.toNat_one]
  omega

theorem trigger (follows : slot.Follows watch versions)
    (room : versions + 1 < 2 ^ 64) (trace : DispatchTrace) :
    (slot.trigger trace).Follows
      (watch.step (if trace.targetHandle = 0 then .stop
        else .start trace.route)) (versions + 1) := by
  have next := follows.advanced room
  have version := follows.version
  refine ⟨?_, ?_⟩
  · rw [← version]
    exact next
  · have active : trace.route.active = true ↔ trace.targetHandle ≠ 0 := by
      simp [WorkerRoute.active, DispatchTrace.route]
    simp only [WorkerSlot.trigger, next, active, ite_not]
    split
    · exact follows.encodes.stop (Nat.le_succ_of_le follows.encodes.behind)
    · exact follows.encodes.start _

theorem clear (follows : slot.Follows watch versions)
    (room : versions + 1 < 2 ^ 64) :
    slot.clear.Follows (watch.step .stop) (versions + 1) := by
  have next := follows.advanced room
  have version := follows.version
  refine ⟨?_, ?_⟩
  · rw [← version]
    exact next
  · simp only [WorkerSlot.clear, next]
    exact follows.encodes.stop (Nat.le_refl _)

theorem check (follows : slot.Follows watch versions) :
    slot.check.Follows (watch.step .check) versions :=
  ⟨follows.version, follows.encodes.check⟩

theorem asleep (follows : slot.Follows watch versions) (sleeping : Bool) :
    { slot with sleeping := sleeping }.Follows watch versions :=
  ⟨follows.version, follows.encodes⟩

/-- What the slot says of its worker is the verdict of the watchdog. -/
theorem stalled (follows : slot.Follows watch versions) :
    slot.stalled = watch.verdict := by
  rw [follows.encodes.verdict, WorkerSlot.stalled]
  have same : slot.checkedVersion.toNat = slot.version.toNat ↔
      slot.version = slot.checkedVersion := by
    rw [UInt64.toNat_inj, eq_comm]
  simp only [same]
  by_cases seen : slot.version = slot.checkedVersion
  · simp [seen]
  · simp [seen]

/-- An operation on the worker of the slot. -/
theorem perform (follows : slot.Follows watch versions) {workerId : Nat}
    {action : MonitorAction} (about : action.workerId? = some workerId)
    (room : versions + (if action.bumps workerId then 1 else 0) < 2 ^ 64) :
    (WorkerMonitor.slotEffect slot action).Follows
      (match action.event workerId with
        | none => watch
        | some event => watch.step event)
      (versions + if action.bumps workerId then 1 else 0) := by
  cases action with
  | markSleeping other => exact follows.asleep true
  | markAwake other => exact follows.asleep false
  | onBusyTurn other => exact follows.asleep false
  | onIdle other => exact follows.asleep true
  | trigger other trace =>
      cases about
      simp only [MonitorAction.bumps, MonitorAction.triggers, if_true,
        Option.isSome_some, Bool.true_or] at room
      simpa [WorkerMonitor.slotEffect, MonitorAction.bumps,
        MonitorAction.event, MonitorAction.triggers] using follows.trigger room trace
  | onDispatchBegin other trace =>
      cases about
      simp only [MonitorAction.bumps, MonitorAction.triggers, if_true,
        Option.isSome_some, Bool.true_or] at room
      simpa [WorkerMonitor.slotEffect, MonitorAction.bumps,
        MonitorAction.event, MonitorAction.triggers] using follows.trigger room trace
  | clear other =>
      cases about
      simp only [MonitorAction.bumps, MonitorAction.triggers,
        MonitorAction.clears, beq_self_eq_true, Bool.or_true, if_true] at room
      simpa [WorkerMonitor.slotEffect, MonitorAction.bumps,
        MonitorAction.event, MonitorAction.triggers, MonitorAction.clears]
        using follows.clear room
  | onDispatchEnd other =>
      cases about
      simp only [MonitorAction.bumps, MonitorAction.triggers,
        MonitorAction.clears, beq_self_eq_true, Bool.or_true, if_true] at room
      simpa [WorkerMonitor.slotEffect, MonitorAction.bumps,
        MonitorAction.event, MonitorAction.triggers, MonitorAction.clears]
        using (follows.clear room).asleep false
  | checkStalled other =>
      cases about
      simpa [WorkerMonitor.slotEffect, MonitorAction.bumps,
        MonitorAction.event, MonitorAction.triggers, MonitorAction.clears]
        using follows.check
  | requestQuit => cases about
  | setAlertSink callable => cases about
  | resetAlertSink => cases about
  | setLoggerAlertEnabled enabled => cases about

end WorkerSlot.Follows

namespace WorkerMonitor

open MonitorAction (versions)

/-- Every slot follows the watchdog of its worker. -/
theorem performAll_follows {workerCount workerId : Nat}
    (known : workerId < workerCount) (actions : List MonitorAction)
    (unwrapped : versions workerId actions < 2 ^ 64) :
    ∃ slot, ((new workerCount).performAll actions).workers[workerId]? =
        some slot ∧
      slot.Follows (MonitorAction.watch workerId actions)
        (versions workerId actions) := by
  induction actions using List.reverseRecOn with
  | nil =>
      refine ⟨{}, ?_, .initially⟩
      simp [new, performAll, known]
  | append_singleton actions action induction =>
      have counted : versions workerId (actions ++ [action]) =
          versions workerId actions +
            if action.bumps workerId then 1 else 0 := by
        simp [versions, List.countP_append, List.countP_singleton]
      rw [counted] at unwrapped ⊢
      obtain ⟨slot, found, follows⟩ := induction (by omega)
      have watched : MonitorAction.watch workerId (actions ++ [action]) =
          match action.event workerId with
          | none => MonitorAction.watch workerId actions
          | some event =>
              (MonitorAction.watch workerId actions).step event := by
        unfold MonitorAction.watch
        rw [List.filterMap_append]
        cases sees : action.event workerId with
        | none => simp [sees]
        | some event => simp [sees, Watch.after_snoc]
      rw [performAll_snoc, perform_slot, watched]
      by_cases about : action.workerId? = some workerId
      · rw [if_pos about, found]
        exact ⟨_, rfl, follows.perform about unwrapped⟩
      · obtain ⟨unseen, still⟩ := MonitorAction.event_elsewhere about
        rw [if_neg about, found, unseen, still]
        exact ⟨slot, rfl, follows⟩

/-- The slot of a worker depends on the operations on it alone. -/
theorem performAll_slot_filter (monitor : WorkerMonitor) (workerId : Nat)
    (actions : List MonitorAction) :
    (monitor.performAll actions).workers[workerId]? =
      (monitor.performAll (actions.filter fun action =>
        action.workerId? == some workerId)).workers[workerId]? := by
  induction actions using List.reverseRecOn with
  | nil => rfl
  | append_singleton actions action induction =>
      rw [performAll_snoc, perform_slot, List.filter_append]
      by_cases about : action.workerId? = some workerId
      · have kept : [action].filter (fun action =>
            action.workerId? == some workerId) = [action] := by
          simp [about]
        rw [kept, performAll_snoc, perform_slot, if_pos about, if_pos about,
          induction]
      · have dropped : [action].filter (fun action =>
            action.workerId? == some workerId) = [] := by
          simp [about]
        rw [dropped, List.append_nil, if_neg about, induction]

/-- The result of a check after a list of operations. -/
theorem checkStalled_watch {workerCount workerId : Nat}
    (known : workerId < workerCount) (actions : List MonitorAction)
    (unwrapped : versions workerId actions < 2 ^ 64) :
    (((new workerCount).performAll actions).checkStalled workerId).1 =
      (MonitorAction.watch workerId actions).verdict := by
  obtain ⟨slot, found, follows⟩ :=
    performAll_follows known actions unwrapped
  rw [checkStalled_verdict, found, Option.bind_some, follows.stalled]

/-- The route that an operation reports, if it is a check. -/
def reported (monitor : WorkerMonitor) :
    MonitorAction → Option (Nat × WorkerRoute)
  | .checkStalled workerId =>
      (monitor.checkStalled workerId).1.map fun route => (workerId, route)
  | _ => none

/-- The routes that the checks among the operations report. -/
def verdicts (monitor : WorkerMonitor) :
    List MonitorAction → List (Nat × WorkerRoute)
  | [] => []
  | action :: actions =>
      (monitor.reported action).toList ++
        (monitor.perform action).verdicts actions

theorem verdicts_append (monitor : WorkerMonitor)
    (first second : List MonitorAction) :
    monitor.verdicts (first ++ second) =
      monitor.verdicts first ++
        (monitor.performAll first).verdicts second := by
  induction first generalizing monitor with
  | nil => rfl
  | cons action actions induction =>
      rw [List.cons_append, verdicts, induction, verdicts, List.append_assoc]
      rfl

private theorem markAwake_stallEvents (monitor : WorkerMonitor) (workerId : Nat) :
    (monitor.markAwake workerId).stallEvents = monitor.stallEvents := by
  unfold markAwake
  split
  · rfl
  · split <;> rfl

private theorem markSleeping_stallEvents (monitor : WorkerMonitor) (workerId : Nat) :
    (monitor.markSleeping workerId).stallEvents = monitor.stallEvents := by
  unfold markSleeping
  split
  · rfl
  · split <;> rfl

private theorem onBusyTurn_stallEvents (monitor : WorkerMonitor) (workerId : Nat) :
    (monitor.onBusyTurn workerId).stallEvents = monitor.stallEvents := by
  unfold onBusyTurn
  split
  · rfl
  · exact monitor.markAwake_stallEvents workerId

private theorem trigger_stallEvents (monitor : WorkerMonitor) (workerId : Nat)
    (trace : DispatchTrace) :
    (monitor.trigger workerId trace).stallEvents = monitor.stallEvents := by
  unfold trigger
  split <;> rfl

private theorem clear_stallEvents (monitor : WorkerMonitor) (workerId : Nat) :
    (monitor.clear workerId).stallEvents = monitor.stallEvents := by
  unfold clear
  split <;> rfl

private theorem onDispatchEnd_stallEvents (monitor : WorkerMonitor)
    (workerId : Nat) :
    (monitor.onDispatchEnd workerId).stallEvents = monitor.stallEvents := by
  unfold onDispatchEnd
  rw [onBusyTurn_stallEvents, clear_stallEvents, markAwake_stallEvents]

private theorem checkStalled_stallEvents (monitor : WorkerMonitor) (workerId : Nat) :
    (monitor.checkStalled workerId).2.stallEvents =
      monitor.stallEvents +
        if (monitor.checkStalled workerId).1.isSome then 1 else 0 := by
  unfold checkStalled
  split
  · exact (UInt64.add_zero _).symm
  · split
    · exact (UInt64.add_zero _).symm
    · split
      · rfl
      · exact (UInt64.add_zero _).symm

/-- Stall events count the routes reported. -/
theorem perform_stallEvents (monitor : WorkerMonitor)
    (action : MonitorAction) :
    (monitor.perform action).stallEvents =
      monitor.stallEvents +
        if (monitor.reported action).isSome then 1 else 0 := by
  have none : monitor.stallEvents = monitor.stallEvents +
      if (Option.none : Option (Nat × WorkerRoute)).isSome then 1 else 0 :=
    (UInt64.add_zero _).symm
  cases action with
  | markSleeping workerId =>
      exact (monitor.markSleeping_stallEvents workerId).trans none
  | markAwake workerId =>
      exact (monitor.markAwake_stallEvents workerId).trans none
  | onBusyTurn workerId =>
      exact (monitor.onBusyTurn_stallEvents workerId).trans none
  | onDispatchBegin workerId trace =>
      exact (monitor.trigger_stallEvents workerId trace).trans none
  | onDispatchEnd workerId =>
      exact (monitor.onDispatchEnd_stallEvents workerId).trans none
  | onIdle workerId =>
      exact (monitor.markSleeping_stallEvents workerId).trans none
  | trigger workerId trace =>
      exact (monitor.trigger_stallEvents workerId trace).trans none
  | clear workerId => exact (monitor.clear_stallEvents workerId).trans none
  | checkStalled workerId =>
      simp only [perform, reported, Option.isSome_map]
      exact monitor.checkStalled_stallEvents workerId
  | _ => exact none

theorem performAll_stallEvents (monitor : WorkerMonitor)
    (actions : List MonitorAction) :
    (monitor.performAll actions).stallEvents =
      monitor.stallEvents + UInt64.ofNat (monitor.verdicts actions).length := by
  induction actions generalizing monitor with
  | nil => exact (UInt64.add_zero _).symm
  | cons action actions induction =>
      show ((monitor.perform action).performAll actions).stallEvents = _
      rw [induction, perform_stallEvents, verdicts, List.length_append,
        UInt64.ofNat_add, UInt64.add_assoc]
      cases monitor.reported action with
      | none => rfl
      | some report => rfl

end WorkerMonitor

end Crynet
