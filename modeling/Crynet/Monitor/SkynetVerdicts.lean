import Crynet.Monitor.StallVerdicts

/-!
# The verdicts of skynet

Skynet has no operation that clears a route: a worker that is done triggers its
monitor with two zero handles.  Under that reading its monitors report a stall
exactly when this one does.
-/

namespace Crynet

open MonitorAction (versions)
open Watchdog (Encodes Event Watch)

namespace SkynetMonitor

/-- The monitor of a worker sees the operations on that worker. -/
def perform (workerId : Nat) (monitor : SkynetMonitor)
    (action : MonitorAction) : SkynetMonitor :=
  match action.triggers workerId with
  | some trace =>
      monitor.trigger trace.sourceHandle.toUInt32 trace.targetHandle.toUInt32
  | none =>
      if action.clears workerId = true then monitor.trigger 0 0
      else if action = .checkStalled workerId then monitor.check.2
      else monitor

def performAll (workerId : Nat) (actions : List MonitorAction) :
    SkynetMonitor :=
  actions.foldl (perform workerId) {}

/-- What skynet knows of a route. -/
def view (route : WorkerRoute) : UInt32 × UInt32 :=
  (route.sourceHandle.toUInt32, route.targetHandle.toUInt32)

/-- The counters of a monitor encode the watchdog of its worker. -/
structure Follows (monitor : SkynetMonitor)
    (watch : Watch (UInt32 × UInt32)) (versions : Nat) : Prop where
  version : monitor.version.toInt = versions
  checked : 0 ≤ monitor.checkVersion.toInt
  encodes : Encodes
    (if monitor.destination ≠ 0 then
      some (monitor.source, monitor.destination)
    else none)
    versions monitor.checkVersion.toInt.toNat watch

namespace Follows

variable {monitor : SkynetMonitor} {watch : Watch (UInt32 × UInt32)}
variable {count : Nat}

theorem initially : Follows {} .quiet 0 := ⟨rfl, by decide, .initially⟩

theorem trigger (follows : monitor.Follows watch count)
    (room : count + 1 < 2 ^ 31) (source destination : UInt32) :
    (monitor.trigger source destination).Follows
      (watch.step (if destination = 0 then .stop
        else .start (source, destination))) (count + 1) := by
  have version := follows.version
  refine ⟨?_, follows.checked, ?_⟩
  · show (monitor.version + 1).toInt = _
    rw [Int32.toInt_add, version, Int32.toInt_one, Int.bmod_eq_of_le]
    · omega
    · omega
    · omega
  · by_cases ended : destination = 0
    · simp only [SkynetMonitor.trigger, ended, ne_eq, not_true_eq_false,
        if_false, if_true]
      exact follows.encodes.stop (Nat.le_succ_of_le follows.encodes.behind)
    · simp only [SkynetMonitor.trigger, ended, ne_eq, not_false_eq_true,
        if_false, if_true]
      exact follows.encodes.start _

theorem check (follows : monitor.Follows watch count) :
    monitor.check.2.Follows (watch.step .check) count := by
  have version := follows.version
  have copied : (monitor.version.toInt).toNat = count := by omega
  have checked := follows.encodes.check
  unfold SkynetMonitor.check
  split
  · rename_i same
    have seen : monitor.checkVersion.toInt.toNat = count := by
      rw [← same]
      exact copied
    rw [← seen] at checked
    split
    · exact ⟨version, follows.checked, by rw [← seen]; exact checked⟩
    · exact ⟨version, follows.checked, by rw [← seen]; exact checked⟩
  · refine ⟨version, ?_, ?_⟩
    · show 0 ≤ monitor.version.toInt
      omega
    · simp only [copied]
      exact checked

/-- What skynet prints is the verdict of the watchdog. -/
theorem verdict (follows : monitor.Follows watch count) :
    (monitor.check.1.map fun report => (report.source, report.destination)) =
      watch.verdict := by
  have same : monitor.checkVersion.toInt.toNat = count ↔
      monitor.version = monitor.checkVersion := by
    rw [← Int32.toInt_inj, follows.version]
    have nonneg := follows.checked
    omega
  rw [follows.encodes.verdict, SkynetMonitor.check]
  simp only [same]
  split
  · split
    · rfl
    · rfl
  · rfl

end Follows

/-- Handles of skynet have 32 bits. -/
def Fits (workerId : Nat) (actions : List MonitorAction) : Prop :=
  ∀ action ∈ actions, ∀ trace, action.triggers workerId = some trace →
    trace.targetHandle.toNat < 2 ^ 32

private theorem narrow_eq_zero {handle : ServiceHandle}
    (small : handle.toNat < 2 ^ 32) :
    handle.toUInt32 = 0 ↔ handle = 0 := by
  rw [← UInt32.toNat_inj, ← UInt64.toNat_inj, UInt64.toNat_toUInt32,
    UInt32.toNat_zero, UInt64.toNat_zero]
  omega

/-- One operation, seen by skynet. -/
theorem Follows.perform {monitor : SkynetMonitor}
    {watch : Watch (UInt32 × UInt32)} {count workerId : Nat}
    (follows : monitor.Follows watch count) {action : MonitorAction}
    (room : count + (if action.bumps workerId then 1 else 0) < 2 ^ 31)
    (fits : ∀ trace, action.triggers workerId = some trace →
      trace.targetHandle.toNat < 2 ^ 32) :
    (monitor.perform workerId action).Follows
      (match action.event workerId with
        | none => watch
        | some event => watch.step (event.map view))
      (count + if action.bumps workerId then 1 else 0) := by
  unfold SkynetMonitor.perform MonitorAction.event MonitorAction.bumps
  unfold MonitorAction.bumps at room
  cases triggered : action.triggers workerId with
  | some trace =>
      simp only [triggered, Option.isSome_some, Bool.true_or, if_true] at room ⊢
      have went := follows.trigger room trace.sourceHandle.toUInt32
        trace.targetHandle.toUInt32
      have zero := narrow_eq_zero (fits trace triggered)
      by_cases ended : trace.targetHandle = 0
      · rw [if_pos (zero.mpr ended)] at went
        rw [if_pos ended]
        exact went
      · rw [if_neg fun narrow => ended (zero.mp narrow)] at went
        rw [if_neg ended]
        exact went
  | none =>
      simp only [triggered, Option.isSome_none, Bool.false_or] at room ⊢
      cases cleared : action.clears workerId with
      | true =>
          simp only [cleared, if_true] at room ⊢
          exact follows.trigger room 0 0
      | false =>
          simp only [Bool.false_eq_true, if_false, Nat.add_zero]
          split
          · exact follows.check
          · exact follows

/-- The monitor of a worker follows the watchdog of that worker. -/
theorem performAll_follows {workerId : Nat} (actions : List MonitorAction)
    (unwrapped : versions workerId actions < 2 ^ 31)
    (fits : Fits workerId actions) :
    (performAll workerId actions).Follows
      (Watch.after ((actions.filterMap (MonitorAction.event workerId)).map
        (Event.map view))) (versions workerId actions) := by
  induction actions using List.reverseRecOn with
  | nil => exact .initially
  | append_singleton actions action induction =>
      have counted : versions workerId (actions ++ [action]) =
          versions workerId actions +
            if action.bumps workerId then 1 else 0 := by
        simp [versions, List.countP_append, List.countP_singleton]
      rw [counted] at unwrapped ⊢
      have before := induction (by omega) fun earlier member =>
        fits earlier (List.mem_append_left _ member)
      have after := before.perform unwrapped
        (fits action (List.mem_append_right _ (List.mem_singleton.mpr rfl)))
      have performed : performAll workerId (actions ++ [action]) =
          (performAll workerId actions).perform workerId action := by
        simp [performAll, List.foldl_append]
      have watched :
          Watch.after (((actions ++ [action]).filterMap
            (MonitorAction.event workerId)).map (Event.map view)) =
          match action.event workerId with
          | none => Watch.after ((actions.filterMap
              (MonitorAction.event workerId)).map (Event.map view))
          | some event => (Watch.after ((actions.filterMap
              (MonitorAction.event workerId)).map (Event.map view))).step
                (event.map view) := by
        rw [List.filterMap_append, List.map_append]
        cases sees : action.event workerId with
        | none => simp [sees]
        | some event => simp [sees, Watch.after_snoc]
      rw [performed, watched]
      exact after

end SkynetMonitor

namespace WorkerMonitor

/-- A check reports a route exactly when the last route set for the worker has
a target, nothing has cleared it and it has been checked before; stall events
count these reports; operations on other workers do not matter; and a monitor
of skynet reports the same stalls. -/
theorem stall_verdicts_exact {workerCount : Nat}
    {actions : List MonitorAction}
    (unwrapped : ∀ workerId, versions workerId actions < 2 ^ 64) :
    (∀ workerId route,
      (((new workerCount).performAll actions).checkStalled workerId).1 =
          some route ↔
        workerId < workerCount ∧
          MonitorAction.Stalled workerId actions route) ∧
    ((new workerCount).performAll actions).stallEvents =
      UInt64.ofNat ((new workerCount).verdicts actions).length ∧
    (∀ workerId,
      (((new workerCount).performAll actions).checkStalled workerId).1 =
        (((new workerCount).performAll (actions.filter fun action =>
          action.workerId? == some workerId)).checkStalled workerId).1) ∧
    ∀ workerId, workerId < workerCount → versions workerId actions < 2 ^ 31 →
      SkynetMonitor.Fits workerId actions →
        ((SkynetMonitor.performAll workerId actions).check.1.map
            fun report => (report.source, report.destination)) =
          (((new workerCount).performAll actions).checkStalled
            workerId).1.map SkynetMonitor.view := by
  refine ⟨?_, ?_, ?_, ?_⟩
  · intro workerId route
    by_cases known : workerId < workerCount
    · rw [checkStalled_watch known actions (unwrapped workerId),
        Watch.verdict_iff, MonitorAction.watched_iff]
      exact ⟨fun stalled => ⟨known, stalled⟩, And.right⟩
    · have missing : ((new workerCount).performAll actions).workers[workerId]?
          = none := by
        rw [← Option.isNone_iff_eq_none, ← Option.not_isSome,
          performAll_slot_isSome]
        simp [new, known]
      rw [checkStalled_verdict, missing]
      constructor
      · intro impossible
        cases impossible
      · intro impossible
        exact absurd impossible.1 known
  · rw [performAll_stallEvents]
    exact UInt64.zero_add _
  · intro workerId
    rw [checkStalled_verdict, checkStalled_verdict, performAll_slot_filter]
  · intro workerId known short fits
    have follows := SkynetMonitor.performAll_follows actions short fits
    rw [follows.verdict, Watchdog.verdict_map,
      checkStalled_watch known actions (unwrapped workerId)]
    rfl

/-- Two workers, the first of which makes no progress. -/
theorem stall_verdicts_exact_two :
    (((new 2).performAll
        [.trigger 0 { sourceHandle := 7, targetHandle := 8 },
          .checkStalled 0, .trigger 1 { targetHandle := 9 },
          .checkStalled 0]).checkStalled 0).1 =
      some { sourceHandle := 7, targetHandle := 8 } ∧
    ((new 2).performAll
        [.trigger 0 { sourceHandle := 7, targetHandle := 8 },
          .checkStalled 0, .trigger 1 { targetHandle := 9 },
          .checkStalled 0]).stallEvents = 1 := by
  have unwrapped : ∀ workerId, versions workerId
      [.trigger 0 { sourceHandle := 7, targetHandle := 8 }, .checkStalled 0,
        .trigger 1 { targetHandle := 9 }, .checkStalled 0] < 2 ^ 64 := by
    intro workerId
    have few : versions workerId
        [.trigger 0 { sourceHandle := 7, targetHandle := 8 },
          .checkStalled 0, .trigger 1 { targetHandle := 9 },
          .checkStalled 0] ≤ 4 :=
      List.countP_le_length
    omega
  have verdicts := @stall_verdicts_exact 2 _ unwrapped
  refine ⟨(verdicts.1 0 _).mpr ⟨by decide, ?_⟩, verdicts.2.1⟩
  exact ⟨[], _, _, _, rfl, rfl, by decide, rfl, by decide, by decide⟩

end WorkerMonitor

end Crynet
