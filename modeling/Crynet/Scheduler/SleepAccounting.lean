import Crynet.Scheduler.WorkerMonitor
import Mathlib.Tactic.Common
import Mathlib.Algebra.Ring.Nat

/-!
# Sleep accounting

The monitor counts the workers that it has flagged as sleeping.  The counter
moves only together with a flag, so it is exact, and `should_wake` compares the
given number with the workers that are awake.
-/

namespace Crynet

namespace WorkerMonitor

/-- Workers that are flagged as sleeping. -/
def sleepers (monitor : WorkerMonitor) : Nat :=
  monitor.workers.countP WorkerSlot.sleeping

/-- The counter is the number of flags. -/
def Accounted (monitor : WorkerMonitor) : Prop :=
  monitor.sleepingWorkers = UInt64.ofNat monitor.sleepers

variable {monitor : WorkerMonitor} {workerId : Nat} {slot : WorkerSlot}

/-- A flag is part of the count. -/
theorem sleepers_set (found : monitor.workers[workerId]? = some slot)
    (changed : WorkerSlot) :
    (monitor.setSlot workerId changed).sleepers +
        (if slot.sleeping then 1 else 0) =
      monitor.sleepers + if changed.sleeping then 1 else 0 := by
  obtain ⟨inside, here⟩ := List.getElem?_eq_some_iff.mp found
  have counted : (if monitor.workers[workerId].sleeping then 1 else 0) ≤
      monitor.workers.countP WorkerSlot.sleeping :=
    List.boole_getElem_le_countP inside
  rw [here] at counted
  rw [sleepers, setSlot, List.countP_set inside, here, sleepers]
  omega

private theorem sleepers_le (monitor : WorkerMonitor) :
    monitor.sleepers ≤ monitor.workers.length :=
  List.countP_le_length

namespace Accounted

theorem new (workerCount : Nat) : (new workerCount).Accounted := by
  have none : (WorkerMonitor.new workerCount).sleepers = 0 := by
    apply List.countP_eq_zero.mpr
    intro slot member
    rw [List.eq_of_mem_replicate member]
    exact Bool.false_ne_true
  rw [Accounted, none]
  rfl

/-- The flag of a worker is left as it is. -/
theorem setSlot (accounted : monitor.Accounted)
    (found : monitor.workers[workerId]? = some slot) {changed : WorkerSlot}
    (same : changed.sleeping = slot.sleeping) :
    (monitor.setSlot workerId changed).Accounted := by
  have counted := sleepers_set found changed
  rw [same] at counted
  have kept : (monitor.setSlot workerId changed).sleepers =
      monitor.sleepers := by
    omega
  rw [Accounted, kept]
  exact accounted

theorem markSleeping (accounted : monitor.Accounted) (workerId : Nat) :
    (monitor.markSleeping workerId).Accounted := by
  unfold WorkerMonitor.markSleeping
  cases found : monitor.workers[workerId]? with
  | none => exact accounted
  | some slot =>
      simp only
      split
      · exact accounted
      · rename_i awake
        have counted := sleepers_set found { slot with sleeping := true }
        simp only [if_true, if_neg awake] at counted
        show monitor.sleepingWorkers + 1 =
          UInt64.ofNat (monitor.setSlot workerId
            { slot with sleeping := true }).sleepers
        rw [← Nat.add_zero (sleepers _), counted, accounted,
          UInt64.ofNat_add]
        rfl

theorem markAwake (accounted : monitor.Accounted) (workerId : Nat) :
    (monitor.markAwake workerId).Accounted := by
  unfold WorkerMonitor.markAwake
  cases found : monitor.workers[workerId]? with
  | none => exact accounted
  | some slot =>
      simp only
      split
      · exact accounted
      · rename_i asleep
        have counted := sleepers_set found { slot with sleeping := false }
        simp only [Bool.not_eq_false] at asleep
        simp only [asleep, if_true, Bool.false_eq_true, if_false,
          Nat.add_zero] at counted
        show monitor.sleepingWorkers - 1 =
          UInt64.ofNat (monitor.setSlot workerId
            { slot with sleeping := false }).sleepers
        rw [accounted, ← counted, UInt64.ofNat_add]
        exact UInt64.add_sub_cancel _ _

theorem trigger (accounted : monitor.Accounted) (workerId : Nat)
    (trace : DispatchTrace) : (monitor.trigger workerId trace).Accounted := by
  unfold WorkerMonitor.trigger
  cases found : monitor.workers[workerId]? with
  | none => exact accounted
  | some slot => exact accounted.setSlot found rfl

theorem clear (accounted : monitor.Accounted) (workerId : Nat) :
    (monitor.clear workerId).Accounted := by
  unfold WorkerMonitor.clear
  cases found : monitor.workers[workerId]? with
  | none => exact accounted
  | some slot => exact accounted.setSlot found rfl

theorem onBusyTurn (accounted : monitor.Accounted) (workerId : Nat) :
    (monitor.onBusyTurn workerId).Accounted := by
  unfold WorkerMonitor.onBusyTurn
  cases monitor.workers[workerId]? with
  | none => exact accounted
  | some slot => exact accounted.markAwake workerId

theorem onDispatchEnd (accounted : monitor.Accounted) (workerId : Nat) :
    (monitor.onDispatchEnd workerId).Accounted :=
  ((accounted.markAwake workerId).clear workerId).onBusyTurn workerId

theorem checkStalled (accounted : monitor.Accounted) (workerId : Nat) :
    (monitor.checkStalled workerId).2.Accounted := by
  unfold WorkerMonitor.checkStalled
  cases found : monitor.workers[workerId]? with
  | none => exact accounted
  | some slot =>
      simp only
      split
      · exact accounted.setSlot found rfl
      · split
        · exact accounted
        · exact accounted.setSlot found rfl

/-- The step lemma of the counter. -/
theorem perform (accounted : monitor.Accounted) (action : MonitorAction) :
    (monitor.perform action).Accounted := by
  cases action with
  | markSleeping workerId => exact accounted.markSleeping workerId
  | markAwake workerId => exact accounted.markAwake workerId
  | onBusyTurn workerId => exact accounted.onBusyTurn workerId
  | onDispatchBegin workerId trace => exact accounted.trigger workerId trace
  | onDispatchEnd workerId => exact accounted.onDispatchEnd workerId
  | onIdle workerId => exact accounted.markSleeping workerId
  | trigger workerId trace => exact accounted.trigger workerId trace
  | clear workerId => exact accounted.clear workerId
  | checkStalled workerId => exact accounted.checkStalled workerId
  | _ => exact accounted

theorem performAll (accounted : monitor.Accounted)
    (actions : List MonitorAction) :
    (monitor.performAll actions).Accounted := by
  induction actions generalizing monitor with
  | nil => exact accounted
  | cons action actions induction => exact induction (accounted.perform action)

theorem toNat (accounted : monitor.Accounted)
    (small : monitor.workers.length < 2 ^ 64) :
    monitor.sleepingWorkers.toNat = monitor.sleepers := by
  rw [accounted]
  exact UInt64.toNat_ofNat_of_lt' (Nat.lt_of_le_of_lt (sleepers_le monitor) small)

/-- `should_wake` compares the number of busy workers with the number of those
that are awake. -/
theorem shouldWake_iff (accounted : monitor.Accounted)
    (small : monitor.workers.length < 2 ^ 64) (busyWorkers : UInt64) :
    monitor.shouldWake busyWorkers = true ↔
      monitor.workers.length - monitor.sleepers ≤ busyWorkers.toNat := by
  have length : (UInt64.ofNat monitor.workers.length).toNat =
      monitor.workers.length := UInt64.toNat_ofNat_of_lt' small
  have counter := accounted.toNat small
  have bounded := sleepers_le monitor
  simp only [shouldWake, decide_eq_true_eq]
  split
  · rename_i more
    rw [UInt64.lt_iff_toNat_lt, length] at more
    simp only [UInt64.sub_self, UInt64.zero_le, true_iff]
    omega
  · rename_i fewer
    rw [UInt64.lt_iff_toNat_lt, length] at fewer
    rw [UInt64.le_iff_toNat_le, counter, UInt64.toNat_sub_of_le, length]
    · omega
    · rw [UInt64.le_iff_toNat_le, length]
      omega

end Accounted

end WorkerMonitor

end Crynet
