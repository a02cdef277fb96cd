import Crynet.Scheduler.SleepAccounting

/-!
# Wake events

A worker wakes up where an operation takes its flag away.  Whatever operation
does so, the count of wake events moves by one: the end of a dispatch goes
through `mark_awake` twice, and only the first time finds the flag.  The count
is a 64-bit number, so it shows the number of wake-ups as far as 64 bits hold
it.
-/

namespace Crynet

namespace WorkerMonitor

/-- Whether a worker is flagged as sleeping. -/
def asleep (monitor : WorkerMonitor) (workerId : Nat) : Bool :=
  monitor.workers[workerId]?.any WorkerSlot.sleeping

/-- Workers that sleep before an operation and not after it. -/
def woken (monitor : WorkerMonitor) (action : MonitorAction) : List Nat :=
  (List.range monitor.workers.length).filter fun workerId =>
    monitor.asleep workerId && !(monitor.perform action).asleep workerId

/-- The sleeping-to-awake transitions of a sequence of operations. -/
def wakeUps : WorkerMonitor → List MonitorAction → List Nat
  | _, [] => []
  | monitor, action :: actions =>
      monitor.woken action ++ (monitor.perform action).wakeUps actions

variable {monitor next : WorkerMonitor} {workerId : Nat}

private theorem asleep_iff :
    monitor.asleep workerId = true ↔
      ∃ slot, monitor.workers[workerId]? = some slot ∧
        slot.sleeping = true :=
  Option.any_eq_true _ _

private theorem lt_of_asleep (asleep : monitor.asleep workerId = true) :
    workerId < monitor.workers.length := by
  obtain ⟨slot, found, _⟩ := asleep_iff.mp asleep
  obtain ⟨inside, _⟩ := List.getElem?_eq_some_iff.mp found
  exact inside

private theorem sleepers_pos (asleep : monitor.asleep workerId = true) :
    0 < monitor.sleepers := by
  obtain ⟨slot, found, flagged⟩ := asleep_iff.mp asleep
  apply List.countP_pos_iff.mpr
  exact ⟨slot, List.mem_of_getElem? found, flagged⟩

theorem Edits.asleep {effect : WorkerSlot → WorkerSlot}
    (edits : Edits monitor next workerId effect) (other : Nat) :
    next.asleep other =
      if other = workerId then
        monitor.workers[other]?.any fun slot => (effect slot).sleeping
      else
        monitor.asleep other := by
  rw [WorkerMonitor.asleep, edits other]
  split
  · exact Option.any_map
  · rfl

/-- The flag of one worker is taken away, if it has one. -/
def Rouses (monitor next : WorkerMonitor) (workerId : Nat) : Prop :=
  ∀ other, next.asleep other =
    if other = workerId then false else monitor.asleep other

/-- Every flag stays. -/
def Rests (monitor next : WorkerMonitor) : Prop :=
  ∀ other, monitor.asleep other = true → next.asleep other = true

private theorem Rouses.of_edits {effect : WorkerSlot → WorkerSlot}
    (edits : Edits monitor next workerId effect)
    (awake : ∀ slot, (effect slot).sleeping = false) :
    Rouses monitor next workerId := by
  intro other
  rw [edits.asleep other]
  split
  · simp only [awake]
    exact Option.any_false
  · rfl

private theorem Rests.of_edits {effect : WorkerSlot → WorkerSlot}
    (edits : Edits monitor next workerId effect)
    (kept : ∀ slot, slot.sleeping = true → (effect slot).sleeping = true) :
    Rests monitor next := by
  intro other asleep
  rw [edits.asleep other]
  split
  · obtain ⟨slot, found, flagged⟩ := asleep_iff.mp asleep
    rw [found]
    exact kept slot flagged
  · exact asleep

theorem Rests.woken {action : MonitorAction}
    (rests : Rests monitor (monitor.perform action)) :
    monitor.woken action = [] := by
  apply List.filter_eq_nil_iff.mpr
  intro other _ wakes
  simp only [Bool.and_eq_true, Bool.not_eq_true'] at wakes
  rw [rests other wakes.1] at wakes
  cases wakes.2

theorem Rouses.woken {action : MonitorAction}
    (rouses : Rouses monitor (monitor.perform action) workerId) :
    (monitor.woken action).length =
      if monitor.asleep workerId = true then 1 else 0 := by
  have wakes : ∀ other, (monitor.asleep other &&
      !(monitor.perform action).asleep other) =
        (monitor.asleep workerId && other == workerId) := by
    intro other
    rw [rouses other]
    by_cases same : other = workerId
    · simp [same]
    · simp [same]
  rw [WorkerMonitor.woken, ← List.countP_eq_length_filter]
  simp only [wakes]
  split
  · rename_i asleep
    simp only [asleep, Bool.true_and]
    show List.count workerId (List.range monitor.workers.length) = 1
    rw [List.count_range, if_pos (lt_of_asleep asleep)]
  · rename_i awake
    simp [awake]

private theorem wakeEvents_markAwake (monitor : WorkerMonitor) (workerId : Nat) :
    (monitor.markAwake workerId).wakeEvents =
      monitor.wakeEvents +
        if monitor.asleep workerId = true then 1 else 0 := by
  unfold markAwake asleep
  cases monitor.workers[workerId]? with
  | none => exact (UInt64.add_zero _).symm
  | some slot =>
      cases flag : slot.sleeping with
      | false => simp [flag]
      | true => simp [flag]

private theorem wakeEvents_onBusyTurn (monitor : WorkerMonitor) (workerId : Nat) :
    (monitor.onBusyTurn workerId).wakeEvents =
      monitor.wakeEvents +
        if monitor.asleep workerId = true then 1 else 0 := by
  unfold onBusyTurn
  cases found : monitor.workers[workerId]? with
  | none => simp [asleep, found]
  | some slot => exact monitor.wakeEvents_markAwake workerId

private theorem wakeEvents_markSleeping (monitor : WorkerMonitor) (workerId : Nat) :
    (monitor.markSleeping workerId).wakeEvents = monitor.wakeEvents := by
  unfold markSleeping
  cases monitor.workers[workerId]? with
  | none => rfl
  | some slot =>
      simp only
      split
      · rfl
      · rfl

private theorem wakeEvents_trigger (monitor : WorkerMonitor) (workerId : Nat)
    (trace : DispatchTrace) :
    (monitor.trigger workerId trace).wakeEvents = monitor.wakeEvents := by
  unfold trigger
  cases monitor.workers[workerId]? with
  | none => rfl
  | some slot => rfl

private theorem wakeEvents_clear (monitor : WorkerMonitor) (workerId : Nat) :
    (monitor.clear workerId).wakeEvents = monitor.wakeEvents := by
  unfold clear
  cases monitor.workers[workerId]? with
  | none => rfl
  | some slot => rfl

private theorem wakeEvents_checkStalled (monitor : WorkerMonitor) (workerId : Nat) :
    (monitor.checkStalled workerId).2.wakeEvents = monitor.wakeEvents := by
  unfold checkStalled
  cases monitor.workers[workerId]? with
  | none => rfl
  | some slot =>
      simp only
      split
      · rfl
      · split
        · rfl
        · rfl

/-- The second of the two paths finds the worker awake. -/
theorem wakeEvents_onDispatchEnd (monitor : WorkerMonitor) (workerId : Nat) :
    (monitor.onDispatchEnd workerId).wakeEvents =
      monitor.wakeEvents +
        if monitor.asleep workerId = true then 1 else 0 := by
  have edits := (monitor.markAwake_edits workerId).trans
    ((monitor.markAwake workerId).clear_edits workerId)
  have roused : Rouses monitor ((monitor.markAwake workerId).clear workerId)
      workerId := .of_edits edits fun _ => rfl
  have awake := roused workerId
  rw [if_pos rfl] at awake
  rw [onDispatchEnd, wakeEvents_onBusyTurn, awake, wakeEvents_clear,
    wakeEvents_markAwake]
  exact UInt64.add_zero _

private theorem counted_of_rouses {action : MonitorAction}
    (rouses : Rouses monitor (monitor.perform action) workerId)
    (counted : (monitor.perform action).wakeEvents = monitor.wakeEvents +
      if monitor.asleep workerId = true then 1 else 0) :
    (monitor.perform action).wakeEvents =
      monitor.wakeEvents + UInt64.ofNat (monitor.woken action).length := by
  rw [counted, rouses.woken]
  split
  · rfl
  · rfl

private theorem counted_of_rests {action : MonitorAction}
    (rests : Rests monitor (monitor.perform action))
    (uncounted : (monitor.perform action).wakeEvents = monitor.wakeEvents) :
    (monitor.perform action).wakeEvents =
      monitor.wakeEvents + UInt64.ofNat (monitor.woken action).length := by
  rw [uncounted, rests.woken]
  exact (UInt64.add_zero _).symm

/-- The step lemma of the count. -/
theorem wakeEvents_perform (monitor : WorkerMonitor) (action : MonitorAction) :
    (monitor.perform action).wakeEvents =
      monitor.wakeEvents + UInt64.ofNat (monitor.woken action).length := by
  cases action with
  | markSleeping workerId =>
      apply counted_of_rests
      · exact .of_edits (monitor.markSleeping_edits workerId) fun _ _ => rfl
      · exact monitor.wakeEvents_markSleeping workerId
  | markAwake workerId =>
      apply counted_of_rouses
      · exact .of_edits (monitor.markAwake_edits workerId) fun _ => rfl
      · exact monitor.wakeEvents_markAwake workerId
  | onBusyTurn workerId =>
      apply counted_of_rouses
      · exact .of_edits (monitor.onBusyTurn_edits workerId) fun _ => rfl
      · exact monitor.wakeEvents_onBusyTurn workerId
  | onDispatchBegin workerId trace =>
      apply counted_of_rests
      · exact .of_edits (monitor.trigger_edits workerId trace) fun _ flag => flag
      · exact monitor.wakeEvents_trigger workerId trace
  | onDispatchEnd workerId =>
      apply counted_of_rouses
      · exact .of_edits (monitor.onDispatchEnd_edits workerId) fun _ => rfl
      · exact monitor.wakeEvents_onDispatchEnd workerId
  | onIdle workerId =>
      apply counted_of_rests
      · exact .of_edits (monitor.markSleeping_edits workerId) fun _ _ => rfl
      · exact monitor.wakeEvents_markSleeping workerId
  | trigger workerId trace =>
      apply counted_of_rests
      · exact .of_edits (monitor.trigger_edits workerId trace) fun _ flag => flag
      · exact monitor.wakeEvents_trigger workerId trace
  | clear workerId =>
      apply counted_of_rests
      · exact .of_edits (monitor.clear_edits workerId) fun _ flag => flag
      · exact monitor.wakeEvents_clear workerId
  | checkStalled workerId =>
      apply counted_of_rests
      · exact .of_edits (monitor.checkStalled_edits workerId) fun _ flag => flag
      · exact monitor.wakeEvents_checkStalled workerId
  | _ => exact counted_of_rests (fun _ flag => flag) rfl

private theorem wakeEvents_performAll (monitor : WorkerMonitor)
    (actions : List MonitorAction) :
    (monitor.performAll actions).wakeEvents =
      monitor.wakeEvents + UInt64.ofNat (monitor.wakeUps actions).length := by
  induction actions generalizing monitor with
  | nil => exact (UInt64.add_zero _).symm
  | cons action actions induction =>
      show ((monitor.perform action).performAll actions).wakeEvents = _
      rw [induction, wakeEvents_perform, wakeUps, List.length_append,
        UInt64.ofNat_add, UInt64.add_assoc]

private theorem length_performAll (monitor : WorkerMonitor)
    (actions : List MonitorAction) :
    (monitor.performAll actions).workers.length = monitor.workers.length :=
  length_eq_of_slots (monitor.performAll_slot_isSome actions)

/-- What the counters of a monitor say about its flags, after a number of
sleeping-to-awake transitions. -/
structure SleepExact (monitor : WorkerMonitor) (transitions : Nat) : Prop where
  sleeping : monitor.sleepingWorkers.toNat = monitor.sleepers
  decrement : ∀ workerId, monitor.asleep workerId = true →
    monitor.sleepingWorkers ≠ 0
  wakes : monitor.wakeEvents.toNat = transitions % 2 ^ 64
  wake_iff : ∀ busyWorkers : UInt64,
    monitor.shouldWake busyWorkers = true ↔
      monitor.workers.countP (fun slot => !slot.sleeping) ≤ busyWorkers.toNat
  clamped : ∀ busyWorkers : UInt64,
    (if UInt64.ofNat monitor.workers.length < busyWorkers then
      UInt64.ofNat monitor.workers.length else busyWorkers) ≤
        UInt64.ofNat monitor.workers.length

/-- For a monitor of any size and every sequence of its operations, whatever
workers they name. -/
theorem sleep_exact (workerCount : UInt64) (actions : List MonitorAction) :
    ((new workerCount.toNat).performAll actions).SleepExact
      ((new workerCount.toNat).wakeUps actions).length := by
  have accounted := (Accounted.new workerCount.toNat).performAll actions
  have length := (new workerCount.toNat).length_performAll actions
  have initially : (new workerCount.toNat).workers.length =
      workerCount.toNat := List.length_replicate
  have small : ((new workerCount.toNat).performAll actions).workers.length <
      2 ^ 64 := by
    rw [length, initially]
    exact workerCount.toNat_lt
  have sleeping := accounted.toNat small
  constructor
  · exact sleeping
  · intro workerId asleep zero
    have some := sleepers_pos asleep
    rw [← sleeping, zero] at some
    exact Nat.lt_irrefl _ some
  · rw [wakeEvents_performAll]
    show (0 + UInt64.ofNat _).toNat = _
    rw [UInt64.zero_add]
    exact UInt64.toNat_ofNat'
  · intro busyWorkers
    have counted := @List.length_eq_countP_add_countP _ WorkerSlot.sleeping
      ((new workerCount.toNat).performAll actions).workers
    rw [accounted.shouldWake_iff small, sleepers]
    simp only [Bool.not_eq_true, Bool.decide_eq_false] at counted
    omega
  · intro busyWorkers
    split
    · exact UInt64.le_refl _
    · rename_i fewer
      exact UInt64.not_lt.mp fewer

/-- One worker, sleeping and waking up again and again. -/
def naps (count : Nat) : List MonitorAction :=
  (List.replicate count [.markSleeping 0, .markAwake 0]).flatten

private theorem wakeUps_naps (count : Nat) {monitor : WorkerMonitor}
    (awake : monitor.workers = [{}]) :
    (monitor.wakeUps (naps count)).length = count := by
  induction count generalizing monitor with
  | zero => rfl
  | succ count induction =>
      have again : ((monitor.perform (.markSleeping 0)).perform
          (.markAwake 0)).workers = [{}] := by
        simp [perform, markSleeping, markAwake, setSlot, awake]
      have fell : monitor.woken (.markSleeping 0) = [] := by
        simp [woken, asleep, awake]
      have woke : (monitor.perform (.markSleeping 0)).woken (.markAwake 0) =
          [0] := by
        simp [woken, asleep, perform, markSleeping, markAwake, setSlot, awake]
      have unfolded : naps (count + 1) =
          .markSleeping 0 :: .markAwake 0 :: naps count := by
        simp [naps, List.replicate_succ]
      rw [unfolded, wakeUps, wakeUps, fell, woke]
      simp only [List.nil_append, List.length_append, List.length_singleton,
        induction again]
      omega

/-- The count has come around. -/
theorem naps_uncounted :
    ((new 1).performAll (naps (2 ^ 64))).wakeEvents = 0 ∧
      ((new 1).wakeUps (naps (2 ^ 64))).length = 2 ^ 64 := by
  have transitions := @wakeUps_naps (2 ^ 64) (new 1) rfl
  refine ⟨?_, transitions⟩
  rw [wakeEvents_performAll, transitions]
  rfl

end WorkerMonitor

end Crynet
