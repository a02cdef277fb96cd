import Crynet.Actor.Message
import Mathlib.Data.List.Basic

/-!
# The worker monitor

One slot for each worker: whether it sleeps, the message it executes, and the
two counters by which a stall is recognized.  Operations on workers that the
monitor does not have do nothing.

An alert sink is a function of the user.  It is not modelled, except for
whether one is set; what it and the logger are given is recorded.  It is taken
not to call the monitor that calls it.
-/

namespace Crynet

structure DispatchTrace where
  messageType : MessageType := .invalid
  sourceHandle : ServiceHandle := 0
  targetHandle : ServiceHandle := 0
  sessionId : SessionId := 0
  deriving DecidableEq, Repr

structure WorkerRoute where
  messageType : MessageType := .invalid
  sourceHandle : ServiceHandle := 0
  targetHandle : ServiceHandle := 0
  sessionId : SessionId := 0
  deriving DecidableEq, Repr

structure WorkerMonitorAlert where
  workerId : Nat
  route : WorkerRoute
  message : String
  deriving DecidableEq, Repr

/-- The report of `WorkerMonitor::snapshot`. -/
structure WorkerMonitorSnapshot where
  workerCount : Nat
  sleepingWorkers : UInt64
  wakeEvents : UInt64
  busyTurns : UInt64
  stallEvents : UInt64
  quitRequested : Bool

structure WorkerSlot where
  sleeping : Bool := false
  route : WorkerRoute := {}
  version : UInt64 := 0
  checkedVersion : UInt64 := 0
  deriving DecidableEq, Repr

/-- The last two fields are what the alert sink and the default logger have
been given. -/
structure WorkerMonitor where
  workers : List WorkerSlot
  sleepingWorkers : UInt64 := 0
  wakeEvents : UInt64 := 0
  busyTurns : UInt64 := 0
  stallEvents : UInt64 := 0
  alertSink : Bool := false
  loggerAlertEnabled : Bool := true
  quitRequested : Bool := false
  alerts : List WorkerMonitorAlert := []
  logged : List String := []

def DispatchTrace.route (trace : DispatchTrace) : WorkerRoute :=
  { messageType := trace.messageType
    sourceHandle := trace.sourceHandle
    targetHandle := trace.targetHandle
    sessionId := trace.sessionId }

namespace WorkerRoute

def active (route : WorkerRoute) : Bool :=
  route.targetHandle != 0

def buildStallAlertMessage (workerId : Nat) (route : WorkerRoute) : String :=
  "worker " ++ toString workerId ++
    " may be stalled route=" ++ route.messageType.name ++
    " source=" ++ toString route.sourceHandle ++
    " target=" ++ toString route.targetHandle ++
    " session=" ++ toString route.sessionId

end WorkerRoute

namespace WorkerSlot

def trigger (slot : WorkerSlot) (trace : DispatchTrace) : WorkerSlot :=
  { slot with
    route := trace.route
    version := slot.version + 1 }

def clear (slot : WorkerSlot) : WorkerSlot :=
  { slot with
    route := {}
    version := slot.version + 1
    checkedVersion := slot.version + 1 }

def check (slot : WorkerSlot) : WorkerSlot :=
  { slot with checkedVersion := slot.version }

/-- The route of a worker that has made no progress since the last check. -/
def stalled (slot : WorkerSlot) : Option WorkerRoute :=
  if slot.route.active = true ∧ slot.version = slot.checkedVersion then
    some slot.route
  else
    none

private theorem check_of_seen (slot : WorkerSlot)
    (same : slot.version = slot.checkedVersion) : slot.check = slot := by
  cases slot
  simp only [check] at same ⊢
  rw [same]

end WorkerSlot

namespace WorkerMonitor

def new (workerCount : Nat) : WorkerMonitor :=
  { workers := List.replicate workerCount {} }

def setSlot (monitor : WorkerMonitor) (workerId : Nat) (slot : WorkerSlot) :
    WorkerMonitor :=
  { monitor with workers := monitor.workers.set workerId slot }

def markSleeping (monitor : WorkerMonitor) (workerId : Nat) : WorkerMonitor :=
  match monitor.workers[workerId]? with
  | none => monitor
  | some slot =>
      if slot.sleeping = true then
        monitor
      else
        { monitor.setSlot workerId { slot with sleeping := true } with
          sleepingWorkers := monitor.sleepingWorkers + 1 }

def markAwake (monitor : WorkerMonitor) (workerId : Nat) : WorkerMonitor :=
  match monitor.workers[workerId]? with
  | none => monitor
  | some slot =>
      if slot.sleeping = false then
        monitor
      else
        { monitor.setSlot workerId { slot with sleeping := false } with
          sleepingWorkers := monitor.sleepingWorkers - 1
          wakeEvents := monitor.wakeEvents + 1 }

def onBusyTurn (monitor : WorkerMonitor) (workerId : Nat) : WorkerMonitor :=
  match monitor.workers[workerId]? with
  | none => monitor
  | some _ =>
      { monitor.markAwake workerId with
        busyTurns := (monitor.markAwake workerId).busyTurns + 1 }

def requestQuit (monitor : WorkerMonitor) : WorkerMonitor :=
  { monitor with quitRequested := true }

def shouldWake (monitor : WorkerMonitor) (busyWorkers : UInt64) : Bool :=
  let workerCount := UInt64.ofNat monitor.workers.length
  let clampedBusyWorkers :=
    if workerCount < busyWorkers then workerCount else busyWorkers
  decide (workerCount - clampedBusyWorkers ≤ monitor.sleepingWorkers)

def snapshot (monitor : WorkerMonitor) : WorkerMonitorSnapshot :=
  { workerCount := monitor.workers.length
    sleepingWorkers := monitor.sleepingWorkers
    wakeEvents := monitor.wakeEvents
    busyTurns := monitor.busyTurns
    stallEvents := monitor.stallEvents
    quitRequested := monitor.quitRequested }

/-- `WorkerMonitor::stop_requested`. -/
def stopRequested (monitor : WorkerMonitor) (_ : Nat) : Bool :=
  monitor.quitRequested

/-- The argument says whether the sink can be called. -/
def setAlertSink (monitor : WorkerMonitor) (callable : Bool) :
    WorkerMonitor :=
  { monitor with alertSink := callable }

def resetAlertSink (monitor : WorkerMonitor) : WorkerMonitor :=
  { monitor with alertSink := false }

def setLoggerAlertEnabled (monitor : WorkerMonitor) (enabled : Bool) :
    WorkerMonitor :=
  { monitor with loggerAlertEnabled := enabled }

def trigger (monitor : WorkerMonitor) (workerId : Nat)
    (trace : DispatchTrace) : WorkerMonitor :=
  match monitor.workers[workerId]? with
  | none => monitor
  | some slot => monitor.setSlot workerId (slot.trigger trace)

def clear (monitor : WorkerMonitor) (workerId : Nat) : WorkerMonitor :=
  match monitor.workers[workerId]? with
  | none => monitor
  | some slot => monitor.setSlot workerId slot.clear

def onDispatchBegin (monitor : WorkerMonitor) (workerId : Nat)
    (trace : DispatchTrace) : WorkerMonitor :=
  monitor.trigger workerId trace

def onDispatchEnd (monitor : WorkerMonitor) (workerId : Nat) :
    WorkerMonitor :=
  ((monitor.markAwake workerId).clear workerId).onBusyTurn workerId

def onIdle (monitor : WorkerMonitor) (workerId : Nat) : WorkerMonitor :=
  monitor.markSleeping workerId

def activeRoute (monitor : WorkerMonitor) (workerId : Nat) :
    Option WorkerRoute :=
  match monitor.workers[workerId]? with
  | none => none
  | some slot => if slot.route.active = true then some slot.route else none

def emitStallAlert (monitor : WorkerMonitor) (workerId : Nat)
    (route : WorkerRoute) : WorkerMonitor :=
  let alert : WorkerMonitorAlert :=
    { workerId := workerId
      route := route
      message := route.buildStallAlertMessage workerId }
  { monitor with
    logged :=
      if monitor.loggerAlertEnabled = true then
        monitor.logged ++ [alert.message]
      else
        monitor.logged
    alerts :=
      if monitor.alertSink = true then monitor.alerts ++ [alert]
      else monitor.alerts }

def checkStalled (monitor : WorkerMonitor) (workerId : Nat) :
    Option WorkerRoute × WorkerMonitor :=
  match monitor.workers[workerId]? with
  | none => (none, monitor)
  | some slot =>
      if slot.route.active = false then
        (none, monitor.setSlot workerId slot.check)
      else if slot.version = slot.checkedVersion then
        (some slot.route,
          { monitor with
            stallEvents := monitor.stallEvents + 1 }.emitStallAlert workerId
              slot.route)
      else
        (none, monitor.setSlot workerId slot.check)

end WorkerMonitor

/-- The operations that change a monitor. -/
inductive MonitorAction where
  | markSleeping (workerId : Nat)
  | markAwake (workerId : Nat)
  | onBusyTurn (workerId : Nat)
  | requestQuit
  | onDispatchBegin (workerId : Nat) (trace : DispatchTrace)
  | onDispatchEnd (workerId : Nat)
  | onIdle (workerId : Nat)
  | setAlertSink (callable : Bool)
  | resetAlertSink
  | setLoggerAlertEnabled (enabled : Bool)
  | trigger (workerId : Nat) (trace : DispatchTrace)
  | clear (workerId : Nat)
  | checkStalled (workerId : Nat)
  deriving DecidableEq, Repr

namespace MonitorAction

/-- The worker an operation is about. -/
def workerId? : MonitorAction → Option Nat
  | .markSleeping workerId => some workerId
  | .markAwake workerId => some workerId
  | .onBusyTurn workerId => some workerId
  | .onDispatchBegin workerId _ => some workerId
  | .onDispatchEnd workerId => some workerId
  | .onIdle workerId => some workerId
  | .trigger workerId _ => some workerId
  | .clear workerId => some workerId
  | .checkStalled workerId => some workerId
  | _ => none

end MonitorAction

namespace WorkerMonitor

def perform (monitor : WorkerMonitor) : MonitorAction → WorkerMonitor
  | .markSleeping workerId => monitor.markSleeping workerId
  | .markAwake workerId => monitor.markAwake workerId
  | .onBusyTurn workerId => monitor.onBusyTurn workerId
  | .requestQuit => monitor.requestQuit
  | .onDispatchBegin workerId trace => monitor.onDispatchBegin workerId trace
  | .onDispatchEnd workerId => monitor.onDispatchEnd workerId
  | .onIdle workerId => monitor.onIdle workerId
  | .setAlertSink callable => monitor.setAlertSink callable
  | .resetAlertSink => monitor.resetAlertSink
  | .setLoggerAlertEnabled enabled => monitor.setLoggerAlertEnabled enabled
  | .trigger workerId trace => monitor.trigger workerId trace
  | .clear workerId => monitor.clear workerId
  | .checkStalled workerId => (monitor.checkStalled workerId).2

def performAll (monitor : WorkerMonitor) (actions : List MonitorAction) :
    WorkerMonitor :=
  actions.foldl perform monitor

theorem performAll_append (monitor : WorkerMonitor)
    (first second : List MonitorAction) :
    monitor.performAll (first ++ second) =
      (monitor.performAll first).performAll second :=
  List.foldl_append

theorem performAll_snoc (monitor : WorkerMonitor)
    (actions : List MonitorAction) (action : MonitorAction) :
    monitor.performAll (actions ++ [action]) =
      (monitor.performAll actions).perform action := by
  rw [performAll_append]
  rfl

/-- Monitors with slots in the same places have as many workers. -/
theorem length_eq_of_slots {monitor next : WorkerMonitor}
    (agree : ∀ workerId : Nat, next.workers[workerId]?.isSome =
      monitor.workers[workerId]?.isSome) :
    next.workers.length = monitor.workers.length := by
  have beyond : ∀ workerId : Nat, next.workers.length ≤ workerId ↔
      monitor.workers.length ≤ workerId := by
    intro workerId
    rw [← List.getElem?_eq_none_iff, ← List.getElem?_eq_none_iff,
      ← Option.not_isSome_iff_eq_none, ← Option.not_isSome_iff_eq_none,
      agree workerId]
  apply Nat.le_antisymm
  · exact (beyond _).mpr (Nat.le_refl _)
  · exact (beyond _).mp (Nat.le_refl _)

/-- The slot of one worker is edited, and no other slot. -/
def Edits (monitor next : WorkerMonitor) (workerId : Nat)
    (effect : WorkerSlot → WorkerSlot) : Prop :=
  ∀ other, next.workers[other]? =
    if other = workerId then monitor.workers[other]?.map effect
    else monitor.workers[other]?

namespace Edits

variable {monitor next final : WorkerMonitor} {workerId : Nat}
variable {effect further : WorkerSlot → WorkerSlot} {slot : WorkerSlot}

private theorem of_set (found : monitor.workers[workerId]? = some slot)
    (written : next.workers = monitor.workers.set workerId (effect slot)) :
    Edits monitor next workerId effect := by
  obtain ⟨inside, _⟩ := List.getElem?_eq_some_iff.mp found
  intro other
  rw [written, List.getElem?_set]
  by_cases here : other = workerId
  · subst here
    rw [if_pos rfl, if_pos inside, if_pos rfl, found]
    rfl
  · rw [if_neg (Ne.symm here), if_neg here]

private theorem of_same (unaffected : ∀ slot, monitor.workers[workerId]? = some slot →
      effect slot = slot)
    (same : next.workers = monitor.workers) :
    Edits monitor next workerId effect := by
  intro other
  rw [same]
  split
  · rename_i here
    subst here
    cases found : monitor.workers[other]? with
    | none => rfl
    | some slot => simp [unaffected slot found]
  · rfl

private theorem of_absent (absent : monitor.workers[workerId]? = none)
    (same : next.workers = monitor.workers) :
    Edits monitor next workerId effect := by
  apply of_same _ same
  intro slot found
  rw [absent] at found
  cases found

theorem trans (first : Edits monitor next workerId effect)
    (second : Edits next final workerId further) :
    Edits monitor final workerId (further ∘ effect) := by
  intro other
  rw [second other, first other]
  split
  · rw [Option.map_map]
  · rfl

theorem length (edits : Edits monitor next workerId effect) :
    next.workers.length = monitor.workers.length := by
  apply length_eq_of_slots
  intro other
  rw [edits other]
  split
  · exact Option.isSome_map
  · rfl

/-- What holds of every slot, once it is known to survive in the edited one and
in the others. -/
theorem forall_slots (edits : Edits monitor next workerId effect)
    {before after : Nat → WorkerSlot → Prop}
    (initially : ∀ other slot, monitor.workers[other]? = some slot →
      before other slot)
    (here : ∀ slot, before workerId slot → after workerId (effect slot))
    (elsewhere : ∀ other slot, other ≠ workerId → before other slot →
      after other slot) :
    ∀ other slot, next.workers[other]? = some slot → after other slot := by
  intro other slot found
  rw [edits other] at found
  split at found
  · rename_i same
    subst same
    obtain ⟨old, located, rfl⟩ := Option.map_eq_some_iff.mp found
    exact here old (initially other old located)
  · rename_i different
    exact elsewhere other slot different (initially other slot found)

end Edits

variable (monitor : WorkerMonitor) (workerId : Nat)

theorem markSleeping_edits :
    Edits monitor (monitor.markSleeping workerId) workerId
      fun slot => { slot with sleeping := true } := by
  unfold markSleeping
  cases found : monitor.workers[workerId]? with
  | none => exact .of_absent found rfl
  | some slot =>
      simp only
      split
      · rename_i asleep
        apply Edits.of_same _ rfl
        intro other same
        rw [found] at same
        cases same
        rw [← asleep]
      · exact .of_set found rfl

theorem markAwake_edits :
    Edits monitor (monitor.markAwake workerId) workerId
      fun slot => { slot with sleeping := false } := by
  unfold markAwake
  cases found : monitor.workers[workerId]? with
  | none => exact .of_absent found rfl
  | some slot =>
      simp only
      split
      · rename_i awake
        apply Edits.of_same _ rfl
        intro other same
        rw [found] at same
        cases same
        rw [← awake]
      · exact .of_set found rfl

theorem onBusyTurn_edits :
    Edits monitor (monitor.onBusyTurn workerId) workerId
      fun slot => { slot with sleeping := false } := by
  unfold onBusyTurn
  cases found : monitor.workers[workerId]? with
  | none => exact .of_absent found rfl
  | some slot => exact monitor.markAwake_edits workerId

theorem trigger_edits (trace : DispatchTrace) :
    Edits monitor (monitor.trigger workerId trace) workerId
      fun slot => slot.trigger trace := by
  unfold trigger
  cases found : monitor.workers[workerId]? with
  | none => exact .of_absent found rfl
  | some slot => exact .of_set found rfl

theorem clear_edits :
    Edits monitor (monitor.clear workerId) workerId WorkerSlot.clear := by
  unfold clear
  cases found : monitor.workers[workerId]? with
  | none => exact .of_absent found rfl
  | some slot => exact .of_set found rfl

theorem onDispatchEnd_edits :
    Edits monitor (monitor.onDispatchEnd workerId) workerId
      fun slot => { slot.clear with sleeping := false } := by
  unfold onDispatchEnd
  exact ((monitor.markAwake_edits workerId).trans (clear_edits _ workerId)).trans
    (onBusyTurn_edits _ workerId)

theorem checkStalled_edits :
    Edits monitor (monitor.checkStalled workerId).2 workerId
      WorkerSlot.check := by
  unfold checkStalled
  cases found : monitor.workers[workerId]? with
  | none => exact .of_absent found rfl
  | some slot =>
      simp only
      split
      · exact .of_set found rfl
      · split
        · rename_i same
          intro other
          show monitor.workers[other]? = _
          split
          · rename_i here
            rw [here, found, Option.map_some, slot.check_of_seen same]
          · rfl
        · exact .of_set found rfl

/-- The result of a check is what the slot of the worker says. -/
theorem checkStalled_verdict :
    (monitor.checkStalled workerId).1 =
      monitor.workers[workerId]?.bind WorkerSlot.stalled := by
  unfold checkStalled
  cases monitor.workers[workerId]? with
  | none => rfl
  | some slot =>
      simp only [Option.bind_some, WorkerSlot.stalled]
      split
      · rename_i inactive
        simp [inactive]
      · rename_i active
        rw [Bool.not_eq_false] at active
        split
        · rename_i same
          simp [active, same]
        · rename_i different
          simp [different]

/-- The effect of an operation on the slot of its worker. -/
def slotEffect (slot : WorkerSlot) : MonitorAction → WorkerSlot
  | .markSleeping _ => { slot with sleeping := true }
  | .markAwake _ => { slot with sleeping := false }
  | .onBusyTurn _ => { slot with sleeping := false }
  | .onDispatchBegin _ trace => slot.trigger trace
  | .onDispatchEnd _ => { slot.clear with sleeping := false }
  | .onIdle _ => { slot with sleeping := true }
  | .trigger _ trace => slot.trigger trace
  | .clear _ => slot.clear
  | .checkStalled _ => slot.check
  | _ => slot

/-- An operation edits the slot of its worker and leaves the others alone. -/
theorem perform_slot (action : MonitorAction) (other : Nat) :
    (monitor.perform action).workers[other]? =
      if action.workerId? = some other then
        monitor.workers[other]?.map fun slot => slotEffect slot action
      else
        monitor.workers[other]? := by
  have about : ∀ {workerId : Nat} {next : WorkerMonitor}
      {effect : WorkerSlot → WorkerSlot},
      Edits monitor next workerId effect →
        next.workers[other]? =
          if some workerId = some other then
            monitor.workers[other]?.map effect
          else
            monitor.workers[other]? := by
    intro workerId next effect edits
    rw [edits other]
    simp only [Option.some.injEq, eq_comm]
  cases action with
  | markSleeping workerId => exact about (monitor.markSleeping_edits workerId)
  | markAwake workerId => exact about (monitor.markAwake_edits workerId)
  | onBusyTurn workerId => exact about (monitor.onBusyTurn_edits workerId)
  | onDispatchBegin workerId trace =>
      exact about (monitor.trigger_edits workerId trace)
  | onDispatchEnd workerId =>
      exact about (monitor.onDispatchEnd_edits workerId)
  | onIdle workerId => exact about (monitor.markSleeping_edits workerId)
  | trigger workerId trace =>
      exact about (monitor.trigger_edits workerId trace)
  | clear workerId => exact about (monitor.clear_edits workerId)
  | checkStalled workerId => exact about (monitor.checkStalled_edits workerId)
  | _ => rfl

/-- The worker exists when its slot does. -/
theorem performAll_slot_isSome (actions : List MonitorAction)
    (other : Nat) :
    (monitor.performAll actions).workers[other]?.isSome =
      monitor.workers[other]?.isSome := by
  induction actions generalizing monitor with
  | nil => rfl
  | cons action actions induction =>
      show ((monitor.perform action).performAll actions).workers[other]?.isSome
        = _
      rw [induction, perform_slot]
      split
      · rw [Option.isSome_map]
      · rfl

end WorkerMonitor

end Crynet
