/-!
# Metrics counters

The counters of one actor system, of 64 bits each.  They are only ever added to
and reported, never read by the code they count for.
-/

namespace Crynet

structure MetricsSystem where
  registeredServices : UInt64 := 0
  enqueuedMessages : UInt64 := 0
  dispatchedMessages : UInt64 := 0
  timerMessages : UInt64 := 0
  droppedMessages : UInt64 := 0
  queueOverloadEvents : UInt64 := 0
  peakQueueDepth : UInt64 := 0
  deriving DecidableEq, Repr

namespace MetricsSystem

def onServiceRegistered (metrics : MetricsSystem) : MetricsSystem :=
  { metrics with registeredServices := metrics.registeredServices + 1 }

def onMessageEnqueued (metrics : MetricsSystem) : MetricsSystem :=
  { metrics with enqueuedMessages := metrics.enqueuedMessages + 1 }

def onMessageDispatched (metrics : MetricsSystem) : MetricsSystem :=
  { metrics with dispatchedMessages := metrics.dispatchedMessages + 1 }

def onTimerMessage (metrics : MetricsSystem) : MetricsSystem :=
  { metrics with timerMessages := metrics.timerMessages + 1 }

def onMessageDropped (metrics : MetricsSystem) : MetricsSystem :=
  { metrics with droppedMessages := metrics.droppedMessages + 1 }

def onQueueOverload (metrics : MetricsSystem) : MetricsSystem :=
  { metrics with queueOverloadEvents := metrics.queueOverloadEvents + 1 }

/-- The compare-exchange loop, run without interference. -/
def observeQueueDepth (metrics : MetricsSystem) (depth : Nat) :
    MetricsSystem :=
  if metrics.peakQueueDepth < UInt64.ofNat depth then
    { metrics with peakQueueDepth := UInt64.ofNat depth }
  else
    metrics

@[simp] theorem observeQueueDepth_dispatchedMessages
    (metrics : MetricsSystem) (depth : Nat) :
    (metrics.observeQueueDepth depth).dispatchedMessages =
      metrics.dispatchedMessages := by
  unfold observeQueueDepth
  split <;> rfl

@[simp] theorem observeQueueDepth_droppedMessages
    (metrics : MetricsSystem) (depth : Nat) :
    (metrics.observeQueueDepth depth).droppedMessages =
      metrics.droppedMessages := by
  unfold observeQueueDepth
  split <;> rfl

@[simp] theorem observeQueueDepth_queueOverloadEvents
    (metrics : MetricsSystem) (depth : Nat) :
    (metrics.observeQueueDepth depth).queueOverloadEvents =
      metrics.queueOverloadEvents := by
  unfold observeQueueDepth
  split <;> rfl

theorem observeQueueDepth_peakQueueDepth
    (metrics : MetricsSystem) {depth : Nat} (fits : depth < UInt64.size) :
    (metrics.observeQueueDepth depth).peakQueueDepth.toNat =
      max metrics.peakQueueDepth.toNat depth := by
  have value : (UInt64.ofNat depth).toNat = depth :=
    UInt64.toNat_ofNat_of_lt fits
  unfold observeQueueDepth
  split
  · rename_i higher
    rw [UInt64.lt_iff_toNat_lt, value] at higher
    rw [value]
    exact (Nat.max_eq_right (Nat.le_of_lt higher)).symm
  · rename_i lower
    rw [UInt64.lt_iff_toNat_lt, value] at lower
    exact (Nat.max_eq_left (Nat.le_of_not_lt lower)).symm

end MetricsSystem

end Crynet
