import Crynet.Monitor.StallVerdicts

/-!
# The monitor runner

A pass checks every worker once, in order; passes are made until the limit is
reached or the monitor has been asked to quit.  Both are sequences of checks,
and what they count is what the checks report.
-/

namespace Crynet

structure MonitorCheckResult where
  scannedWorkers : Nat
  detectedStalls : Nat
  deriving DecidableEq, Repr

namespace WorkerMonitor

/-- The loop of `check_once`. -/
def scan (monitor : WorkerMonitor) : List Nat → Nat × WorkerMonitor
  | [] => (0, monitor)
  | workerId :: workerIds =>
      let checked := monitor.checkStalled workerId
      let rest := checked.2.scan workerIds
      ((if checked.1.isSome then 1 else 0) + rest.1, rest.2)

def checkOnce (monitor : WorkerMonitor) :
    MonitorCheckResult × WorkerMonitor :=
  let scanned := monitor.scan (List.range monitor.snapshot.workerCount)
  ({ scannedWorkers := monitor.snapshot.workerCount
     detectedStalls := scanned.1 }, scanned.2)

def runChecks (monitor : WorkerMonitor) : Nat → Nat × WorkerMonitor
  | 0 => (0, monitor)
  | maxCycles + 1 =>
      if monitor.quitRequested = true then
        (0, monitor)
      else
        let pass := monitor.checkOnce
        let rest := pass.2.runChecks maxCycles
        (pass.1.detectedStalls + rest.1, rest.2)

theorem scan_checks (monitor : WorkerMonitor) (workerIds : List Nat) :
    monitor.scan workerIds =
      ((monitor.verdicts (workerIds.map .checkStalled)).length,
        monitor.performAll (workerIds.map .checkStalled)) := by
  induction workerIds generalizing monitor with
  | nil => rfl
  | cons workerId workerIds induction =>
      rw [scan, induction, List.map_cons, verdicts, List.length_append]
      simp only [reported]
      cases (monitor.checkStalled workerId).1 with
      | none => rfl
      | some route => rfl

theorem runChecks_checks (monitor : WorkerMonitor) (maxCycles : Nat) :
    ∃ workerIds : List Nat, monitor.runChecks maxCycles =
      ((monitor.verdicts (workerIds.map .checkStalled)).length,
        monitor.performAll (workerIds.map .checkStalled)) := by
  induction maxCycles generalizing monitor with
  | zero => exact ⟨[], rfl⟩
  | succ maxCycles induction =>
      rw [runChecks]
      split
      · exact ⟨[], rfl⟩
      · obtain ⟨later, rest⟩ := induction monitor.checkOnce.2
        refine ⟨List.range monitor.snapshot.workerCount ++ later, ?_⟩
        simp only [checkOnce, scan_checks] at rest ⊢
        rw [rest, List.map_append, verdicts_append, performAll_append,
          List.length_append]

end WorkerMonitor

end Crynet
