import Crynet.Actor.Callbacks
import Crynet.Scheduler.DriveLoops

/-!
# Drive loops whose handlers only return

A drive loop, seen from the program that calls it, goes on until its handlers
have all returned.  When handlers do nothing else, the system's own loop, the
loop of a worker and that of a runner come to the same end.
-/

namespace Crynet

namespace LoopCall

/-- Let handlers act, one after the other, until the loop has returned. -/
def serve (call : LoopCall) (acts : Machine → List Action) :
    Nat → Drive → Except Fault Drive
  | 0, drive => .ok drive
  | rounds + 1, drive =>
      if drive.status.outcome = .running then
        match Transition.runSteps call.step drive
            (acts drive.worker.machine) with
        | .error fault => .error fault
        | .ok next => serve call acts rounds next
      else
        .ok drive

end LoopCall

/-- A call of `run_until_idle`, from its beginning to its end. -/
def Worker.performUntilIdle (worker : Worker) (kind : LoopKind)
    (clock : Nat → TimePoint) (maxCycles maxMessagesPerService : Nat)
    (acts : Machine → List Action) (rounds : Nat) : Except Fault Drive :=
  match worker.runUntilIdle kind clock maxCycles maxMessagesPerService with
  | .error fault => .error fault
  | .ok drive =>
      (worker.loopCall kind clock maxMessagesPerService).serve acts rounds drive

namespace Machine

/-- Callbacks that return and do nothing else. -/
def Returning (acts : Machine → List Action) : Prop :=
  ∀ machine : Machine, machine.stack ≠ [] → acts machine = [.returns]

variable {acts : Machine → List Action} {machine next final : Machine}

private theorem stack_of_returns (stepped : machine.step .returns = .ok next) :
    machine.stack ≠ [] := by
  intro idle
  rw [step, resume, idle] at stepped
  cases stepped

/-- Serving a call is a number of returns. -/
theorem returns_of_serve (returning : Returning acts) {rounds : Nat}
    (served : machine.serve acts rounds = .ok final) :
    ∃ count ≤ rounds, Transition.runSteps (loopStep 0) machine
      (List.replicate count .returns) = .ok final := by
  induction rounds generalizing machine with
  | zero =>
      cases served
      exact ⟨0, Nat.le_refl 0, rfl⟩
  | succ rounds induction =>
      rw [serve] at served
      split at served
      · cases served
        exact ⟨0, Nat.zero_le _, rfl⟩
      · rename_i busy
        rw [returning machine busy] at served
        simp only [Transition.runSteps] at served
        cases stepped : machine.step .returns with
        | error fault =>
            rw [stepped] at served
            cases served
        | ok next =>
            rw [stepped] at served
            obtain ⟨count, few, ran⟩ := induction served
            refine ⟨count + 1, Nat.succ_le_succ few, ?_⟩
            have above : 0 < machine.stack.length :=
              List.length_pos_iff.mpr busy
            have running : machine.loopStep 0 .returns = .ok next := by
              rw [loopStep, loopOutcome, if_pos above, if_pos rfl, stepped]
            rw [List.replicate_succ, Transition.runSteps, running]
            exact ran

end Machine

private theorem LoopStatus.eq_of_returned {status : LoopStatus} {totalDispatched : Nat}
    (returned : status.outcome = .returned totalDispatched) :
    status = .returned totalDispatched := by
  cases status with
  | running remaining total injectedTimerMessages => cases returned
  | returned total =>
      cases returned
      rfl
  | left => cases returned

namespace LoopCall

variable {call : LoopCall} {acts : Machine → List Action}
variable {drive final : Drive}

/-- Only a loop that runs can be returned to. -/
theorem running_of_returns {next : Drive}
    (stepped : call.step drive .returns = .ok next) :
    drive.status.outcome = .running ∧ drive.worker.machine.stack ≠ [] := by
  unfold step at stepped
  cases status : drive.status with
  | running remaining totalDispatched injectedTimerMessages =>
      refine ⟨rfl, ?_⟩
      rw [status] at stepped
      simp only at stepped
      cases returned : drive.worker.machine.step .returns with
      | error fault =>
          rw [returned] at stepped
          cases stepped
      | ok machine => exact Machine.stack_of_returns returned
  | returned totalDispatched =>
      rw [status] at stepped
      cases stepped
  | left =>
      rw [status] at stepped
      cases stepped

/-- A number of returns that ends the loop is what it is served with. -/
theorem serve_of_returns (returning : Machine.Returning acts) {count : Nat}
    (ran : Transition.runSteps call.step drive
      (List.replicate count .returns) = .ok final)
    (ended : final.status.outcome ≠ .running) {rounds : Nat}
    (enough : count ≤ rounds) :
    call.serve acts rounds drive = .ok final := by
  induction count generalizing drive rounds with
  | zero =>
      cases ran
      cases rounds with
      | zero => rfl
      | succ rounds => rw [serve, if_neg ended]
  | succ count induction =>
      obtain ⟨left, rfl⟩ : ∃ left, rounds = left + 1 :=
        ⟨rounds - 1, by omega⟩
      rw [List.replicate_succ, Transition.runSteps] at ran
      cases stepped : call.step drive .returns with
      | error fault =>
          rw [stepped] at ran
          cases ran
      | ok next =>
          rw [stepped] at ran
          obtain ⟨running, busy⟩ := running_of_returns stepped
          have served := induction ran (Nat.le_of_succ_le_succ enough)
          rw [serve, if_pos running, returning _ busy]
          simp only [Transition.runSteps, stepped, served]

end LoopCall

namespace Worker

/-- What a worker is driven to when its handlers only return. -/
theorem performUntilIdle_agrees {worker : Worker} {kind : LoopKind}
    (allowed : worker.Open kind)
    (vacant : worker.machine.system.timerQueue.Vacant)
    (alone : worker.machine.stack = []) (clock : Nat → TimePoint)
    {maxCycles maxMessagesPerService rounds : Nat}
    {acts : Machine → List Action} (returning : Machine.Returning acts)
    {final : Machine} {executed totalDispatched : Nat}
    (performed : worker.machine.perform acts rounds
      (.runUntilIdle maxCycles maxMessagesPerService) = .ok final)
    (ended : final.stack = [])
    (answer : final.answer = some (.idle maxCycles executed totalDispatched)) :
    ∃ drive,
      worker.performUntilIdle kind clock maxCycles maxMessagesPerService acts
        rounds = .ok drive ∧
      drive.status = .returned totalDispatched ∧
      drive.worker.machine.system.SameButClock final.system := by
  unfold Machine.perform at performed
  cases begun : worker.machine.step
      (.runUntilIdle maxCycles maxMessagesPerService) with
  | error fault =>
      rw [begun] at performed
      cases performed
  | ok next =>
      rw [begun] at performed
      obtain ⟨count, enough, ran⟩ :=
        Machine.returns_of_serve returning performed
      have unset : ∀ action ∈ List.replicate count Action.returns,
          action.SetsNoTimer := by
        intro action member
        rw [List.eq_of_mem_replicate member]
        trivial
      have agree := driveUntilIdle_agrees allowed vacant clock maxCycles
        maxMessagesPerService unset
      rw [alone] at agree
      have plain : worker.machine.driveUntilIdle maxCycles
          maxMessagesPerService (List.replicate count .returns) =
            .ok final := by
        rw [Machine.driveUntilIdle, begun, alone]
        exact ran
      rw [plain, driveUntilIdle] at agree
      unfold performUntilIdle
      cases started : worker.runUntilIdle kind clock maxCycles
          maxMessagesPerService with
      | error fault =>
          rw [started] at agree
          exact agree.elim
      | ok drive =>
          rw [started] at agree
          simp only at agree ⊢
          cases driven : Transition.runSteps
              (worker.loopCall kind clock maxMessagesPerService).step drive
              (List.replicate count .returns) with
          | error fault =>
              rw [driven] at agree
              exact agree.elim
          | ok last =>
              rw [driven] at agree
              obtain ⟨outcome, same⟩ := agree
              have returned : last.status.outcome =
                  .returned totalDispatched := by
                rw [outcome, Machine.loopOutcome, ended, answer]
                rfl
              have stopped : last.status.outcome ≠ .running := by
                rw [returned]
                exact LoopOutcome.noConfusion
              exact ⟨last, LoopCall.serve_of_returns returning driven stopped
                enough, LoopStatus.eq_of_returned returned, same⟩

end Worker

end Crynet
