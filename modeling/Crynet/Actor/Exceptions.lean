import Crynet.Actor.WakeUp
import Crynet.Foundation.Mailbox.Abandoned

/-!
# Callbacks that throw

`dispatch_batch` clears the in-flight mark only behind its loop.  A callback
that throws out of it leaves the handle in flight for good: `mark_ready`
refuses it, so its service is never dispatched again.
-/

namespace Crynet

namespace Machine

variable {machine : Machine}
variable {now : TimePoint} {actions : List Action}

/-- Nothing is in flight, and every running service with queued messages waits
in the ready queue. -/
def Unwedged (machine : Machine) : Prop :=
  machine.system.scheduler.inFlightHandles = ∅ ∧
    ∀ handle, machine.HasWork handle →
      handle ∈ machine.system.scheduler.ready

/-- A handle in flight without an activation that could complete it. -/
def Wedged (machine : Machine) (handle : ServiceHandle) : Prop :=
  Mailbox.Stranded machine.mailboxes handle

theorem wedged_iff {handle : ServiceHandle} :
    machine.Wedged handle ↔
      handle ∈ machine.system.scheduler.inFlightHandles ∧
        handle ∉ machine.dispatching := by
  rw [mem_dispatching]
  simp only [Wedged, Mailbox.Stranded, not_exists, not_and]
  rfl

/-- Whatever happens later, a wedged handle stays wedged. -/
theorem Wedged.step {next : Machine} {handle : ServiceHandle} {action : Action}
    (wedged : machine.Wedged handle)
    (reached : Reaches Unrestricted now actions machine)
    (stepped : machine.step action = .ok next) : next.Wedged handle := by
  obtain ⟨_, moved⟩ := reaches_moves reached
  have tidy := Mailbox.Tidy.of_reaches moved
  have follows := step_follows (reaches_consistent reached) stepped
  obtain ⟨_, execution⟩ := follows.moved
  exact Mailbox.Stranded.of_execution wedged tidy execution

/-- A callback that throws wedges the service of its activation. -/
theorem wedged_of_throws {next : Machine}
    (reached : Reaches Unrestricted now actions machine)
    (stepped : machine.step .throws = .ok next) :
    ∃ handle, next.Wedged handle := by
  obtain ⟨_, moved⟩ := reaches_moves reached
  have distinct := (Mailbox.Tidy.of_reaches moved).turnsNodup
  have flying := (Mailbox.Tidy.of_reaches moved).turnsFly
  simp only [step, unwind] at stepped
  cases activations : machine.stack with
  | nil => simp [activations] at stepped
  | cons activation stack =>
      simp only [activations, Except.ok.injEq] at stepped
      subst stepped
      have top : activation.turn ∈ machine.mailboxes.turns := by
        simp [mailboxes, ActorSystem.mailboxes, activations]
      rw [turns_key, dispatching, activations, List.map_cons,
        List.nodup_cons] at distinct
      exact ⟨activation.batch.handle, wedged_iff.mpr
        ⟨flying activation.turn top, distinct.1⟩⟩

/-- Once a callback has thrown, some handle is wedged. -/
theorem exists_wedged (reached : Reaches Unrestricted now actions machine)
    (thrown : .throws ∈ actions) : ∃ handle, machine.Wedged handle := by
  induction reached with
  | nil => cases thrown
  | @snoc actions current next action before _ stepped induction =>
      rcases List.mem_append.mp thrown with earlier | last
      · obtain ⟨handle, wedged⟩ := induction earlier
        exact ⟨handle, wedged.step before stepped⟩
      · rw [← List.mem_singleton.mp last] at stepped
        exact wedged_of_throws before stepped

theorem Licensed.stays {action : Action}
    {state : Mailbox.State ServiceHandle Message}
    {move : Mailbox.Move ServiceHandle Message}
    (licensed : Licensed machine action state move)
    (normal : action ≠ .throws) : move ≠ .unwind := by
  intro unwound
  subst unwound
  cases licensed with
  | routine ordinary => exact ordinary
  | unwinds => exact normal rfl

theorem unwedged_of_returning
    (reached : Reaches (fun _ action => action ≠ .throws) now actions machine)
    (alone : machine.stack = []) : machine.Unwedged := by
  obtain ⟨moves, moved⟩ := reaches_mailboxes
    (fun _ _ _ _ normal licensed => licensed.stays normal) reached
  have settled : machine.mailboxes.turns = [] := by
    simp [mailboxes, ActorSystem.mailboxes, alone]
  obtain ⟨landed, waiting⟩ := Mailbox.settled_grounded moved settled
  exact ⟨landed, fun handle work => waiting handle work.box⟩

/-- When no activation is running any more, the scheduler has recovered exactly
if no callback has thrown. -/
theorem unwedged_iff_no_throws
    (reached : Reaches Unrestricted now actions machine)
    (alone : machine.stack = []) :
    machine.Unwedged ↔ .throws ∉ actions := by
  constructor
  · intro unwedged thrown
    obtain ⟨handle, wedged⟩ := exists_wedged reached thrown
    have flies := (wedged_iff.mp wedged).1
    rw [unwedged.1] at flies
    cases flies
  · intro normal
    have stays : Reaches (fun _ action => action ≠ .throws) now actions
        machine := by
      apply reached.restrict
      intro action member _ same
      rw [same] at member
      exact normal member
    exact unwedged_of_returning stays alone

/-- A handler that returns. -/
theorem unwedged_iff_no_throws_returning :
    ∃ machine, Reaches Unrestricted 0
        [.registerService [97], .send { targetHandle := 1 },
          .dispatchBatch 1 false, .returns] machine ∧
      machine.stack = [] ∧
      (machine.Unwedged ↔
        .throws ∉ [Action.registerService [97], .send { targetHandle := 1 },
          .dispatchBatch 1 false, .returns]) := by
  have ran : ∃ machine, Transition.runSteps step (new 0)
      [.registerService [97], .send { targetHandle := 1 },
        .dispatchBatch 1 false, .returns] = .ok machine ∧
      machine.stack = [] :=
    ⟨_, rfl, rfl⟩
  obtain ⟨machine, ran, alone⟩ := ran
  have reached : Reaches Unrestricted 0
      [.registerService [97], .send { targetHandle := 1 },
        .dispatchBatch 1 false, .returns] machine :=
    (careful_of_runSteps ran rfl).weaken fun _ _ _ => trivial
  exact ⟨machine, reached, alone, unwedged_iff_no_throws reached alone⟩

/-- The handler throws on the first of two messages; the second one is never
dispatched, and neither is a later one. -/
theorem throw_wedges :
    ∃ machine, Reaches Unrestricted 0
        [.registerService [97], .send { targetHandle := 1 },
          .send { targetHandle := 1 }, .dispatchBatch 1 false, .throws,
          .send { targetHandle := 1 }] machine ∧
      machine.stack = [] ∧ machine.HasWork 1 ∧
      machine.system.scheduler.inFlightHandles = {1} ∧
      machine.system.scheduler.ready = [] := by
  have ran : ∃ machine, Transition.runSteps step (new 0)
      [.registerService [97], .send { targetHandle := 1 },
        .send { targetHandle := 1 }, .dispatchBatch 1 false, .throws,
        .send { targetHandle := 1 }] = .ok machine ∧
      machine.stack = [] ∧ machine.HasWork 1 ∧
      machine.system.scheduler.inFlightHandles = {1} ∧
      machine.system.scheduler.ready = [] :=
    ⟨_, rfl, rfl, ⟨_, rfl, rfl, nofun⟩, rfl, rfl⟩
  obtain ⟨machine, ran, rest⟩ := ran
  refine ⟨machine, ?_, rest⟩
  exact Transition.Execution.ofRunSteps ran fun _ _ _ => trivial

end Machine

end Crynet
