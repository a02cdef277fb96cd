import Crynet.Actor.Licence
import Crynet.Scheduler.WorkerPool

/-!
# One handler of a service at a time

No lock keeps two workers, or a handler and the dispatch operations it calls,
away from the same service.  It follows from what the scheduler refuses: a
handle in flight is not made ready, and only a ready handle is acquired.
-/

namespace Crynet

namespace Machine

variable {machine : Machine}
variable {now : TimePoint} {actions : List Action}

/-- The services whose handlers have been entered and have not come back, the
innermost first. -/
def handling (machine : Machine) : List ServiceHandle :=
  (machine.stack.filter fun activation =>
    activation.phase == .handling).map fun activation =>
      activation.batch.handle

private theorem handling_sublist (machine : Machine) :
    machine.handling.Sublist machine.dispatching :=
  List.Sublist.map _ List.filter_sublist

/-- Every activation has a service of its own, and the scheduler knows it. -/
theorem dispatching_exclusive
    (reached : Reaches Unrestricted now actions machine) :
    machine.dispatching.Nodup ∧
      ∀ handle ∈ machine.dispatching,
        handle ∈ machine.system.scheduler.inFlightHandles := by
  obtain ⟨_, moved⟩ := reaches_moves reached
  have tidy := Mailbox.Tidy.of_reaches moved
  refine ⟨?_, ?_⟩
  · rw [← turns_key]
    exact tidy.turnsNodup
  · intro handle member
    rw [← turns_key] at member
    obtain ⟨turn, inTurns, same⟩ := List.mem_map.mp member
    rw [← same]
    exact tidy.turnsFly turn inTurns

/-- Workers that share a scheduler never hold a service together, and no
handler is entered while an earlier call of it is still running. -/
theorem serial_execution {Worker : Type*} [DecidableEq Worker]
    {interleaving : List (WorkerAction Worker)} {pool : WorkerPool Worker}
    (shared : WorkerPool.Reaches interleaving pool)
    (reached : Reaches Unrestricted now actions machine) :
    (pool.scheduler.ready.Nodup ∧ 0 ∉ pool.scheduler.ready ∧
      (∀ handle, handle ∈ pool.scheduler.readyQueue.queuedHandles ↔
        handle ∈ pool.scheduler.ready) ∧
      (∀ handle ∈ pool.scheduler.ready,
        handle ∉ pool.scheduler.inFlightHandles) ∧
      (∀ worker, (pool.held worker).Nodup) ∧
      ∀ first second handle, handle ∈ pool.held first →
        handle ∈ pool.held second → first = second) ∧
    machine.handling.Nodup := by
  have exclusive := WorkerPool.Exclusive.of_reaches shared
  refine ⟨⟨pool.scheduler.readyQueue.nodup, pool.scheduler.readyQueue.nonzero,
    pool.scheduler.readyQueue.agree, pool.scheduler.disjoint, exclusive.nodup,
    exclusive.alone⟩, ?_⟩
  exact (dispatching_exclusive reached).1.sublist machine.handling_sublist

/-- Two workers with a service each, and a handler that dispatches another
service. -/
theorem serial_execution_nested :
    ∃ pool machine,
      WorkerPool.Reaches
        [WorkerAction.markReady false 1, .markReady true 2,
          .acquireNext false, .acquireNext true, .complete false 1] pool ∧
      Reaches Unrestricted 0
        [.registerService [97], .registerService [98],
          .send { targetHandle := 1 }, .send { targetHandle := 2 },
          .dispatchBatch 1 false, .dispatchBatch 1 false] machine ∧
      machine.handling = [2, 1] ∧
      (∀ first second handle, handle ∈ pool.held first →
        handle ∈ pool.held second → first = second) ∧
      machine.handling.Nodup := by
  have ran : ∃ machine, Transition.runSteps step (new 0)
      [.registerService [97], .registerService [98],
        .send { targetHandle := 1 }, .send { targetHandle := 2 },
        .dispatchBatch 1 false, .dispatchBatch 1 false] = .ok machine ∧
      machine.handling = [2, 1] :=
    ⟨_, rfl, rfl⟩
  obtain ⟨machine, ran, nested⟩ := ran
  have reached : Reaches Unrestricted 0
      [.registerService [97], .registerService [98],
        .send { targetHandle := 1 }, .send { targetHandle := 2 },
        .dispatchBatch 1 false, .dispatchBatch 1 false] machine :=
    (careful_of_runSteps ran rfl).weaken fun _ _ _ => trivial
  have shared : ∃ pool, WorkerPool.Reaches
      [WorkerAction.markReady false 1, .markReady true 2, .acquireNext false,
        .acquireNext true, .complete false 1] pool := by
    refine ⟨_, .snoc (.snoc (.snoc (.snoc (.snoc .nil trivial rfl) trivial rfl)
      trivial rfl) trivial rfl) ?_ rfl⟩
    exact List.mem_cons_self
  obtain ⟨pool, shared⟩ := shared
  have serial := serial_execution shared reached
  exact ⟨pool, machine, shared, reached, nested, serial.1.2.2.2.2.2, serial.2⟩

end Machine

end Crynet
