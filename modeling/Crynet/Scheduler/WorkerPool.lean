import Crynet.Foundation.Execution
import Crynet.Scheduler.WorkerScheduler
import Mathlib.Data.List.Nodup
import Mathlib.Logic.Function.Basic

/-!
# Workers that share a scheduler

Any number of workers mark, acquire and complete handles in any order.  The
scheduler does not know who acquired a handle; the pool does, and a worker
completes only what it holds.  Then the handles in flight are the handles held,
and each of them is held by one worker.
-/

namespace Crynet

variable {Worker : Type*}

/-- A call of a worker. -/
inductive WorkerAction (Worker : Type*) where
  | markReady (worker : Worker) (handle : ServiceHandle)
  | acquireNext (worker : Worker)
  | complete (worker : Worker) (handle : ServiceHandle)

/-- A scheduler, with the handles every worker has acquired and not completed
yet. -/
structure WorkerPool (Worker : Type*) where
  scheduler : WorkerScheduler
  held : Worker → List ServiceHandle

namespace WorkerPool

def new : WorkerPool Worker :=
  { scheduler := WorkerScheduler.new
    held := fun _ => [] }

/-- A worker completes only a handle that it holds. -/
def Entitled (pool : WorkerPool Worker) : WorkerAction Worker → Prop
  | .complete worker handle => handle ∈ pool.held worker
  | _ => True

variable [DecidableEq Worker]

def step (pool : WorkerPool Worker) :
    WorkerAction Worker → WorkerPool Worker
  | .markReady _ handle =>
      { pool with scheduler := (pool.scheduler.markReady handle).2 }
  | .acquireNext worker =>
      match pool.scheduler.acquireNext with
      | none => pool
      | some (handle, scheduler) =>
          { scheduler := scheduler
            held := Function.update pool.held worker
              (handle :: pool.held worker) }
  | .complete worker handle =>
      { scheduler := (pool.scheduler.complete handle).2
        held := Function.update pool.held worker
          ((pool.held worker).erase handle) }

/-- Interleavings of the calls of any workers. -/
def Reaches (actions : List (WorkerAction Worker))
    (pool : WorkerPool Worker) : Prop :=
  Transition.Execution (fun current action next => current.step action = next)
    Entitled new actions pool

/-- The handles in flight are the handles held, and no two workers hold the
same. -/
structure Exclusive (pool : WorkerPool Worker) : Prop where
  nodup : ∀ worker, (pool.held worker).Nodup
  flying : ∀ handle, handle ∈ pool.scheduler.inFlightHandles ↔
    ∃ worker, handle ∈ pool.held worker
  alone : ∀ first second handle, handle ∈ pool.held first →
    handle ∈ pool.held second → first = second

namespace Exclusive

omit [DecidableEq Worker] in
theorem initially : Exclusive (new : WorkerPool Worker) where
  nodup := fun _ => List.nodup_nil
  flying := by simp [new, WorkerScheduler.new]
  alone := by simp [new]

variable {pool : WorkerPool Worker}

/-- The handle that is acquired was ready, so nobody holds it. -/
theorem acquired (exclusive : pool.Exclusive) {worker : Worker}
    {handle : ServiceHandle} {scheduler : WorkerScheduler}
    (acquisition : pool.scheduler.acquireNext = some (handle, scheduler)) :
    WorkerPool.Exclusive
      { scheduler := scheduler
        held := Function.update pool.held worker
          (handle :: pool.held worker) } := by
  obtain ⟨waiting, flying⟩ := WorkerScheduler.acquireNext_some acquisition
  have grounded : handle ∉ pool.scheduler.inFlightHandles := by
    apply pool.scheduler.disjoint
    change handle ∈ pool.scheduler.ready
    rw [waiting]
    exact List.mem_cons_self
  have free : ∀ other, handle ∉ pool.held other := by
    intro other member
    exact grounded ((exclusive.flying handle).mpr ⟨other, member⟩)
  have members : ∀ other candidate,
      candidate ∈ Function.update pool.held worker
          (handle :: pool.held worker) other ↔
        candidate = handle ∧ other = worker ∨
          candidate ∈ pool.held other := by
    intro other candidate
    by_cases here : other = worker
    · subst here
      simp
    · simp [here]
  refine ⟨?_, ?_, ?_⟩
  · intro other
    by_cases here : other = worker
    · subst here
      simp only [Function.update_self]
      exact List.nodup_cons.mpr ⟨free other, exclusive.nodup other⟩
    · simp only [Function.update_of_ne here]
      exact exclusive.nodup other
  · intro candidate
    simp only [members, flying, Finset.mem_insert, exclusive.flying]
    constructor
    · rintro (same | ⟨other, member⟩)
      · exact ⟨worker, Or.inl ⟨same, rfl⟩⟩
      · exact ⟨other, Or.inr member⟩
    · rintro ⟨other, ⟨same, _⟩ | member⟩
      · exact Or.inl same
      · exact Or.inr ⟨other, member⟩
  · intro first second candidate
    simp only [members]
    rintro (⟨same, here⟩ | member) (⟨again, there⟩ | other)
    · rw [here, there]
    · rw [same] at other
      exact absurd other (free second)
    · rw [again] at member
      exact absurd member (free first)
    · exact exclusive.alone first second candidate member other

/-- The worker that completes a handle is the only one that held it. -/
theorem completed (exclusive : pool.Exclusive) {worker : Worker}
    {handle : ServiceHandle} (entitled : handle ∈ pool.held worker) :
    WorkerPool.Exclusive
      { scheduler := (pool.scheduler.complete handle).2
        held := Function.update pool.held worker
          ((pool.held worker).erase handle) } := by
  have members : ∀ other candidate,
      candidate ∈ Function.update pool.held worker
          ((pool.held worker).erase handle) other ↔
        candidate ≠ handle ∧ candidate ∈ pool.held other := by
    intro other candidate
    by_cases here : other = worker
    · subst here
      rw [Function.update_self, (exclusive.nodup other).mem_erase_iff]
    · rw [Function.update_of_ne here]
      constructor
      · intro member
        refine ⟨?_, member⟩
        intro same
        rw [same] at member
        exact here (exclusive.alone other worker handle member entitled)
      · exact And.right
  refine ⟨?_, ?_, ?_⟩
  · intro other
    by_cases here : other = worker
    · subst here
      simp only [Function.update_self]
      exact (exclusive.nodup other).erase handle
    · simp only [Function.update_of_ne here]
      exact exclusive.nodup other
  · intro candidate
    simp only [members, WorkerScheduler.complete_inFlightHandles,
      Finset.mem_erase, exclusive.flying, exists_and_left]
  · intro first second candidate
    simp only [members]
    rintro ⟨_, member⟩ ⟨_, other⟩
    exact exclusive.alone first second candidate member other

theorem step (exclusive : pool.Exclusive) {action : WorkerAction Worker}
    (entitled : pool.Entitled action) : (pool.step action).Exclusive := by
  cases action with
  | markReady worker handle =>
      refine ⟨exclusive.nodup, ?_, exclusive.alone⟩
      intro candidate
      simp only [WorkerPool.step, WorkerScheduler.markReady_inFlightHandles]
      exact exclusive.flying candidate
  | acquireNext worker =>
      simp only [WorkerPool.step]
      split
      · exact exclusive
      · rename_i acquisition
        exact exclusive.acquired acquisition
  | complete worker handle => exact exclusive.completed entitled

/-- The run lemma of the pool. -/
theorem of_reaches {actions : List (WorkerAction Worker)}
    (reached : Reaches actions pool) : pool.Exclusive := by
  apply reached.invariant Exclusive initially
  intro current action next exclusive entitled stepped
  rw [← stepped]
  exact exclusive.step entitled

end Exclusive

end WorkerPool

end Crynet
