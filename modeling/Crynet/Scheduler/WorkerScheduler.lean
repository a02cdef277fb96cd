import Crynet.Scheduler.ReadyQueue
import Mathlib.Data.Finset.Card

/-!
# The worker scheduler

A handle is ready, in flight, or neither, and never both: `markReady` refuses
a handle in flight, and `acquireNext` takes it out of the ready queue before it
is put in flight.
-/

namespace Crynet

structure WorkerScheduler where
  readyQueue : ReadyQueue
  inFlightHandles : Finset ServiceHandle
  disjoint : ∀ handle ∈ readyQueue.handles, handle ∉ inFlightHandles

namespace WorkerScheduler

def new : WorkerScheduler :=
  { readyQueue := ReadyQueue.new
    inFlightHandles := ∅
    disjoint := by simp }

def isInFlight (scheduler : WorkerScheduler) (handle : ServiceHandle) : Bool :=
  decide (handle ∈ scheduler.inFlightHandles)

/-- The handles waiting for a turn, next one first. -/
abbrev ready (scheduler : WorkerScheduler) : List ServiceHandle :=
  scheduler.readyQueue.handles

def markReady (scheduler : WorkerScheduler) (handle : ServiceHandle) :
    Bool × WorkerScheduler :=
  if refused : handle = 0 ∨ scheduler.isInFlight handle = true then
    (false, scheduler)
  else
    ((scheduler.readyQueue.push handle).1,
      { scheduler with
        readyQueue := (scheduler.readyQueue.push handle).2
        disjoint := by
          intro candidate member
          rw [ReadyQueue.push_handles] at member
          split at member
          · exact scheduler.disjoint candidate member
          · rcases List.mem_append.mp member with old | last
            · exact scheduler.disjoint candidate old
            · rw [List.mem_singleton.mp last]
              intro flying
              exact refused (Or.inr (decide_eq_true flying)) })

def acquireNext (scheduler : WorkerScheduler) :
    Option (ServiceHandle × WorkerScheduler) :=
  match popped : scheduler.readyQueue.pop with
  | none => none
  | some (handle, rest) =>
      some (handle,
        { readyQueue := rest
          inFlightHandles := insert handle scheduler.inFlightHandles
          disjoint := by
            have waiting := ReadyQueue.pop_some popped
            have distinct := scheduler.readyQueue.nodup
            rw [waiting, List.nodup_cons] at distinct
            intro candidate member flying
            rcases Finset.mem_insert.mp flying with same | old
            · exact distinct.1 (same ▸ member)
            · exact scheduler.disjoint candidate
                (waiting ▸ List.mem_cons_of_mem _ member) old })

def complete (scheduler : WorkerScheduler) (handle : ServiceHandle) :
    Bool × WorkerScheduler :=
  (decide (handle ∈ scheduler.inFlightHandles),
    { scheduler with
      inFlightHandles := scheduler.inFlightHandles.erase handle
      disjoint := fun candidate member flying =>
        scheduler.disjoint candidate member (Finset.mem_of_mem_erase flying) })

def pendingCount (scheduler : WorkerScheduler) : Nat :=
  scheduler.ready.length

def inFlightCount (scheduler : WorkerScheduler) : Nat :=
  scheduler.inFlightHandles.card

@[simp] theorem isInFlight_iff
    (scheduler : WorkerScheduler) (handle : ServiceHandle) :
    scheduler.isInFlight handle = true ↔
      handle ∈ scheduler.inFlightHandles := by
  simp [isInFlight]

theorem markReady_ready (scheduler : WorkerScheduler) (handle : ServiceHandle) :
    (scheduler.markReady handle).2.ready =
      if handle = 0 ∨ handle ∈ scheduler.inFlightHandles ∨
          handle ∈ scheduler.ready then scheduler.ready
      else scheduler.ready ++ [handle] := by
  by_cases refused : handle = 0 ∨ scheduler.isInFlight handle = true
  · have blocked : handle = 0 ∨ handle ∈ scheduler.inFlightHandles ∨
        handle ∈ scheduler.ready := by
      rw [isInFlight_iff] at refused
      tauto
    rw [if_pos blocked, markReady, dif_pos refused]
  · rw [markReady, dif_neg refused]
    rw [isInFlight_iff] at refused
    have same : (handle = 0 ∨ handle ∈ scheduler.inFlightHandles ∨
        handle ∈ scheduler.ready) ↔
          (handle = 0 ∨ handle ∈ scheduler.ready) := by
      tauto
    simp only [same]
    exact ReadyQueue.push_handles _ _

@[simp] theorem markReady_inFlightHandles
    (scheduler : WorkerScheduler) (handle : ServiceHandle) :
    (scheduler.markReady handle).2.inFlightHandles =
      scheduler.inFlightHandles := by
  unfold markReady
  split <;> rfl

theorem acquireNext_none_iff (scheduler : WorkerScheduler) :
    scheduler.acquireNext = none ↔ scheduler.ready = [] := by
  rw [ready, ← ReadyQueue.pop_none_iff]
  unfold acquireNext
  split
  · rename_i popped
    simp [popped]
  · rename_i popped
    simp [popped]

theorem acquireNext_some
    {scheduler next : WorkerScheduler} {handle : ServiceHandle}
    (acquired : scheduler.acquireNext = some (handle, next)) :
    scheduler.ready = handle :: next.ready ∧
      next.inFlightHandles = insert handle scheduler.inFlightHandles := by
  unfold acquireNext at acquired
  split at acquired
  · cases acquired
  · rename_i popped
    simp only [Option.some.injEq, Prod.mk.injEq] at acquired
    obtain ⟨rfl, rfl⟩ := acquired
    exact ⟨ReadyQueue.pop_some popped, rfl⟩

/-- The first of the waiting handles is acquired. -/
theorem acquireNext_of_ready
    {scheduler : WorkerScheduler} {handle : ServiceHandle}
    {rest : List ServiceHandle} (ready : scheduler.ready = handle :: rest) :
    ∃ acquired, scheduler.acquireNext = some (handle, acquired) ∧
      acquired.ready = rest ∧
      acquired.inFlightHandles = insert handle scheduler.inFlightHandles := by
  cases acquire : scheduler.acquireNext with
  | none =>
      rw [scheduler.acquireNext_none_iff.mp acquire] at ready
      cases ready
  | some taken =>
      obtain ⟨first, acquired⟩ := taken
      obtain ⟨front, flying⟩ := acquireNext_some acquire
      rw [ready, List.cons.injEq] at front
      obtain ⟨rfl, same⟩ := front
      exact ⟨acquired, rfl, same.symm, flying⟩

@[simp] theorem complete_ready
    (scheduler : WorkerScheduler) (handle : ServiceHandle) :
    (scheduler.complete handle).2.ready = scheduler.ready := rfl

@[simp] theorem complete_inFlightHandles
    (scheduler : WorkerScheduler) (handle : ServiceHandle) :
    (scheduler.complete handle).2.inFlightHandles =
      scheduler.inFlightHandles.erase handle := rfl

end WorkerScheduler

end Crynet
