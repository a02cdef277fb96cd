import Crynet.Actor.Message
import Mathlib.Data.Finset.Insert
import Mathlib.Data.Finset.Erase
import Mathlib.Tactic.Common

/-!
# The ready queue

A FIFO of runnable handles beside a membership set that suppresses duplicates.
The deque has no duplicates and no zero handle, and the set is its content:
`push` and `pop` build nothing else, so this is part of the type.
-/

namespace Crynet

structure ReadyQueue where
  handles : List ServiceHandle
  queuedHandles : Finset ServiceHandle
  nodup : handles.Nodup
  agree : ∀ handle, handle ∈ queuedHandles ↔ handle ∈ handles
  nonzero : 0 ∉ handles

namespace ReadyQueue

def new : ReadyQueue :=
  { handles := []
    queuedHandles := ∅
    nodup := List.nodup_nil
    agree := by simp
    nonzero := by simp }

def contains (queue : ReadyQueue) (handle : ServiceHandle) : Bool :=
  decide (handle ∈ queue.queuedHandles)

@[simp] theorem contains_iff (queue : ReadyQueue) (handle : ServiceHandle) :
    queue.contains handle = true ↔ handle ∈ queue.handles := by
  simp [contains, queue.agree]

def push (queue : ReadyQueue) (handle : ServiceHandle) : Bool × ReadyQueue :=
  if refused : handle = 0 ∨ queue.contains handle = true then
    (false, queue)
  else
    (true,
      { handles := queue.handles ++ [handle]
        queuedHandles := insert handle queue.queuedHandles
        nodup := by
          rw [contains_iff, not_or] at refused
          exact List.nodup_append.mpr ⟨queue.nodup, List.nodup_singleton _, by
            intro old member last lastMember
            rw [List.mem_singleton.mp lastMember]
            intro same
            exact refused.2 (same ▸ member)⟩
        agree := by
          intro candidate
          rw [Finset.mem_insert, queue.agree, List.mem_append,
            List.mem_singleton, or_comm]
        nonzero := by
          rw [contains_iff, not_or] at refused
          intro member
          rcases List.mem_append.mp member with old | last
          · exact queue.nonzero old
          · exact refused.1 (List.mem_singleton.mp last).symm })

def pop (queue : ReadyQueue) : Option (ServiceHandle × ReadyQueue) :=
  match waiting : queue.handles with
  | [] => none
  | handle :: rest =>
      some (handle,
        { handles := rest
          queuedHandles := queue.queuedHandles.erase handle
          nodup := (List.nodup_cons.mp (waiting ▸ queue.nodup)).2
          agree := by
            have distinct := List.nodup_cons.mp (waiting ▸ queue.nodup)
            intro candidate
            rw [Finset.mem_erase, queue.agree, waiting, List.mem_cons]
            constructor
            · rintro ⟨different, same | member⟩
              · exact absurd same different
              · exact member
            · intro member
              exact ⟨fun same => distinct.1 (same ▸ member), Or.inr member⟩
          nonzero := by
            intro member
            apply queue.nonzero
            rw [waiting]
            exact List.mem_cons_of_mem _ member })

/-- A push appends the handle unless it is zero or already queued. -/
theorem push_handles (queue : ReadyQueue) (handle : ServiceHandle) :
    (queue.push handle).2.handles =
      if handle = 0 ∨ handle ∈ queue.handles then queue.handles
      else queue.handles ++ [handle] := by
  by_cases refused : handle = 0 ∨ handle ∈ queue.handles
  · have known : handle = 0 ∨ queue.contains handle = true := by
      simpa using refused
    rw [if_pos refused, push, dif_pos known]
  · have unknown : ¬(handle = 0 ∨ queue.contains handle = true) := by
      simpa using refused
    rw [if_neg refused, push, dif_neg unknown]

theorem pop_none_iff (queue : ReadyQueue) :
    queue.pop = none ↔ queue.handles = [] := by
  unfold pop
  split
  · rename_i waiting
    simp [waiting]
  · rename_i waiting
    simp [waiting]

theorem pop_some
    {queue rest : ReadyQueue} {handle : ServiceHandle}
    (popped : queue.pop = some (handle, rest)) :
    queue.handles = handle :: rest.handles := by
  unfold pop at popped
  split at popped
  · cases popped
  · rename_i waiting
    simp only [Option.some.injEq, Prod.mk.injEq] at popped
    obtain ⟨rfl, rfl⟩ := popped
    exact waiting

end ReadyQueue

end Crynet
