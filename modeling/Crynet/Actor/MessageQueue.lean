import Crynet.Actor.Message
import Mathlib.Tactic.Common

/-!
# Per-service message queues

A queue holds the accepted messages of one service in arrival order.  That
every message in it is addressed to its owner, and that the overload threshold
is positive, are part of the type.
-/

namespace Crynet

structure MessageQueue where
  ownerHandle : ServiceHandle
  messages : List Message
  overloadThreshold : Nat
  overloadSize : Nat
  peakSize : Nat
  owned : ∀ message ∈ messages, message.targetHandle = ownerHandle
  thresholdPositive : 0 < overloadThreshold

namespace MessageQueue

/-- The empty queue of a service. -/
def ofOwner (ownerHandle : ServiceHandle) : MessageQueue :=
  { ownerHandle := ownerHandle
    messages := []
    overloadThreshold := 1024
    overloadSize := 0
    peakSize := 0
    owned := by simp
    thresholdPositive := by decide }

/-- The loop that doubles the threshold while the queue is longer than it.
Every round at least adds one to the threshold, so `size` rounds suffice. -/
def raiseThreshold (size : Nat) : Nat → Nat → Nat → Nat × Nat
  | 0, threshold, overload => (threshold, overload)
  | rounds + 1, threshold, overload =>
      if threshold < size then
        raiseThreshold size rounds (threshold * 2) size
      else
        (threshold, overload)

private theorem raiseThreshold_positive
    (size rounds threshold overload : Nat) (positive : 0 < threshold) :
    0 < (raiseThreshold size rounds threshold overload).1 := by
  induction rounds generalizing threshold overload with
  | zero => exact positive
  | succ rounds induction =>
      simp only [raiseThreshold]
      split
      · apply induction
        omega
      · exact positive

/-- The rounds suffice: the loop condition is false when the loop is left. -/
theorem raiseThreshold_exit
    (size rounds threshold overload : Nat) (positive : 0 < threshold)
    (enough : size ≤ threshold + rounds) :
    size ≤ (raiseThreshold size rounds threshold overload).1 := by
  induction rounds generalizing threshold overload with
  | zero => simpa [raiseThreshold] using enough
  | succ rounds induction =>
      simp only [raiseThreshold]
      split
      · apply induction
        · omega
        · omega
      · rename_i done
        exact Nat.le_of_not_lt done

/-- A queue only accepts messages routed to its owner. -/
def enqueue (queue : MessageQueue) (message : Message) :
    Bool × MessageQueue :=
  if addressed : message.targetHandle ≠ queue.ownerHandle then
    (false, queue)
  else
    let messages := queue.messages ++ [message]
    let raised := raiseThreshold messages.length messages.length
      queue.overloadThreshold queue.overloadSize
    (true,
      { ownerHandle := queue.ownerHandle
        messages := messages
        overloadThreshold := raised.1
        overloadSize := raised.2
        peakSize := max queue.peakSize messages.length
        owned := by
          intro candidate member
          rcases List.mem_append.mp member with old | last
          · exact queue.owned candidate old
          · rw [List.mem_singleton.mp last]
            exact not_not.mp addressed
        thresholdPositive :=
          raiseThreshold_positive _ _ _ _ queue.thresholdPositive })

def dequeue (queue : MessageQueue) : Option (Message × MessageQueue) :=
  match pending : queue.messages with
  | [] => none
  | message :: rest =>
      some (message,
        { queue with
          messages := rest
          overloadThreshold :=
            if rest = [] then 1024 else queue.overloadThreshold
          owned := by
            intro candidate member
            apply queue.owned
            rw [pending]
            exact List.mem_cons_of_mem _ member
          thresholdPositive := by
            split
            · decide
            · exact queue.thresholdPositive })

def empty (queue : MessageQueue) : Bool :=
  queue.messages.isEmpty

def size (queue : MessageQueue) : Nat :=
  queue.messages.length

def takeOverload (queue : MessageQueue) : Option Nat × MessageQueue :=
  if queue.overloadSize = 0 then
    (none, queue)
  else
    (some queue.overloadSize, { queue with overloadSize := 0 })

@[simp] theorem ofOwner_messages (ownerHandle : ServiceHandle) :
    (ofOwner ownerHandle).messages = [] := rfl

@[simp] theorem ofOwner_ownerHandle (ownerHandle : ServiceHandle) :
    (ofOwner ownerHandle).ownerHandle = ownerHandle := rfl

@[simp] theorem empty_iff (queue : MessageQueue) :
    queue.empty = true ↔ queue.messages = [] := by
  simp [empty]

/-- A message for the owner is accepted and appended. -/
theorem enqueue_addressed
    {queue : MessageQueue} {message : Message}
    (addressed : message.targetHandle = queue.ownerHandle) :
    (queue.enqueue message).1 = true ∧
      (queue.enqueue message).2.messages = queue.messages ++ [message] ∧
      (queue.enqueue message).2.ownerHandle = queue.ownerHandle := by
  have accepted : ¬message.targetHandle ≠ queue.ownerHandle := by
    simp [addressed]
  simp [enqueue, dif_neg accepted]

theorem enqueue_misaddressed
    {queue : MessageQueue} {message : Message}
    (misaddressed : message.targetHandle ≠ queue.ownerHandle) :
    queue.enqueue message = (false, queue) := by
  simp [enqueue, dif_pos misaddressed]

theorem enqueue_true
    {queue : MessageQueue} {message : Message}
    (accepted : (queue.enqueue message).1 = true) :
    (queue.enqueue message).2.messages = queue.messages ++ [message] := by
  by_cases addressed : message.targetHandle = queue.ownerHandle
  · exact (enqueue_addressed addressed).2.1
  · rw [enqueue_misaddressed addressed] at accepted
    cases accepted

@[simp] theorem takeOverload_messages (queue : MessageQueue) :
    queue.takeOverload.2.messages = queue.messages := by
  unfold takeOverload
  split <;> rfl

@[simp] theorem takeOverload_ownerHandle (queue : MessageQueue) :
    queue.takeOverload.2.ownerHandle = queue.ownerHandle := by
  unfold takeOverload
  split <;> rfl

theorem dequeue_none_iff (queue : MessageQueue) :
    queue.dequeue = none ↔ queue.messages = [] := by
  unfold dequeue
  split
  · rename_i pending
    simp [pending]
  · rename_i pending
    simp [pending]

/-- What a successful `dequeue` takes is the head of the queue. -/
theorem dequeue_some
    {queue rest : MessageQueue} {message : Message}
    (taken : queue.dequeue = some (message, rest)) :
    queue.messages = message :: rest.messages ∧
      rest.ownerHandle = queue.ownerHandle := by
  unfold dequeue at taken
  split at taken
  · cases taken
  · rename_i pending
    simp only [Option.some.injEq, Prod.mk.injEq] at taken
    obtain ⟨rfl, rfl⟩ := taken
    exact ⟨pending, rfl⟩

/-- The first of the queued messages is taken. -/
theorem dequeue_of_cons
    {queue : MessageQueue} {message : Message} {rest : List Message}
    (pending : queue.messages = message :: rest) :
    ∃ remaining, queue.dequeue = some (message, remaining) ∧
      remaining.messages = rest ∧
      remaining.ownerHandle = queue.ownerHandle := by
  cases take : queue.dequeue with
  | none =>
      rw [queue.dequeue_none_iff.mp take] at pending
      cases pending
  | some taken =>
      obtain ⟨first, remaining⟩ := taken
      obtain ⟨head, owner⟩ := dequeue_some take
      rw [pending, List.cons.injEq] at head
      obtain ⟨rfl, same⟩ := head
      exact ⟨remaining, rfl, same.symm, owner⟩

end MessageQueue

end Crynet
