import Crynet.Actor.MessageQueue
import Crynet.Foundation.CircularBuffer

/-!
# The message queue of skynet

The mailbox of one service, as skynet has it: a circular buffer that doubles
when a push fills it, with the flags of the global queue beside it.  That the
positions stay inside the buffer, and its capacity inside an `int`, is part of
the type, so a push that would take the capacity beyond it is no push.  The lock
of a queue is held over each function below, so each is one step of the thread
that calls it.
-/

namespace Crynet.Skynet

structure SkynetMessage where
  source : UInt32
  session : Int32
  data : Option (List UInt8)
  sz : UInt64
  deriving DecidableEq, Repr

abbrev defaultQueueSize : Nat := 64
abbrev mqOverload : Nat := 1024

/-- The first number beyond an `int`. -/
abbrev intLimit : Nat := 0x80000000

/-- `struct message_queue`; a cell that was never written holds any message. -/
structure MessageQueue where
  handle : UInt32
  cap : Nat
  head : Nat
  tail : Nat
  released : Bool
  inGlobal : Bool
  overload : Nat
  overloadThreshold : Nat
  queue : Nat → SkynetMessage
  headWithin : head < cap
  tailWithin : tail < cap
  capWithin : cap < intLimit

namespace MessageQueue

/-- `skynet_mq_create`: the flag keeps the queue out of the global queue until
the service has been initialised. -/
def create (handle : UInt32) : MessageQueue :=
  { handle := handle
    cap := defaultQueueSize
    head := 0
    tail := 0
    released := false
    inGlobal := true
    overload := 0
    overloadThreshold := mqOverload
    queue := fun _ => ⟨0, 0, none, 0⟩
    headWithin := by decide
    tailWithin := by decide
    capWithin := by decide }

/-- `skynet_mq_length`. -/
def length (mq : MessageQueue) : Nat :=
  CircularBuffer.distance mq.cap mq.head mq.tail

/-- `skynet_mq_overload`: read the mark and clear it. -/
def takeOverload (mq : MessageQueue) : Nat × MessageQueue :=
  if mq.overload ≠ 0 then
    (mq.overload, { mq with overload := 0 })
  else
    (0, mq)

/-- `skynet_mq_pop`. -/
def pop (mq : MessageQueue) : Option SkynetMessage × MessageQueue :=
  if mq.head ≠ mq.tail then
    let head := CircularBuffer.next mq.cap mq.head
    let length := CircularBuffer.distance mq.cap head mq.tail
    let raised := Crynet.MessageQueue.raiseThreshold length length
      mq.overloadThreshold mq.overload
    (some (mq.queue mq.head),
      { mq with
        head := head
        overloadThreshold := raised.1
        overload := raised.2
        headWithin := CircularBuffer.next_lt mq.headWithin })
  else
    (none, { mq with overloadThreshold := mqOverload, inGlobal := false })

/-- A push fills the buffer, and twice its capacity is not an `int`. -/
def Overflows (mq : MessageQueue) : Prop :=
  mq.head = CircularBuffer.next mq.cap mq.tail ∧ intLimit ≤ mq.cap * 2

instance (mq : MessageQueue) : Decidable mq.Overflows :=
  inferInstanceAs (Decidable (_ ∧ _))

/-- `expand_queue`, for a buffer whose positions have met. -/
def expandQueue (mq : MessageQueue) (fits : mq.cap * 2 < intLimit) :
    MessageQueue :=
  { mq with
    head := 0
    tail := mq.cap
    cap := mq.cap * 2
    queue := fun index =>
      if index < mq.cap then mq.queue ((mq.head + index) % mq.cap)
      else mq.queue index
    headWithin := by have within := mq.headWithin; omega
    tailWithin := by have within := mq.headWithin; omega
    capWithin := fits }

/-- What `skynet_mq_push` does to the buffer. -/
def put (mq : MessageQueue) (message : SkynetMessage) (fits : ¬mq.Overflows) :
    MessageQueue :=
  let written : MessageQueue :=
    { mq with
      queue := Function.update mq.queue mq.tail message
      tail := CircularBuffer.next mq.cap mq.tail
      tailWithin := CircularBuffer.next_lt mq.tailWithin }
  if full : written.head = written.tail then
    written.expandQueue (Nat.lt_of_not_le fun large => fits ⟨full, large⟩)
  else
    written

/-- `skynet_mq_push`, and whether it pushes the queue to the global queue. -/
def push (mq : MessageQueue) (message : SkynetMessage) (fits : ¬mq.Overflows) :
    MessageQueue × Bool :=
  let written := mq.put message fits
  if written.inGlobal = false then
    ({ written with inGlobal := true }, true)
  else
    (written, false)

/-- `skynet_mq_mark_release`, and whether it pushes the queue to the global
queue.  The flag of the global queue is left as it is. -/
def markRelease (mq : MessageQueue) : MessageQueue × Bool :=
  ({ mq with released := true }, !mq.inGlobal)

/-- The messages in the buffer, oldest first. -/
def contents (mq : MessageQueue) : List SkynetMessage :=
  CircularBuffer.window mq.queue mq.cap mq.head mq.length

@[simp] theorem contents_length (mq : MessageQueue) :
    mq.contents.length = mq.length :=
  CircularBuffer.window_length _ _ _ _

theorem length_eq_zero_iff (mq : MessageQueue) :
    mq.length = 0 ↔ mq.head = mq.tail :=
  CircularBuffer.distance_eq_zero_iff mq.headWithin

private theorem length_lt_cap (mq : MessageQueue) : mq.length < mq.cap :=
  CircularBuffer.distance_lt mq.headWithin mq.tailWithin

@[simp] theorem create_contents (handle : UInt32) :
    (create handle).contents = [] := by
  simp [contents, create, length, CircularBuffer.distance]

/-- A push adds the message at the end, whether or not the buffer grows. -/
theorem put_contents (mq : MessageQueue) (message : SkynetMessage)
    (fits : ¬mq.Overflows) :
    (mq.put message fits).contents = mq.contents ++ [message] := by
  have room := mq.length_lt_cap
  have behind : (mq.head + mq.length) % mq.cap = mq.tail :=
    CircularBuffer.distance_reaches mq.headWithin mq.tailWithin
  have written := CircularBuffer.window_write mq.queue mq.head room message
  rw [behind] at written
  by_cases full : mq.head = CircularBuffer.next mq.cap mq.tail
  · have whole : mq.length + 1 = mq.cap :=
      CircularBuffer.distance_full mq.headWithin mq.tailWithin full
    simp only [put, dif_pos full, expandQueue, contents, length]
    have unrolled : CircularBuffer.distance (mq.cap * 2) 0 mq.cap =
        mq.length + 1 := by
      simp [CircularBuffer.distance, whole]
    rw [unrolled, CircularBuffer.window_unrolled
      (Function.update mq.queue mq.tail message) mq.cap mq.head
      (by omega) (fun offset within => if_pos (by omega)), written]
    rfl
  · simp only [put, dif_neg full, contents, length]
    rw [CircularBuffer.distance_next_tail mq.headWithin mq.tailWithin full]
    exact written

section Flags

variable (mq : MessageQueue) (message : SkynetMessage)
variable (fits : ¬mq.Overflows)

@[simp] theorem put_handle : (mq.put message fits).handle = mq.handle := by
  simp only [put, expandQueue]
  split <;> rfl

@[simp] theorem put_released : (mq.put message fits).released = mq.released := by
  simp only [put, expandQueue]
  split <;> rfl

@[simp] theorem put_inGlobal : (mq.put message fits).inGlobal = mq.inGlobal := by
  simp only [put, expandQueue]
  split <;> rfl

@[simp] theorem push_handle : (mq.push message fits).1.handle = mq.handle := by
  simp only [push]
  split <;> simp

@[simp] theorem push_released : (mq.push message fits).1.released = mq.released := by
  simp only [push]
  split <;> simp

@[simp] theorem push_inGlobal : (mq.push message fits).1.inGlobal = true := by
  simp only [push]
  split <;> simp_all

@[simp] theorem push_wakes : (mq.push message fits).2 = !mq.inGlobal := by
  simp only [push]
  split <;> simp_all

theorem push_contents :
    (mq.push message fits).1.contents = mq.contents ++ [message] := by
  rw [← put_contents]
  simp only [push]
  split <;> rfl

@[simp] theorem takeOverload_handle :
    mq.takeOverload.2.handle = mq.handle := by
  simp only [takeOverload]
  split <;> rfl

@[simp] theorem takeOverload_released :
    mq.takeOverload.2.released = mq.released := by
  simp only [takeOverload]
  split <;> rfl

@[simp] theorem takeOverload_inGlobal :
    mq.takeOverload.2.inGlobal = mq.inGlobal := by
  simp only [takeOverload]
  split <;> rfl

@[simp] theorem takeOverload_contents :
    mq.takeOverload.2.contents = mq.contents := by
  simp only [takeOverload]
  split <;> rfl

end Flags

variable {mq next : MessageQueue} {message : SkynetMessage}

/-- A pop that finds the queue empty lets go of the global queue's mark. -/
theorem pop_none (popped : mq.pop = (none, next)) :
    mq.contents = [] ∧
      next = { mq with overloadThreshold := mqOverload, inGlobal := false } := by
  simp only [pop] at popped
  split at popped
  · simp at popped
  · rename_i met
    have empty : mq.length = 0 :=
      mq.length_eq_zero_iff.mpr (Decidable.not_not.mp met)
    refine ⟨List.eq_nil_of_length_eq_zero (by simpa using empty), ?_⟩
    exact (Prod.mk.inj popped).2.symm

/-- Any other pop takes the oldest message and leaves the flags alone. -/
theorem pop_some (popped : mq.pop = (some message, next)) :
    mq.contents = message :: next.contents ∧ next.handle = mq.handle ∧
      next.released = mq.released ∧ next.inGlobal = mq.inGlobal := by
  simp only [pop] at popped
  split at popped
  · rename_i apart
    obtain ⟨first, rest⟩ := Prod.mk.inj popped
    subst rest
    refine ⟨?_, rfl, rfl, rfl⟩
    have shorter := CircularBuffer.distance_next_head mq.headWithin
      mq.tailWithin apart
    simp only [contents, length]
    rw [← shorter, CircularBuffer.window_succ_first,
      Nat.mod_eq_of_lt mq.headWithin, Option.some.inj first,
      CircularBuffer.next_eq_mod mq.headWithin,
      CircularBuffer.window_start_mod]
  · simp at popped

end MessageQueue

end Crynet.Skynet
