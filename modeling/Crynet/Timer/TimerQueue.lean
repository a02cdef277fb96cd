import Crynet.Actor.Message
import Mathlib.Data.Fintype.Basic
import Mathlib.Data.UInt
import Mathlib.Logic.Function.Basic

/-!
# The timer queue

A timing wheel with 256 near buckets and four levels of 64 buckets.  The two
bucket arrays are one function on bucket positions.  A loop that never ends has
no result: `moveBucket`, and what calls it, answer no value exactly then.

Handing out a timer records the entry and the tick beside the message it turns
into, so that statements can speak about timers; the messages alone are what
`pollExpired` returns.  For the same purpose the schedule calls are numbered:
`scheduled` and `serial` are not in the source and nothing reads them.
-/

namespace Crynet

abbrev TimerId := UInt64

/-- A `steady_clock` time point, a signed count of nanoseconds. -/
abbrev TimePoint := Int64

namespace TimerQueue

abbrev nearShift : UInt64 := 8
abbrev nearSize : UInt64 := 1 <<< nearShift
abbrev levelShift : UInt64 := 6
abbrev levelSize : UInt64 := 1 <<< levelShift
abbrev levelCount : Nat := 4
abbrev nearMask : UInt64 := nearSize - 1
abbrev levelMask : UInt64 := levelSize - 1

end TimerQueue

structure TimerEntry where
  timerId : TimerId := 0
  targetHandle : ServiceHandle := 0
  sessionId : SessionId := 0
  expireTick : UInt64 := 0
  payloadText : Text := []
  serial : Nat := 0
  deriving DecidableEq, Repr

/-- The message an expired entry turns into. -/
def TimerEntry.message (entry : TimerEntry) : Message :=
  Message.fromText .timer 0 entry.targetHandle entry.sessionId
    entry.payloadText

instance neZero_nearSize : NeZero (256 : Nat) := ⟨by decide⟩

instance neZero_levelSize : NeZero (64 : Nat) := ⟨by decide⟩

instance neZero_levelCount : NeZero (4 : Nat) := ⟨by decide⟩

/-- The position of a bucket: `m_near[index]` or `m_levels[level][index]`. -/
inductive BucketIndex where
  | near (index : Fin 256)
  | level (level : Fin 4) (index : Fin 64)
  deriving DecidableEq, Repr

/-- Every bucket position, in the order the removal loops visit them. -/
def BucketIndex.all : List BucketIndex :=
  (List.finRange 256).map .near ++
    (List.finRange 4).flatMap fun level =>
      (List.finRange 64).map (.level level)

/-- An entry handed out by `collectCurrentBucket`, with the tick it was at. -/
structure Firing where
  tick : UInt64
  entry : TimerEntry
  deriving DecidableEq, Repr

structure TimerQueue where
  nextTimerId : TimerId := 1
  currentPoint : TimePoint := 0
  currentTick : UInt64 := 0
  pendingSize : Nat := 0
  scheduled : Nat := 0
  buckets : BucketIndex → List TimerEntry := fun _ => []

namespace TimerQueue

/-- A queue constructed when the clock reads `now`. -/
def new (now : TimePoint) : TimerQueue :=
  { currentPoint := now }

def nearIndex (tick : UInt64) : Fin 256 :=
  Fin.ofNat 256 (tick &&& nearMask).toNat

def levelIndex (level : Nat) (tick : UInt64) : Fin 64 :=
  Fin.ofNat 64
    ((tick >>> (nearShift + UInt64.ofNat level * levelShift)) &&&
      levelMask).toNat

/-- The level loop of `add_entry`: stop at the first level above which the two
ticks agree. -/
def findLevel (expireTick currentTick : UInt64) : Nat → Nat → UInt64 → Nat
  | 0, level, _ => level
  | remaining + 1, level, mask =>
      if expireTick ||| (mask - 1) = currentTick ||| (mask - 1) then
        level
      else
        findLevel expireTick currentTick remaining (level + 1)
          (mask <<< levelShift)

/-- The bucket `add_entry` chooses. -/
def bucketFor (expireTick currentTick : UInt64) : BucketIndex :=
  if expireTick ||| nearMask = currentTick ||| nearMask then
    .near (nearIndex expireTick)
  else
    let level := findLevel expireTick currentTick (levelCount - 1) 0
      (nearSize <<< levelShift)
    .level (Fin.ofNat 4 level) (levelIndex level expireTick)

def setBucket (queue : TimerQueue) (position : BucketIndex)
    (entries : List TimerEntry) : TimerQueue :=
  { queue with buckets := Function.update queue.buckets position entries }

def addEntry (queue : TimerQueue) (entry : TimerEntry) : TimerQueue :=
  let position := bucketFor entry.expireTick queue.currentTick
  queue.setBucket position (queue.buckets position ++ [entry])

/-- The loop of `move_bucket`, for at most the given number of rounds. -/
def moveLoop : Nat → TimerQueue → BucketIndex → Option TimerQueue
  | 0, queue, position =>
      if queue.buckets position = [] then some queue else none
  | rounds + 1, queue, position =>
      match queue.buckets position with
      | [] => some queue
      | entry :: rest =>
          moveLoop rounds ((queue.setBucket position rest).addEntry entry)
            position

/-- The entries found in the bucket take one round each.  If the bucket is not
empty after that, some of them came back, and they come back in every round
that follows. -/
def moveBucket (queue : TimerQueue) (position : BucketIndex) :
    Option TimerQueue :=
  moveLoop (queue.buckets position).length queue position

/-- The level loop of `advance_tick`: the bucket to be cascaded, if any. -/
def carryLoop (currentTick : UInt64) :
    Nat → Nat → UInt64 → UInt64 → Option BucketIndex
  | 0, _, _, _ => none
  | remaining + 1, level, mask, shiftedTime =>
      if currentTick &&& (mask - 1) ≠ 0 then
        none
      else if shiftedTime &&& levelMask ≠ 0 then
        some (.level (Fin.ofNat 4 level)
          (Fin.ofNat 64 (shiftedTime &&& levelMask).toNat))
      else
        carryLoop currentTick remaining (level + 1) (mask <<< levelShift)
          (shiftedTime >>> levelShift)

/-- The bucket `advance_tick` cascades when it reaches a tick. -/
def carryBucket (currentTick : UInt64) : Option BucketIndex :=
  if currentTick = 0 then
    some (.level (Fin.ofNat 4 (levelCount - 1)) 0)
  else
    carryLoop currentTick levelCount 0 nearSize (currentTick >>> nearShift)

def advanceTick (queue : TimerQueue) : Option TimerQueue :=
  let advanced := { queue with currentTick := queue.currentTick + 1 }
  match carryBucket advanced.currentTick with
  | none => some advanced
  | some position => advanced.moveBucket position

/-- The near bucket of the current tick. -/
def currentBucket (queue : TimerQueue) : BucketIndex :=
  .near (nearIndex queue.currentTick)

def collectCurrentBucket (queue : TimerQueue) : List Firing × TimerQueue :=
  let expired := queue.buckets queue.currentBucket
  (expired.map fun entry => ⟨queue.currentTick, entry⟩,
    { queue.setBucket queue.currentBucket [] with
      pendingSize := queue.pendingSize - expired.length })

def removeByTimerId (queue : TimerQueue) (timerId : TimerId) :
    Bool × TimerQueue :=
  match BucketIndex.all.find? fun position =>
      (queue.buckets position).any fun entry => entry.timerId == timerId with
  | none => (false, queue)
  | some position =>
      (true,
        { queue.setBucket position
            ((queue.buckets position).eraseP fun entry =>
              entry.timerId == timerId) with
          pendingSize := queue.pendingSize - 1 })

def removeByTarget (queue : TimerQueue) (targetHandle : ServiceHandle) :
    Nat × TimerQueue :=
  let removed := (BucketIndex.all.map fun position =>
    (queue.buckets position).countP fun entry =>
      entry.targetHandle == targetHandle).sum
  (removed,
    { queue with
      pendingSize := queue.pendingSize - removed
      buckets := fun position =>
        (queue.buckets position).filter fun entry =>
          entry.targetHandle != targetHandle })

/-- A delay in whole milliseconds; negative delays count as zero. -/
def delayTicks (delay : Int64) : UInt64 :=
  if delay ≤ 0 then 0 else delay.toUInt64

/-- The entry `schedule_after` creates. -/
def newEntry (queue : TimerQueue) (targetHandle : ServiceHandle)
    (sessionId : SessionId) (delay : Int64) (payloadText : Text) :
    TimerEntry :=
  { timerId := queue.nextTimerId
    targetHandle := targetHandle
    sessionId := sessionId
    expireTick := queue.currentTick + delayTicks delay
    payloadText := payloadText
    serial := queue.scheduled }

def scheduleAfter (queue : TimerQueue) (targetHandle : ServiceHandle)
    (sessionId : SessionId) (delay : Int64) (payloadText : Text) :
    TimerId × TimerQueue :=
  let entry := queue.newEntry targetHandle sessionId delay payloadText
  let added :=
    { queue with
      nextTimerId := queue.nextTimerId + 1
      scheduled := queue.scheduled + 1 }.addEntry entry
  (entry.timerId, { added with pendingSize := added.pendingSize + 1 })

def cancel (queue : TimerQueue) (timerId : TimerId) : Bool × TimerQueue :=
  queue.removeByTimerId timerId

def cancelForTarget (queue : TimerQueue) (targetHandle : ServiceHandle) :
    Nat × TimerQueue :=
  queue.removeByTarget targetHandle

def size (queue : TimerQueue) : Nat :=
  queue.pendingSize

/-- The body of the loop of `poll_expired`. -/
def pollRound (queue : TimerQueue) : Option (List Firing × TimerQueue) :=
  let drained := queue.collectCurrentBucket
  match drained.2.advanceTick with
  | none => none
  | some advanced =>
      let collected := advanced.collectCurrentBucket
      some (drained.1 ++ collected.1, collected.2)

/-- The loop of `poll_expired`. -/
def pollLoop : Nat → TimerQueue → Option (List Firing × TimerQueue)
  | 0, queue => some ([], queue)
  | rounds + 1, queue =>
      match queue.pollRound with
      | none => none
      | some (firings, next) =>
          match pollLoop rounds next with
          | none => none
          | some (later, final) => some (firings ++ later, final)

def nanosecondsPerMillisecond : Int := 1000000

/-- Whole milliseconds by which a time point is ahead of the queue; zero when
it is not. -/
def elapsed (queue : TimerQueue) (now : TimePoint) : Nat :=
  if now ≤ queue.currentPoint then
    0
  else
    ((now.toInt - queue.currentPoint.toInt).tdiv
      nanosecondsPerMillisecond).toNat

def pollFirings (queue : TimerQueue) (now : TimePoint) :
    Option (List Firing × TimerQueue) :=
  match pollLoop (queue.elapsed now) queue with
  | none => none
  | some (firings, advanced) =>
      some (firings,
        { advanced with
          currentPoint := advanced.currentPoint +
            Int64.ofInt (queue.elapsed now * nanosecondsPerMillisecond) })

def pollExpired (queue : TimerQueue) (now : TimePoint) :
    Option (List Message × TimerQueue) :=
  (queue.pollFirings now).map fun polled =>
    (polled.1.map fun firing => firing.entry.message, polled.2)

end TimerQueue

end Crynet
