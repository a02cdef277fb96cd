import Crynet.Foundation.Deadlines
import Crynet.Timer.Run

/-!
# The timer list

What the timer queue is for, without a wheel: a list of pending timers, a tick,
and unbounded numbers.  This is the specification the wheel is compared with,
not a translation of code.
-/

namespace Crynet

structure ListedTimer where
  timerId : Nat
  targetHandle : ServiceHandle
  sessionId : SessionId
  expire : Nat
  payloadText : Text
  deriving DecidableEq, Repr

def ListedTimer.message (timer : ListedTimer) : Message :=
  Message.fromText .timer 0 timer.targetHandle timer.sessionId
    timer.payloadText

/-- What a caller sees of an answer. -/
inductive VisibleAnswer where
  | scheduled (timerId : Nat)
  | cancelled (found : Bool)
  | removed (count : Nat)
  | size (count : Nat)
  | polled (messages : List Message)
  deriving DecidableEq, Repr

def TimerAnswer.visible : TimerAnswer → VisibleAnswer
  | .scheduled entry => .scheduled entry.timerId.toNat
  | .cancelled found => .cancelled found
  | .removed count => .removed count
  | .size count => .size count
  | .polled firings => .polled (firings.map fun firing => firing.entry.message)

structure TimerList where
  nextTimerId : Nat := 1
  point : Int := 0
  tick : Nat := 0
  pending : List ListedTimer := []
  deriving DecidableEq, Repr

namespace TimerList

def new (now : TimePoint) : TimerList :=
  { point := now.toInt }

/-- Whole milliseconds by which a time point is ahead. -/
def elapsed (list : TimerList) (now : TimePoint) : Nat :=
  ((now.toInt - list.point) / 1000000).toNat

def newTimer (list : TimerList) (targetHandle : ServiceHandle)
    (sessionId : SessionId) (delay : Int64) (payloadText : Text) :
    ListedTimer :=
  { timerId := list.nextTimerId
    targetHandle := targetHandle
    sessionId := sessionId
    expire := list.tick + delay.toInt.toNat
    payloadText := payloadText }

def poll (list : TimerList) (now : TimePoint) : List ListedTimer × TimerList :=
  if list.elapsed now = 0 then
    ([], list)
  else
    let reached := list.tick + list.elapsed now
    (Deadlines.due ListedTimer.expire ListedTimer.timerId reached list.pending,
      { list with
        point := list.point + list.elapsed now * 1000000
        tick := reached
        pending := Deadlines.waiting ListedTimer.expire reached list.pending })

def perform (list : TimerList) : TimerOperation → VisibleAnswer × TimerList
  | .scheduleAfter targetHandle sessionId delay payloadText =>
      let timer := list.newTimer targetHandle sessionId delay payloadText
      (.scheduled timer.timerId,
        { list with
          nextTimerId := list.nextTimerId + 1
          pending := list.pending ++ [timer] })
  | .cancel timerId =>
      (.cancelled (list.pending.any fun timer =>
          timer.timerId == timerId.toNat),
        { list with pending := list.pending.filter fun timer =>
            timer.timerId ≠ timerId.toNat })
  | .cancelForTarget targetHandle =>
      (.removed (list.pending.countP fun timer =>
          timer.targetHandle = targetHandle),
        { list with pending := list.pending.filter fun timer =>
            timer.targetHandle ≠ targetHandle })
  | .size => (.size list.pending.length, list)
  | .pollExpired now =>
      (.polled ((list.poll now).1.map ListedTimer.message),
        (list.poll now).2)

def react (list : TimerList) (operation : TimerOperation) :
    Option (VisibleAnswer × TimerList) :=
  some (list.perform operation)

/-- The expire tick of a new timer is below 2^32. -/
def ExpiresSoon (list : TimerList) : TimerOperation → Prop
  | .scheduleAfter targetHandle sessionId delay payloadText =>
      (list.newTimer targetHandle sessionId delay payloadText).expire < 2 ^ 32
  | _ => True

/-- The number of a new timer is below 2^64. -/
def NumberFits (list : TimerList) : TimerOperation → Prop
  | .scheduleAfter _ _ _ _ => list.nextTimerId < 2 ^ 64
  | _ => True

def InRange (list : TimerList) (operation : TimerOperation) : Prop :=
  list.ExpiresSoon operation ∧ list.NumberFits operation

end TimerList

/-- The timer queue as a caller sees it. -/
def TimerQueue.react (queue : TimerQueue) (operation : TimerOperation) :
    Option (VisibleAnswer × TimerQueue) :=
  (queue.perform operation).map fun performed =>
    (performed.1.visible, performed.2)

end Crynet
