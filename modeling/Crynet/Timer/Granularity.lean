import Crynet.Foundation.Transducer
import Crynet.Timer.Termination

/-!
# Polling often and polling once

The loop of `poll_expired` does the same in each of its rounds, and its rounds
do not look at the clock of the queue.  A poll moves this clock by whole
milliseconds only, so what it truncates counts for the next poll.  Therefore
any polls in a row are one poll at the latest of their times.
-/

namespace Crynet

namespace TimerQueue

/-- The queue with another clock. -/
def atPoint (queue : TimerQueue) (point : TimePoint) : TimerQueue :=
  { queue with currentPoint := point }

@[simp] theorem atPoint_currentPoint (queue : TimerQueue)
    (point : TimePoint) : (queue.atPoint point).currentPoint = point := rfl

/-- What a loop hands out, with another clock. -/
def handAt {Items : Type} (point : TimePoint) (handed : Items × TimerQueue) :
    Items × TimerQueue :=
  (handed.1, handed.2.atPoint point)

private theorem moveLoop_atPoint (rounds : Nat) (queue : TimerQueue)
    (position : BucketIndex) (point : TimePoint) :
    moveLoop rounds (queue.atPoint point) position =
      (moveLoop rounds queue position).map fun moved => moved.atPoint point := by
  induction rounds generalizing queue with
  | zero =>
      have same : (queue.atPoint point).buckets = queue.buckets := rfl
      simp only [moveLoop, same]
      split
      · rfl
      · rfl
  | succ rounds induction =>
      have same : (queue.atPoint point).buckets = queue.buckets := rfl
      simp only [moveLoop, same]
      cases queue.buckets position with
      | nil => rfl
      | cons entry rest =>
          exact induction ((queue.setBucket position rest).addEntry entry)

private theorem advanceTick_atPoint (queue : TimerQueue) (point : TimePoint) :
    (queue.atPoint point).advanceTick =
      queue.advanceTick.map fun advanced => advanced.atPoint point := by
  have same : (queue.atPoint point).currentTick = queue.currentTick := rfl
  simp only [advanceTick, same]
  cases carryBucket (queue.currentTick + 1) with
  | none => rfl
  | some position =>
      exact moveLoop_atPoint _
        { queue with currentTick := queue.currentTick + 1 } position point

private theorem pollRound_atPoint (queue : TimerQueue) (point : TimePoint) :
    (queue.atPoint point).pollRound = queue.pollRound.map (handAt point) := by
  have drained : (queue.atPoint point).collectCurrentBucket =
      handAt point queue.collectCurrentBucket := rfl
  simp only [pollRound, drained, handAt, advanceTick_atPoint]
  cases queue.collectCurrentBucket.2.advanceTick with
  | none => rfl
  | some advanced => rfl

/-- The loop of `poll_expired` does not look at the clock. -/
theorem pollLoop_atPoint (rounds : Nat) (queue : TimerQueue)
    (point : TimePoint) :
    pollLoop rounds (queue.atPoint point) =
      (pollLoop rounds queue).map (handAt point) := by
  induction rounds generalizing queue with
  | zero => rfl
  | succ rounds induction =>
      simp only [pollLoop, pollRound_atPoint]
      cases queue.pollRound with
      | none => rfl
      | some step =>
          simp only [Option.map_some, handAt, induction step.2]
          cases pollLoop rounds step.2 with
          | none => rfl
          | some rest => rfl

/-- Rounds of the loop compose. -/
theorem pollLoop_add (rounds more : Nat) (queue : TimerQueue) :
    pollLoop (rounds + more) queue =
      (pollLoop rounds queue).bind fun early =>
        (pollLoop more early.2).map fun late =>
          (early.1 ++ late.1, late.2) := by
  induction rounds generalizing queue with
  | zero =>
      simp only [Nat.zero_add, pollLoop, Option.bind_some, List.nil_append]
      exact Option.map_id'.symm
  | succ rounds induction =>
      rw [Nat.succ_add]
      simp only [pollLoop]
      cases queue.pollRound with
      | none => rfl
      | some step =>
          simp only [induction step.2]
          cases pollLoop rounds step.2 with
          | none => rfl
          | some early =>
              simp only [Option.bind_some]
              cases pollLoop more early.2 with
              | none => rfl
              | some late => simp only [Option.map_some, List.append_assoc]

/-- Whole milliseconds by which a clock has been moved. -/
def moved (queue : TimerQueue) (ticks : Nat) : TimePoint :=
  queue.currentPoint + Int64.ofInt (ticks * nanosecondsPerMillisecond)

private theorem pollFirings_eq (queue : TimerQueue) (now : TimePoint) :
    queue.pollFirings now =
      (pollLoop (queue.elapsed now) queue).map
        (handAt (queue.moved (queue.elapsed now))) := by
  unfold pollFirings
  cases looped : pollLoop (queue.elapsed now) queue with
  | none => rfl
  | some handed =>
      simp only [Option.map_some, handAt, atPoint, moved,
        pollLoop_currentPoint looped]

private theorem toInt_max (first second : TimePoint) :
    (max first second).toInt = max first.toInt second.toInt := by
  show (if first ≤ second then second else first).toInt = _
  by_cases order : first ≤ second
  · rw [if_pos order, max_eq_right (Int64.le_iff_toInt_le.mp order)]
  · rw [if_neg order, max_eq_left]
    have before := Int64.lt_iff_toInt_lt.mp (Int64.not_le.mp order)
    omega

/-- Truncation loses nothing: a later poll counts from the whole milliseconds
that the earlier one has moved the clock by. -/
theorem elapsed_add (queue : TimerQueue) (first second : TimePoint) :
    queue.elapsed first +
        (queue.atPoint (queue.moved (queue.elapsed first))).elapsed second =
      queue.elapsed (max first second) := by
  have reached : (queue.moved (queue.elapsed first)).toInt =
      queue.currentPoint.toInt +
        queue.elapsed first * nanosecondsPerMillisecond := by
    rw [moved, point_add_elapsed]
  rw [elapsed_eq _ second, atPoint_currentPoint, reached,
    elapsed_eq queue (max first second), toInt_max, elapsed_eq queue first]
  simp only [nanosecondsPerMillisecond]
  omega

private theorem moved_moved (queue : TimerQueue) (ticks more : Nat) :
    (queue.atPoint (queue.moved ticks)).moved more =
      queue.moved (ticks + more) := by
  simp only [moved, atPoint_currentPoint]
  rw [Nat.cast_add, Int.add_mul, Int64.ofInt_add, Int64.add_assoc]

private theorem elapsed_congr {queue other : TimerQueue}
    (same : queue.currentPoint = other.currentPoint) (now : TimePoint) :
    queue.elapsed now = other.elapsed now := by
  rw [elapsed_eq, elapsed_eq, same]

private theorem moved_congr {queue other : TimerQueue}
    (same : queue.currentPoint = other.currentPoint) (ticks : Nat) :
    queue.moved ticks = other.moved ticks := by
  rw [moved, moved, same]

/-- A poll from a clock that has been moved. -/
theorem pollFirings_atPoint (queue other : TimerQueue) (point now : TimePoint) :
    (other.atPoint point).pollFirings now =
      (pollLoop ((queue.atPoint point).elapsed now) other).map
        (handAt ((queue.atPoint point).moved
          ((queue.atPoint point).elapsed now))) := by
  have clock : (other.atPoint point).currentPoint =
      (queue.atPoint point).currentPoint := by
    rw [atPoint_currentPoint, atPoint_currentPoint]
  rw [pollFirings_eq, elapsed_congr clock, moved_congr clock,
    pollLoop_atPoint, Option.map_map]
  rfl

/-- A loop after a loop, when the clock between them plays no part. -/
theorem bind_handAt
    (again more : TimerQueue → Option (List Firing × TimerQueue))
    {handed : Option (List Firing × TimerQueue)} {point later : TimePoint}
    (same : ∀ next, again (next.atPoint point) =
      (more next).map (handAt later)) :
    ((handed.map (handAt point)).bind fun early =>
        (again early.2).map fun late => (early.1 ++ late.1, late.2)) =
      (handed.bind fun early =>
        (more early.2).map fun late =>
          (early.1 ++ late.1, late.2)).map (handAt later) := by
  cases handed with
  | none => rfl
  | some early =>
      obtain ⟨firings, next⟩ := early
      simp only [Option.map_some, Option.bind_some]
      have after : again (handAt point (firings, next)).2 =
          (more next).map (handAt later) := same next
      rw [after]
      cases more next with
      | none => rfl
      | some late => rfl

/-- Two polls are one. -/
theorem pollFirings_merges (queue : TimerQueue) (first second : TimePoint) :
    Transducer.twice pollFirings queue first second =
      queue.pollFirings (max first second) := by
  rw [pollFirings_eq queue (max first second), ← elapsed_add, pollLoop_add,
    ← moved_moved, Transducer.twice, pollFirings_eq]
  apply bind_handAt fun next => next.pollFirings second
  intro next
  exact pollFirings_atPoint queue next _ second

/-- What a poll returns is made of what it hands out. -/
theorem pollExpired_merges (queue : TimerQueue) (first second : TimePoint) :
    Transducer.twice pollExpired queue first second =
      queue.pollExpired (max first second) := by
  have merged := pollFirings_merges queue first second
  unfold Transducer.twice at merged ⊢
  unfold pollExpired
  rw [← merged]
  cases queue.pollFirings first with
  | none => rfl
  | some early =>
      simp only [Option.map_some, Option.bind_some]
      cases early.2.pollFirings second with
      | none => rfl
      | some late => simp only [Option.map_some, List.map_append]

/-- Polls at any times in a row are one poll at the latest of them, and the
clock of the queue is the time it was constructed at and a millisecond for
each tick. -/
theorem polls_coalesce (queue : TimerQueue) (first : TimePoint)
    (rest : List TimePoint) :
    Transducer.concatenated pollExpired queue (first :: rest) =
        queue.pollExpired (rest.foldl max first) ∧
      ∀ (start : TimePoint) (operations : List TimerOperation)
        (run : TimerRun),
        TimerRun.Reaches TimerRun.anyStep (TimerRun.new start) operations
          run →
        run.queue.currentPoint.toInt =
          start.toInt + run.queue.tick * nanosecondsPerMillisecond := by
  constructor
  · exact Transducer.concatenated_of_merges pollExpired pollExpired_merges
      queue first rest
  · intro start operations run reached
    exact (TimerRun.new_reaches_sound reached).clocked

/-- Three polls, of which one goes back and none is at a whole millisecond,
after a timer of two milliseconds; and one poll of a new queue. -/
theorem polls_coalesce_truncated :
    ((Transducer.concatenated pollExpired
        ((new 500000).scheduleAfter 7 0 2 []).2
        [2100000, 1900000, 2999999]).map Prod.fst =
      (((new 500000).scheduleAfter 7 0 2 []).2.pollExpired 2999999).map
        Prod.fst) ∧
    ∃ run, TimerRun.Reaches TimerRun.anyStep (TimerRun.new 500000)
        [.pollExpired 2999999] run ∧
      run.queue.tick = 2 ∧ run.queue.currentPoint.toInt = 2500000 := by
  have latest : [1900000, 2999999].foldl max (2100000 : TimePoint) =
      2999999 := by decide
  have polls := polls_coalesce ((new 500000).scheduleAfter 7 0 2 []).2
    2100000 [1900000, 2999999]
  constructor
  · rw [polls.1, latest]
  · have sound := new_sound 500000
    have spared : ¬(new 500000).Overtaken 2999999 := by
      rintro ⟨entry, member, _⟩
      rw [pending_new] at member
      cases member
    obtain ⟨run, stepped, ticked, _⟩ :=
      @TimerRun.poll_ok 500000 2999999 (TimerRun.new 500000) sound spared
    have reached : TimerRun.Reaches TimerRun.anyStep (TimerRun.new 500000)
        [.pollExpired 2999999] run :=
      Transition.Execution.single trivial stepped
    have two : run.queue.tick = 2 := ticked
    refine ⟨run, reached, two, ?_⟩
    rw [polls.2 500000 [.pollExpired 2999999] run reached, two]
    rfl

end TimerQueue

end Crynet
