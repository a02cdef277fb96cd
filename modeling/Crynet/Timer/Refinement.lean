import Crynet.Foundation.Transducer
import Crynet.Timer.Termination
import Crynet.Timer.TimerList

/-!
# The wheel refines the timer list

While expire ticks stay below 2^32 the idle bucket stays empty and no entry is
overtaken, so the wheel answers every operation the way the timer list does.
-/

namespace Crynet

namespace TimerQueue

/-- How the timer list shows an entry. -/
def listed (entry : TimerEntry) : ListedTimer :=
  { timerId := entry.serial + 1
    targetHandle := entry.targetHandle
    sessionId := entry.sessionId
    expire := entry.expire
    payloadText := entry.payloadText }

/-- The relation between a wheel and the list it implements. -/
structure Represents (start : TimePoint) (queue : TimerQueue)
    (list : TimerList) : Prop where
  sound : Sound start queue
  awake : queue.buckets idleBucket = []
  near : ∀ entry ∈ queue.pending, entry.expire < 2 ^ 32
  few : queue.scheduled < 2 ^ 64
  tick : list.tick = queue.tick
  point : list.point = queue.currentPoint.toInt
  nextTimerId : list.nextTimerId = queue.scheduled + 1
  pending : (list.pending : Multiset ListedTimer) = queue.pending.map listed

namespace Represents

variable {start : TimePoint} {queue : TimerQueue} {list : TimerList}

theorem new (start : TimePoint) :
    Represents start (TimerQueue.new start) (TimerList.new start) where
  sound := new_sound start
  awake := rfl
  near := by simp [pending_new]
  few := by
    show 0 < 2 ^ 64
    decide
  tick := rfl
  point := rfl
  nextTimerId := rfl
  pending := by
    rw [pending_new]
    rfl

private theorem timerId_eq (represents : Represents start queue list)
    {entry : TimerEntry} (member : entry ∈ queue.pending) :
    entry.timerId.toNat = entry.serial + 1 := by
  obtain ⟨below, named⟩ := represents.sound.numbered entry member
  have bound := represents.few
  rw [named, UInt64.toNat_ofNat']
  exact Nat.mod_eq_of_lt (by omega)

/-- Nothing pending is ever overtaken. -/
theorem not_overtaken (represents : Represents start queue list)
    (now : TimePoint) : ¬queue.Overtaken now := by
  rintro ⟨entry, member, current, _, _, _, _, same, ahead⟩
  have bound := represents.near entry member
  have few : entry.expire / topSpan < 64 := by
    apply (Nat.div_lt_iff_lt_mul (by decide)).mpr
    exact bound
  rw [Nat.mod_eq_of_lt few, Nat.mod_eq_of_lt (ahead.trans few)] at same
  exact Nat.ne_of_gt ahead same

private theorem size_eq (represents : Represents start queue list) :
    queue.size = list.pending.length := by
  rw [size, represents.sound.counted, ← Multiset.coe_card,
    represents.pending, Multiset.card_map]

/-- Removing entries from both sides. -/
theorem of_removed
    {next : TimerQueue} {kept : List ListedTimer}
    (represents : Represents start queue list) (sound : Sound start next)
    (fewer : ∀ position,
      (next.buckets position).Sublist (queue.buckets position))
    (sameTick : next.currentTick = queue.currentTick)
    (samePoint : next.currentPoint = queue.currentPoint)
    (sameScheduled : next.scheduled = queue.scheduled)
    (remaining : (kept : Multiset ListedTimer) = next.pending.map listed) :
    Represents start next { list with pending := kept } where
  sound := sound
  awake := by
    have empty := fewer idleBucket
    rw [represents.awake] at empty
    exact List.sublist_nil.mp empty
  near := by
    intro entry member
    obtain ⟨position, inBucket⟩ := mem_pending.mp member
    apply represents.near entry
    exact mem_pending.mpr ⟨position, (fewer position).subset inBucket⟩
  few := by
    rw [sameScheduled]
    exact represents.few
  tick := by
    rw [TimerQueue.tick, sameTick]
    exact represents.tick
  point := by
    rw [samePoint]
    exact represents.point
  nextTimerId := by
    rw [sameScheduled]
    exact represents.nextTimerId
  pending := remaining

end Represents

variable {start : TimePoint} {queue : TimerQueue} {list : TimerList}

private theorem simulates_scheduleAfter
    (represents : Represents start queue list)
    (targetHandle : ServiceHandle) (sessionId : SessionId) (delay : Int64)
    (payloadText : Text)
    (allowed : list.InRange
      (.scheduleAfter targetHandle sessionId delay payloadText)) :
    (queue.newEntry targetHandle sessionId delay payloadText).timerId.toNat =
        list.nextTimerId ∧
      Represents start
        (queue.scheduleAfter targetHandle sessionId delay payloadText).2
        (list.perform
          (.scheduleAfter targetHandle sessionId delay payloadText)).2 := by
  have bound : (list.newTimer targetHandle sessionId delay
      payloadText).expire < 2 ^ 32 := allowed.1
  have numbers : list.nextTimerId < 2 ^ 64 := allowed.2
  have small := represents.sound.tick_lt
  have expires := queue.newEntry_expire targetHandle sessionId delay
    payloadText (by omega)
  have sameExpire :
      (queue.newEntry targetHandle sessionId delay payloadText).expire =
        (list.newTimer targetHandle sessionId delay payloadText).expire := by
    rw [expires, TimerList.newTimer, represents.tick]
  have added :=
    queue.scheduleAfter_pending targetHandle sessionId delay payloadText
  have number := represents.nextTimerId
  have shown :
      listed (queue.newEntry targetHandle sessionId delay payloadText) =
        list.newTimer targetHandle sessionId delay payloadText := by
    rw [listed, sameExpire]
    simp only [newEntry, TimerList.newTimer, number]
  constructor
  · show queue.nextTimerId.toNat = list.nextTimerId
    rw [represents.sound.nextNumber, number, UInt64.toNat_ofNat']
    exact Nat.mod_eq_of_lt (by omega)
  · exact {
      sound := scheduleAfter_sound _ _ _ _ represents.sound
      awake := by
        apply List.eq_nil_iff_forall_not_mem.mpr
        intro entry member
        rcases mem_addEntry.mp member with old | ⟨_, idle⟩
        · rw [represents.awake] at old
          cases old
        · rw [bucketFor_eq] at idle
          apply seat_ne_idle_of_small _ _ idle.symm
          · show queue.tick ≤ TimerEntry.expire _
            rw [expires]
            exact Nat.le_add_right _ _
          · rw [← sameExpire] at bound
            exact bound
      near := by
        intro entry member
        rw [added] at member
        rcases Multiset.mem_cons.mp member with new | old
        · rw [new, sameExpire]
          exact bound
        · exact represents.near entry old
      few := by
        show queue.scheduled + 1 < 2 ^ 64
        rw [← number]
        exact numbers
      tick := represents.tick
      point := represents.point
      nextTimerId := by
        show list.nextTimerId + 1 = queue.scheduled + 1 + 1
        rw [number]
      pending := by
        rw [added, Multiset.map_cons, shown, ← represents.pending]
        show ((list.pending ++ [_] : List ListedTimer) :
          Multiset ListedTimer) = _
        rw [← Multiset.coe_add, Multiset.coe_singleton, add_comm,
          Multiset.singleton_add] }

private theorem simulates_cancel
    (represents : Represents start queue list) (timerId : TimerId) :
    (queue.cancel timerId).1 =
        (list.pending.any fun timer => timer.timerId == timerId.toNat) ∧
      Represents start (queue.cancel timerId).2
        (list.perform (.cancel timerId)).2 := by
  have sound := cancel_sound represents.sound timerId
  have found : (list.pending.any fun timer =>
      timer.timerId == timerId.toNat) = true ↔
        ∃ entry ∈ queue.pending, entry.timerId = timerId := by
    rw [List.any_eq_true]
    constructor
    · rintro ⟨timer, member, same⟩
      rw [← Multiset.mem_coe, represents.pending] at member
      obtain ⟨entry, inQueue, rfl⟩ := Multiset.mem_map.mp member
      refine ⟨entry, inQueue, ?_⟩
      apply UInt64.toNat_inj.mp
      rw [represents.timerId_eq inQueue]
      exact beq_iff_eq.mp same
    · rintro ⟨entry, inQueue, same⟩
      refine ⟨listed entry, ?_, ?_⟩
      · rw [← Multiset.mem_coe, represents.pending]
        exact Multiset.mem_map_of_mem listed inQueue
      · rw [← same, represents.timerId_eq inQueue]
        exact beq_self_eq_true _
  have remains : ((list.pending.filter fun timer =>
      timer.timerId ≠ timerId.toNat : List ListedTimer) :
        Multiset ListedTimer) =
      (queue.pending.filter fun entry => entry.timerId ≠ timerId).map
        listed := by
    rw [← Multiset.filter_coe, represents.pending, Multiset.filter_map]
    apply congrArg (Multiset.map listed)
    apply Multiset.filter_congr
    intro entry member
    rw [Function.comp_apply, listed, ← represents.timerId_eq member, Ne,
      UInt64.toNat_inj]
  cases cancelled : queue.cancel timerId with
  | mk answer next =>
      rw [cancelled] at sound
      cases answer with
      | false =>
          obtain ⟨rfl, absent⟩ := cancel_false cancelled
          constructor
          · apply Eq.symm
            apply Bool.eq_false_iff.mpr
            intro present
            obtain ⟨entry, member, same⟩ := found.mp present
            exact absent entry member same
          · apply represents.of_removed sound
            · exact fun _ => List.Sublist.refl _
            · rfl
            · rfl
            · rfl
            · rw [remains, Multiset.filter_eq_self.mpr absent]
      | true =>
          obtain ⟨entry, named, conserved, fewer, _, shape⟩ :=
            cancel_true cancelled
          have inQueue : entry ∈ queue.pending := by
            rw [conserved]
            exact Multiset.mem_cons_self _ _
          have others : ∀ other ∈ next.pending, other.timerId ≠ timerId := by
            intro other member same
            have inBoth : other ∈ queue.pending := by
              rw [conserved]
              exact Multiset.mem_cons_of_mem member
            have sameSerial : entry.serial = other.serial := by
              have first := represents.timerId_eq inQueue
              have second := represents.timerId_eq inBoth
              rw [named] at first
              rw [same] at second
              omega
            have distinct := represents.sound.distinct
            rw [conserved, Multiset.map_cons, Multiset.nodup_cons] at distinct
            apply distinct.1
            rw [sameSerial]
            exact Multiset.mem_map_of_mem _ member
          constructor
          · exact (found.mpr ⟨entry, inQueue, named⟩).symm
          · apply represents.of_removed sound fewer
            · rw [shape]
            · rw [shape]
            · rw [shape]
            · rw [remains, conserved, Multiset.filter_cons_of_neg,
                Multiset.filter_eq_self.mpr others]
              exact fun different => different named

private theorem simulates_cancelForTarget
    (represents : Represents start queue list)
    (targetHandle : ServiceHandle) :
    (queue.cancelForTarget targetHandle).1 =
        (list.pending.countP fun timer =>
          timer.targetHandle = targetHandle) ∧
      Represents start (queue.cancelForTarget targetHandle).2
        (list.perform (.cancelForTarget targetHandle)).2 := by
  constructor
  · rw [cancelForTarget_removed, ← Multiset.coe_countP, represents.pending,
      Multiset.countP_map, Multiset.countP_eq_card_filter]
    rfl
  · apply represents.of_removed
      (cancelForTarget_sound represents.sound targetHandle)
    · exact fun _ => List.filter_sublist
    · simp only [cancelForTarget, removeByTarget]
    · simp only [cancelForTarget, removeByTarget]
    · simp only [cancelForTarget, removeByTarget]
    · rw [← Multiset.filter_coe, represents.pending, Multiset.filter_map,
        cancelForTarget_pending]
      rfl

/-- A poll hands out what the list calls due, and leaves what it calls
waiting. -/
theorem simulates_pollExpired
    (represents : Represents start queue list) (now : TimePoint) :
    ∃ firings next, queue.pollFirings now = some (firings, next) ∧
      firings.map (fun firing => firing.entry.message) =
        (list.poll now).1.map ListedTimer.message ∧
      Represents start next (list.poll now).2 := by
  have sound := represents.sound
  have sameElapsed : list.elapsed now = queue.elapsed now := by
    rw [elapsed_eq, TimerList.elapsed, represents.point]
  by_cases still : queue.elapsed now = 0
  · refine ⟨[], queue, pollFirings_still still, ?_, ?_⟩
    · rw [TimerList.poll, if_pos (sameElapsed.trans still)]
      rfl
    · rw [TimerList.poll, if_pos (sameElapsed.trans still)]
      exact represents
  · have moved : list.elapsed now ≠ 0 := by
      rw [sameElapsed]
      exact still
    have ends : queue.pollFirings now ≠ none := by
      intro endless
      apply represents.not_overtaken now
      apply (pollExpired_none_iff sound now).mp
      rw [pollExpired, endless]
      rfl
    obtain ⟨⟨firings, next⟩, polled⟩ := Option.ne_none_iff_exists'.mp ends
    obtain ⟨sweep, reached, quiet⟩ := pollFirings_some sound polled
    have later := quiet (Nat.pos_of_ne_zero still)
    have target : list.tick + list.elapsed now = next.tick := by
      rw [represents.tick, sameElapsed, sweep.tick]
    have awake : next.buckets idleBucket = [] := by
      rw [sweep.idle, represents.awake]
    have split : (list.pending : Multiset ListedTimer) =
        (((firings.map Firing.entry).map listed : List ListedTimer) :
          Multiset ListedTimer) + next.pending.map listed := by
      rw [represents.pending, sweep.conserved, Multiset.map_add,
        Multiset.map_coe]
    have expired : ∀ timer ∈ (firings.map Firing.entry).map listed,
        timer.expire ≤ next.tick := by
      intro timer member
      obtain ⟨entry, inFirings, rfl⟩ := List.mem_map.mp member
      obtain ⟨firing, fired, rfl⟩ := List.mem_map.mp inFirings
      obtain ⟨same, _, upper⟩ := sweep.due firing fired
      show firing.entry.expireTick.toNat ≤ next.tick
      rw [same]
      exact upper
    have unexpired : ∀ timer ∈ next.pending.map listed,
        next.tick < timer.expire := by
      intro timer member
      obtain ⟨entry, kept, rfl⟩ := Multiset.mem_map.mp member
      obtain ⟨position, inBucket⟩ := mem_pending.mp kept
      have elsewhere : position ≠ idleBucket := by
        intro idle
        rw [idle, awake] at inBucket
        cases inBucket
      exact later position elsewhere entry inBucket
    have ordered : ((firings.map Firing.entry).map listed).Pairwise
        (Deadlines.Before ListedTimer.expire ListedTimer.timerId) := by
      apply List.pairwise_map.mpr
      apply (sweep.firingsOrdered sound.ordered).imp
      intro first second precedes
      rcases precedes with earlier | ⟨together, lower⟩
      · exact Or.inl earlier
      · exact Or.inr ⟨together, Nat.succ_lt_succ lower⟩
    have due := Deadlines.due_eq split expired unexpired ordered
    have waiting := Deadlines.waiting_eq split expired unexpired
    refine ⟨firings, next, polled, ?_, ?_⟩
    · rw [TimerList.poll, if_neg moved]
      show _ = List.map _ (Deadlines.due _ _ (list.tick + list.elapsed now) _)
      rw [target, due, List.map_map, List.map_map]
      rfl
    · rw [TimerList.poll, if_neg moved]
      exact {
        sound := pollFirings_sound sound polled
        awake := awake
        near := by
          intro entry member
          apply represents.near entry
          rw [sweep.conserved]
          exact Multiset.mem_add.mpr (Or.inr member)
        few := by
          rw [sweep.sameScheduled]
          exact represents.few
        tick := target
        point := by
          show list.point + list.elapsed now * 1000000 = _
          rw [reached, represents.point, sameElapsed]
          rfl
        nextTimerId := by
          rw [sweep.sameScheduled]
          exact represents.nextTimerId
        pending := by
          simp only [target]
          exact waiting }

/-- One operation of the wheel is answered like the one of the list. -/
theorem simulates
    (represents : Represents start queue list) {operation : TimerOperation}
    (allowed : list.InRange operation) :
    ∃ answer next specNext, queue.react operation = some (answer, next) ∧
      list.react operation = some (answer, specNext) ∧
      Represents start next specNext := by
  cases operation with
  | scheduleAfter targetHandle sessionId delay payloadText =>
      obtain ⟨sameId, kept⟩ := simulates_scheduleAfter represents
        targetHandle sessionId delay payloadText allowed
      refine ⟨.scheduled list.nextTimerId, _, _, ?_, rfl, kept⟩
      rw [← sameId]
      rfl
  | cancel timerId =>
      obtain ⟨same, kept⟩ := simulates_cancel represents timerId
      refine ⟨.cancelled (queue.cancel timerId).1, _, _, rfl, ?_, kept⟩
      rw [same]
      rfl
  | cancelForTarget targetHandle =>
      obtain ⟨same, kept⟩ :=
        simulates_cancelForTarget represents targetHandle
      refine ⟨.removed (queue.cancelForTarget targetHandle).1, _, _, ?_, ?_,
        kept⟩
      · simp only [react, perform, Option.map_some, TimerAnswer.visible]
      · rw [same]
        rfl
  | size =>
      refine ⟨.size queue.size, queue, list, rfl, ?_, represents⟩
      rw [represents.size_eq]
      rfl
  | pollExpired now =>
      obtain ⟨firings, next, polled, same, kept⟩ :=
        simulates_pollExpired represents now
      refine ⟨.polled (firings.map fun firing => firing.entry.message), next,
        (list.poll now).2, ?_, ?_, kept⟩
      · simp [react, perform, polled, TimerAnswer.visible]
      · rw [same]
        rfl

/-- From construction on, while expire ticks stay below 2^32 and fewer than
2^64 timers are set, the wheel answers like the timer list. -/
theorem answers_like_timerList
    (start : TimePoint) (operations : List TimerOperation)
    (inRange : Transducer.Admissible TimerList.react TimerList.InRange
      (TimerList.new start) operations) :
    ∃ given, ((Transducer.answers react (new start) operations).map Prod.fst) =
        some given ∧
      ((Transducer.answers TimerList.react (TimerList.new start)
        operations).map Prod.fst) = some given := by
  obtain ⟨given, final, specFinal, answered, specAnswered, _⟩ :=
    Transducer.answers_of_simulation react TimerList.react
      TimerList.InRange (Represents start)
      (fun _ _ _ represents allowed => simulates represents allowed)
      (Represents.new start) inRange
  refine ⟨given, ?_, ?_⟩
  · rw [answered]
    rfl
  · rw [specAnswered]
    rfl

theorem answers_like_timerList_second :
    (Transducer.answers react (new 0)
      [.scheduleAfter 1 0 300 [], .pollExpired 1000000000]).map Prod.fst =
        some [.scheduled 1, .polled [Message.fromText .timer 0 1 0 []]] := by
  have inRange : Transducer.Admissible TimerList.react TimerList.InRange
      (TimerList.new 0)
      [.scheduleAfter 1 0 300 [], .pollExpired 1000000000] := by
    have expires : 0 + (Int64.toInt 300).toNat < 2 ^ 32 := by decide
    have number : 1 < 2 ^ 64 := by decide
    refine ⟨⟨expires, number⟩, ?_⟩
    intro _ _ _
    exact ⟨⟨trivial, trivial⟩, fun _ _ _ => trivial⟩
  obtain ⟨given, answered, specAnswered⟩ := answers_like_timerList 0 _ inRange
  have expected : (Transducer.answers TimerList.react (TimerList.new 0)
      [.scheduleAfter 1 0 300 [], .pollExpired 1000000000]).map Prod.fst =
        some [.scheduled 1, .polled [Message.fromText .timer 0 1 0 []]] := by
    decide
  rw [answered, ← specAnswered, expected]

section Wrap

/-- A timer that is set and cancelled. -/
def passing : List TimerOperation :=
  [.scheduleAfter 2 0 0 [], .cancelForTarget 2]

/-- One timer stays, and then many are set and cancelled one by one. -/
def passings (count : Nat) : List TimerOperation :=
  .scheduleAfter 1 0 0 [] :: (List.replicate count passing).flatten

private theorem inRange_passing (count : Nat) {list : TimerList}
    (still : list.tick = 0) (room : list.nextTimerId + count ≤ 2 ^ 64) :
    Transducer.Admissible TimerList.react TimerList.InRange list
      (List.replicate count passing).flatten := by
  induction count generalizing list with
  | zero => trivial
  | succ count induction =>
      have soon : list.tick + Int.toNat 0 < 2 ^ 32 := by
        rw [still]
        decide
      refine ⟨⟨soon, by show list.nextTimerId < 2 ^ 64; omega⟩, ?_⟩
      intro _ _ scheduled
      obtain ⟨_, rfl⟩ := Prod.mk.inj (Option.some.inj scheduled)
      refine ⟨⟨trivial, trivial⟩, ?_⟩
      intro _ _ cancelled
      obtain ⟨_, rfl⟩ := Prod.mk.inj (Option.some.inj cancelled)
      refine induction ?_ ?_
      · exact still
      · show list.nextTimerId + 1 + count ≤ 2 ^ 64
        omega

/-- What is cancelled at once leaves nothing behind but its number. -/
private theorem list_answers_passing (count : Nat) {list : TimerList}
    (others : ∀ timer ∈ list.pending, timer.targetHandle ≠ 2) :
    ∃ given, Transducer.answers TimerList.react list
      (List.replicate count passing).flatten =
        some (given, { list with nextTimerId := list.nextTimerId + count }) := by
  induction count generalizing list with
  | zero => exact ⟨[], rfl⟩
  | succ count induction =>
      have kept : (list.pending ++ [list.newTimer 2 0 0 []]).filter
          (fun timer => timer.targetHandle ≠ 2) = list.pending := by
        have gone : [list.newTimer 2 0 0 []].filter
            (fun timer => timer.targetHandle ≠ 2) = [] := rfl
        have stays : list.pending.filter
            (fun timer => timer.targetHandle ≠ 2) = list.pending := by
          apply List.filter_eq_self.mpr
          intro timer member
          exact decide_eq_true (others timer member)
        rw [List.filter_append, gone, stays, List.append_nil]
      have after : ((list.perform (.scheduleAfter 2 0 0 [])).2.perform
          (.cancelForTarget 2)).2 =
            { list with nextTimerId := list.nextTimerId + 1 } := by
        simp only [TimerList.perform, kept]
      obtain ⟨given, rest⟩ := @induction
        { list with nextTimerId := list.nextTimerId + 1 } others
      have numbers : list.nextTimerId + (count + 1) =
          list.nextTimerId + 1 + count := by omega
      have cancelled : Transducer.answers TimerList.react
          ((list.perform (.scheduleAfter 2 0 0 [])).2.perform
            (.cancelForTarget 2)).2 (List.replicate count passing).flatten =
          some (given,
            { list with nextTimerId := list.nextTimerId + (count + 1) }) := by
        rw [after, numbers]
        exact rest
      have scheduled := Transducer.answers_cons
        (show TimerList.react (list.perform (.scheduleAfter 2 0 0 [])).2
          (.cancelForTarget 2) = some (_, _) from rfl) cancelled
      exact ⟨_, Transducer.answers_cons rfl scheduled⟩

private theorem expiresSoon_passings (count : Nat) :
    Transducer.Admissible TimerList.react TimerList.ExpiresSoon
      (TimerList.new 0)
      (passings count ++ [.scheduleAfter 2 0 0 [], .scheduleAfter 2 0 0 []]) := by
  have admissible : ∀ (operations : List TimerOperation) (list : TimerList),
      list.tick = 0 →
      (∀ operation ∈ operations, ∃ target,
        operation = .scheduleAfter target 0 0 [] ∨
          operation = .cancelForTarget target) →
      Transducer.Admissible TimerList.react TimerList.ExpiresSoon list
        operations := by
    intro operations
    induction operations with
    | nil => exact fun _ _ _ => trivial
    | cons operation operations induction =>
        intro list still brief
        have later : ∀ next : TimerList, next.tick = 0 →
            Transducer.Admissible TimerList.react TimerList.ExpiresSoon next
              operations := fun next same => induction next same
          fun other member => brief other (List.mem_cons_of_mem _ member)
        obtain ⟨target, rfl | rfl⟩ := brief operation List.mem_cons_self
        · refine ⟨?_, ?_⟩
          · show list.tick + Int.toNat 0 < 2 ^ 32
            rw [still]
            decide
          · intro _ next performed
            obtain ⟨_, rfl⟩ := Prod.mk.inj (Option.some.inj performed)
            exact later _ still
        · refine ⟨trivial, ?_⟩
          intro _ next performed
          obtain ⟨_, rfl⟩ := Prod.mk.inj (Option.some.inj performed)
          exact later _ still
  apply admissible _ _ rfl
  intro operation member
  simp only [passings, passing, List.cons_append, List.mem_cons,
    List.mem_append, List.mem_flatten, List.mem_replicate] at member
  rcases member with rfl | ⟨_, ⟨_, rfl⟩, inside⟩ | rfl | rfl | none
  · exact ⟨1, Or.inl rfl⟩
  · rcases List.mem_cons.mp inside with rfl | inside
    · exact ⟨2, Or.inl rfl⟩
    · obtain rfl := List.mem_singleton.mp inside
      exact ⟨2, Or.inr rfl⟩
  · exact ⟨2, Or.inl rfl⟩
  · exact ⟨2, Or.inl rfl⟩
  · cases none

/-- After 2^64 schedule calls the wheel gives out a number for the second time
while the first timer that has it is still pending, one of three; the list does
not. -/
theorem timerId_reused :
    Transducer.Admissible TimerList.react TimerList.ExpiresSoon
        (TimerList.new 0) (passings (2 ^ 64 - 2) ++
          [.scheduleAfter 2 0 0 [], .scheduleAfter 2 0 0 []]) ∧
      ∃ given specGiven final specFinal,
        Transducer.answers react (new 0) (passings (2 ^ 64 - 2) ++
          [.scheduleAfter 2 0 0 [], .scheduleAfter 2 0 0 []]) =
            some (given, final) ∧
        Transducer.answers TimerList.react (TimerList.new 0)
          (passings (2 ^ 64 - 2) ++
            [.scheduleAfter 2 0 0 [], .scheduleAfter 2 0 0 []]) =
            some (specGiven, specFinal) ∧
        given.head? = some (.scheduled 1) ∧
        given.getLast? = some (.scheduled 1) ∧ final.size = 3 ∧
        specGiven.getLast? = some (.scheduled (2 ^ 64 + 1)) := by
  have inRange : Transducer.Admissible TimerList.react TimerList.InRange
      (TimerList.new 0) (passings (2 ^ 64 - 2)) := by
    have soon : 0 + Int.toNat 0 < 2 ^ 32 := by decide
    have number : 1 < 2 ^ 64 := by decide
    refine ⟨⟨soon, number⟩, ?_⟩
    intro _ _ scheduled
    obtain ⟨_, rfl⟩ := Prod.mk.inj (Option.some.inj scheduled)
    exact inRange_passing _ rfl (by decide)
  obtain ⟨given, queue, list, answered, specAnswered, represents⟩ :=
    Transducer.answers_of_simulation react TimerList.react TimerList.InRange
      (Represents 0)
      (fun _ _ _ represents allowed => simulates represents allowed)
      (Represents.new 0) inRange
  obtain ⟨later, passed⟩ := @list_answers_passing (2 ^ 64 - 2)
    ((TimerList.new 0).perform (.scheduleAfter 1 0 0 [])).2 (by decide)
  have whole : Transducer.answers TimerList.react (TimerList.new 0)
      (passings (2 ^ 64 - 2)) = some (.scheduled 1 :: later,
        { ((TimerList.new 0).perform (.scheduleAfter 1 0 0 [])).2 with
          nextTimerId := 2 + (2 ^ 64 - 2) }) := by
    exact Transducer.answers_cons rfl passed
  rw [whole] at specAnswered
  obtain ⟨rfl, rfl⟩ := Prod.mk.inj (Option.some.inj specAnswered)
  have counter : queue.nextTimerId = 0 := by
    rw [represents.sound.nextNumber, ← represents.nextTimerId]
    rfl
  have second : queue.react (.scheduleAfter 2 0 0 []) =
      some (.scheduled 0, (queue.scheduleAfter 2 0 0 []).2) := by
    rw [show (0 : Nat) = queue.nextTimerId.toNat by rw [counter]; rfl]
    rfl
  have third : (queue.scheduleAfter 2 0 0 []).2.react (.scheduleAfter 2 0 0 []) =
      some (.scheduled 1,
        ((queue.scheduleAfter 2 0 0 []).2.scheduleAfter 2 0 0 []).2) := by
    rw [show (1 : Nat) = (queue.nextTimerId + 1).toNat by rw [counter]; rfl]
    rfl
  have sized : ((queue.scheduleAfter 2 0 0 []).2.scheduleAfter 2 0 0
      []).2.size = 3 := by
    have sound := scheduleAfter_sound 2 0 0 []
      (scheduleAfter_sound 2 0 0 [] represents.sound)
    have one : queue.pending.card = 1 := by
      rw [← represents.sound.counted]
      exact represents.size_eq
    rw [size, sound.counted, scheduleAfter_pending, Multiset.card_cons,
      scheduleAfter_pending, Multiset.card_cons, one]
  refine ⟨expiresSoon_passings _, _, _, _, _,
    (Transducer.answers_append react answered).trans (congrArg _
      (Transducer.answers_cons second (Transducer.answers_cons third rfl))),
    Transducer.answers_append TimerList.react whole, ?_⟩
  have ends : ∀ (before : List VisibleAnswer) (other last : VisibleAnswer),
      (before ++ [other, last]).getLast? = some last := by
    simp
  exact ⟨rfl, ends _ _ _, sized, ends _ _ _⟩

end Wrap

end TimerQueue

end Crynet
