import Crynet.Foundation.Execution
import Crynet.Timer.Operations

/-!
# Runs of the timer queue

A run performs public operations one after the other and records what each of
them answered.  Operation and answer speak about entries and firings; what a
caller sees of them is left to the modules that compare runs.
-/

namespace Crynet

inductive TimerOperation where
  | scheduleAfter (targetHandle : ServiceHandle) (sessionId : SessionId)
      (delay : Int64) (payloadText : Text)
  | cancel (timerId : TimerId)
  | cancelForTarget (targetHandle : ServiceHandle)
  | size
  | pollExpired (now : TimePoint)
  deriving DecidableEq, Repr

inductive TimerAnswer where
  | scheduled (entry : TimerEntry)
  | cancelled (found : Bool)
  | removed (count : Nat)
  | size (count : Nat)
  | polled (firings : List Firing)
  deriving DecidableEq, Repr

namespace TimerAnswer

/-- The entries an answer hands out. -/
def firings : TimerAnswer → List Firing
  | .polled firings => firings
  | _ => []

@[simp] theorem firings_scheduled (entry : TimerEntry) :
    (scheduled entry).firings = [] := rfl

@[simp] theorem firings_polled (firings : List Firing) :
    (polled firings).firings = firings := rfl

end TimerAnswer

namespace TimerQueue

/-- One public operation; no value when it never returns. -/
def perform (queue : TimerQueue) :
    TimerOperation → Option (TimerAnswer × TimerQueue)
  | .scheduleAfter targetHandle sessionId delay payloadText =>
      some (.scheduled
          (queue.newEntry targetHandle sessionId delay payloadText),
        (queue.scheduleAfter targetHandle sessionId delay payloadText).2)
  | .cancel timerId =>
      some (.cancelled (queue.cancel timerId).1, (queue.cancel timerId).2)
  | .cancelForTarget targetHandle =>
      some (.removed (queue.cancelForTarget targetHandle).1,
        (queue.cancelForTarget targetHandle).2)
  | .size => some (.size queue.size, queue)
  | .pollExpired now =>
      (queue.pollFirings now).map fun polled => (.polled polled.1, polled.2)

theorem perform_pollExpired_some
    {queue next : TimerQueue} {now : TimePoint} {answer : TimerAnswer}
    (performed : queue.perform (.pollExpired now) = some (answer, next)) :
    ∃ firings, answer = .polled firings ∧
      queue.pollFirings now = some (firings, next) := by
  obtain ⟨⟨firings, polled⟩, found, same⟩ := Option.map_eq_some_iff.mp performed
  obtain ⟨rfl, rfl⟩ := Prod.mk.inj same
  exact ⟨firings, rfl, found⟩

/-- Whether an operation asks for the removal of an entry. -/
def Removes (entry : TimerEntry) : TimerOperation → Prop
  | .cancel timerId => entry.timerId = timerId
  | .cancelForTarget targetHandle => entry.targetHandle = targetHandle
  | _ => False

/-- The three things an operation can do to the entries. -/
inductive Effect (queue : TimerQueue) :
    TimerOperation → TimerAnswer → TimerQueue → Prop where
  | scheduled (targetHandle : ServiceHandle) (sessionId : SessionId)
      (delay : Int64) (payloadText : Text) :
      Effect queue (.scheduleAfter targetHandle sessionId delay payloadText)
        (.scheduled (queue.newEntry targetHandle sessionId delay payloadText))
        (queue.scheduleAfter targetHandle sessionId delay payloadText).2
  | removed {operation : TimerOperation} {answer : TimerAnswer}
      {next : TimerQueue}
      (kept : ∀ position, ∀ entry ∈ queue.buckets position,
        entry ∈ next.buckets position ∨ Removes entry operation)
      (fewer : ∀ position,
        (next.buckets position).Sublist (queue.buckets position))
      (sameTick : next.currentTick = queue.currentTick)
      (samePoint : next.currentPoint = queue.currentPoint)
      (sameScheduled : next.scheduled = queue.scheduled)
      (silent : answer.firings = []) :
      Effect queue operation answer next
  | polled {now : TimePoint} {firings : List Firing} {next : TimerQueue}
      (polled : queue.pollFirings now = some (firings, next)) :
      Effect queue (.pollExpired now) (.polled firings) next

private theorem effect_cancel (queue : TimerQueue) (timerId : TimerId) :
    Effect queue (.cancel timerId) (.cancelled (queue.cancel timerId).1)
      (queue.cancel timerId).2 := by
  cases cancelled : queue.cancel timerId with
  | mk found next =>
      cases found with
      | false =>
          rw [(cancel_false cancelled).1]
          apply Effect.removed
          · exact fun _ _ member => Or.inl member
          · exact fun _ => List.Sublist.refl _
          all_goals rfl
      | true =>
          obtain ⟨_, _, _, fewer, kept, shape⟩ := cancel_true cancelled
          apply Effect.removed
          · exact kept
          · exact fewer
          · rw [shape]
          · rw [shape]
          · rw [shape]
          · rfl

private theorem effect_cancelForTarget
    (queue : TimerQueue) (targetHandle : ServiceHandle) :
    Effect queue (.cancelForTarget targetHandle)
      (.removed (queue.cancelForTarget targetHandle).1)
      (queue.cancelForTarget targetHandle).2 := by
  apply Effect.removed
  · intro position entry member
    by_cases asked : entry.targetHandle = targetHandle
    · exact Or.inr asked
    · left
      apply List.mem_filter.mpr
      exact ⟨member, bne_iff_ne.mpr asked⟩
  · intro position
    exact List.filter_sublist
  · simp only [cancelForTarget, removeByTarget]
  · simp only [cancelForTarget, removeByTarget]
  · simp only [cancelForTarget, removeByTarget]
  · simp only [TimerAnswer.firings]

theorem perform_effect
    {queue next : TimerQueue} {operation : TimerOperation}
    {answer : TimerAnswer}
    (performed : queue.perform operation = some (answer, next)) :
    Effect queue operation answer next := by
  cases operation with
  | scheduleAfter targetHandle sessionId delay payloadText =>
      obtain ⟨rfl, rfl⟩ := Prod.mk.inj (Option.some.inj performed)
      exact Effect.scheduled targetHandle sessionId delay payloadText
  | cancel timerId =>
      obtain ⟨rfl, rfl⟩ := Prod.mk.inj (Option.some.inj performed)
      exact effect_cancel queue timerId
  | cancelForTarget targetHandle =>
      obtain ⟨rfl, rfl⟩ := Prod.mk.inj (Option.some.inj performed)
      exact effect_cancelForTarget queue targetHandle
  | size =>
      obtain ⟨rfl, rfl⟩ := Prod.mk.inj (Option.some.inj performed)
      apply Effect.removed
      · exact fun _ _ member => Or.inl member
      · exact fun _ => List.Sublist.refl _
      all_goals rfl
  | pollExpired now =>
      obtain ⟨firings, rfl, polled⟩ := perform_pollExpired_some performed
      exact Effect.polled polled

/-- Every operation keeps the invariant. -/
theorem perform_sound
    {start : TimePoint} {queue next : TimerQueue} {operation : TimerOperation}
    {answer : TimerAnswer} (sound : Sound start queue)
    (performed : queue.perform operation = some (answer, next)) :
    Sound start next := by
  cases operation with
  | scheduleAfter targetHandle sessionId delay payloadText =>
      obtain ⟨_, rfl⟩ := Prod.mk.inj (Option.some.inj performed)
      exact scheduleAfter_sound targetHandle sessionId delay payloadText sound
  | cancel timerId =>
      obtain ⟨_, rfl⟩ := Prod.mk.inj (Option.some.inj performed)
      exact cancel_sound sound timerId
  | cancelForTarget targetHandle =>
      obtain ⟨_, rfl⟩ := Prod.mk.inj (Option.some.inj performed)
      exact cancelForTarget_sound sound targetHandle
  | size =>
      obtain ⟨_, rfl⟩ := Prod.mk.inj (Option.some.inj performed)
      exact sound
  | pollExpired now =>
      obtain ⟨firings, _, polled⟩ := perform_pollExpired_some performed
      exact pollFirings_sound sound polled

end TimerQueue

/-- Why a run cannot take a step. -/
inductive Endless where
  | endless
  deriving DecidableEq, Repr

/-- A queue and what it has handed out so far. -/
structure TimerRun where
  queue : TimerQueue
  handedOut : List Firing := []

namespace TimerRun

def new (start : TimePoint) : TimerRun :=
  { queue := TimerQueue.new start }

def step (run : TimerRun) (operation : TimerOperation) :
    Except Endless TimerRun :=
  match run.queue.perform operation with
  | none => .error .endless
  | some (answer, next) =>
      .ok { queue := next, handedOut := run.handedOut ++ answer.firings }

abbrev anyStep (_ : TimerRun) (_ : TimerOperation) : Prop := True

/-- The runs of a queue constructed at `start` whose steps are permitted. -/
abbrev Reaches (permitted : TimerRun → TimerOperation → Prop)
    (start : TimerRun) (operations : List TimerOperation) (run : TimerRun) :
    Prop :=
  Transition.Execution (Transition.returning step) permitted start operations
    run

theorem step_ok
    {run next : TimerRun} {operation : TimerOperation}
    (stepped : run.step operation = .ok next) :
    ∃ answer, run.queue.perform operation = some (answer, next.queue) ∧
      next.handedOut = run.handedOut ++ answer.firings := by
  unfold step at stepped
  cases performed : run.queue.perform operation with
  | none => simp [performed] at stepped
  | some result =>
      obtain ⟨answer, queue⟩ := result
      simp only [performed, Except.ok.injEq] at stepped
      subst stepped
      exact ⟨answer, rfl, rfl⟩

theorem step_sound
    {start : TimePoint} {run next : TimerRun} {operation : TimerOperation}
    (sound : run.queue.Sound start)
    (stepped : run.step operation = .ok next) :
    next.queue.Sound start := by
  obtain ⟨answer, performed, _⟩ := step_ok stepped
  exact TimerQueue.perform_sound sound performed

variable {permitted : TimerRun → TimerOperation → Prop}

/-- Every state a run reaches from a sound one is sound. -/
theorem reaches_sound
    {start : TimePoint} {first run : TimerRun}
    {operations : List TimerOperation}
    (initially : first.queue.Sound start)
    (reached : Reaches permitted first operations run) :
    run.queue.Sound start :=
  reached.invariant (fun run => run.queue.Sound start) initially
    fun _ _ _ sound _ stepped => step_sound sound stepped

theorem new_reaches_sound
    {start : TimePoint} {run : TimerRun} {operations : List TimerOperation}
    (reached : Reaches permitted (new start) operations run) :
    run.queue.Sound start :=
  reaches_sound (TimerQueue.new_sound start) reached

end TimerRun

end Crynet
