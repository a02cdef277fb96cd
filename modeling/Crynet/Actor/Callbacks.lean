import Crynet.Actor.Conservation
import Crynet.Actor.FifoDelivery
import Crynet.Actor.Slots

/-!
# Calls whose callbacks are known

A call of a dispatch operation, seen from the program that makes it, runs until
no callback is left.  Here the program says what its callbacks do.  When they
only return, every call comes to its end: each return brings the messages that
are still to be handled closer to it, and `run_until_idle` can count on at least
one message for each batch it has executed.
-/

namespace Crynet

open Mailbox (tally Entry)

namespace Machine

/-- Let callbacks act, one after the other, until the call has returned. -/
def serve (acts : Machine → List Action) :
    Nat → Machine → Except Fault Machine
  | 0, machine => .ok machine
  | rounds + 1, machine =>
      if machine.stack = [] then
        .ok machine
      else
        match Transition.runSteps step machine (acts machine) with
        | .error fault => .error fault
        | .ok next => serve acts rounds next

/-- A call, from its beginning to its end. -/
def perform (acts : Machine → List Action) (rounds : Nat) (machine : Machine)
    (action : Action) : Except Fault Machine :=
  match machine.step action with
  | .error fault => .error fault
  | .ok next => next.serve acts rounds

end Machine

namespace ActorSystem

/-- Between these systems so many messages have been handled, and none has been
sent or thrown away. -/
structure Handles (count : Nat) (system next : ActorSystem) : Prop where
  accepted : ∀ handle, Mailbox.acceptedFor handle next.history =
    Mailbox.acceptedFor handle system.history
  passed :
    tally Entry.passed next.history = tally Entry.passed system.history
  refused :
    tally Entry.refusals next.history = tally Entry.refusals system.history
  wasted : tally Entry.waste next.history = tally Entry.waste system.history
  handled : tally Entry.handlings next.history =
    tally Entry.handlings system.history + count

variable {system next final : ActorSystem} {first second : Nat}

theorem Handles.of_history (same : next.history = system.history) :
    system.Handles 0 next := by
  constructor
  · intro handle
    rw [same]
  all_goals rw [same]
  rfl

theorem Handles.trans (before : system.Handles first next)
    (after : next.Handles second final) :
    system.Handles (first + second) final where
  accepted handle := (after.accepted handle).trans (before.accepted handle)
  passed := after.passed.trans before.passed
  refused := after.refused.trans before.refused
  wasted := after.wasted.trans before.wasted
  handled := by
    rw [after.handled, before.handled, Nat.add_assoc]

private theorem Handles.of_delivered {handle : ServiceHandle} {message : Message}
    {running : Bool}
    (written : next.history =
      system.history ++ [.delivered handle message running]) :
    system.Handles 0 next := by
  constructor
  · intro other
    rw [written, Mailbox.acceptedFor_append]
    exact List.append_nil _
  all_goals
    rw [written, Mailbox.tally_append, Mailbox.tally_singleton]
    rfl

private theorem Handles.of_handled {handle : ServiceHandle} {message : Message}
    (written : next.history = system.history ++ [.handled handle message]) :
    system.Handles 1 next := by
  constructor
  · intro other
    rw [written, Mailbox.acceptedFor_append]
    exact List.append_nil _
  all_goals
    rw [written, Mailbox.tally_append, Mailbox.tally_singleton]
    rfl

/-- A batch handles nothing on its way to the next callback. -/
theorem continueBatch_handles (system : ActorSystem) (batch : Batch)
    (service : ServiceSlot) :
    system.Handles 0 (system.continueBatch batch service).2 ∧
      ∀ activation, (system.continueBatch batch service).1 = some activation →
        activation.batch = batch := by
  unfold continueBatch
  split
  · split
    · refine ⟨.of_history rfl, ?_⟩
      intro activation found
      cases found
    · simp only
      split
      · refine ⟨.of_history rfl, ?_⟩
        rintro activation ⟨⟩
        rfl
      · refine ⟨.of_delivered rfl, ?_⟩
        rintro activation ⟨⟩
        rfl
  · refine ⟨.of_history rfl, ?_⟩
    intro activation found
    cases found

private theorem startBatch_handles (system : ActorSystem)
    (maxMessagesPerService : Nat) (observed : Bool) (caller : Caller) :
    system.Handles 0
        (system.startBatch maxMessagesPerService observed caller).2 ∧
      ∀ activation,
        (system.startBatch maxMessagesPerService observed caller).1 =
          some activation →
        activation.batch.caller = caller ∧ activation.batch.dispatched = 0 := by
  unfold startBatch
  split
  · refine ⟨.of_history rfl, ?_⟩
    intro activation found
    cases found
  · split
    · refine ⟨.of_history rfl, ?_⟩
      intro activation found
      cases found
    · rename_i handle acquired _ _ service _
      let batch : Batch :=
        { handle := handle
          maxMessages :=
            if maxMessagesPerService = 0 then 1 else maxMessagesPerService
          observed := observed
          dispatched := 0
          caller := caller }
      obtain ⟨handles, same⟩ := continueBatch_handles
        { system with scheduler := acquired } batch service
      have acquiring : system.Handles 0
          { system with scheduler := acquired } :=
        .of_history rfl
      refine ⟨acquiring.trans handles, ?_⟩
      intro activation found
      rw [same activation found]
      exact ⟨rfl, rfl⟩

end ActorSystem

namespace Machine

variable {machine next : Machine} {system : ActorSystem}
variable {stack : List Activation} {activation : Activation}
variable {now : TimePoint} {actions : List Action}

theorem launch_handles (system : ActorSystem) (stack : List Activation)
    (maxMessagesPerService : Nat) (observed : Bool) (caller : Caller) :
    system.Handles 0
        (launch system stack maxMessagesPerService observed caller).system ∧
      ((∃ activation,
        (launch system stack maxMessagesPerService observed caller).stack =
            activation :: stack ∧
          activation.batch.caller = caller ∧
          activation.batch.dispatched = 0) ∨
      (launch system stack maxMessagesPerService observed caller).stack =
          stack ∧
        (launch system stack maxMessagesPerService observed caller).answer =
          some (caller.answer 0)) := by
  obtain ⟨handles, same⟩ :=
    system.startBatch_handles maxMessagesPerService observed caller
  unfold launch
  cases result : system.startBatch maxMessagesPerService observed caller with
  | mk activation started =>
      rw [result] at handles same
      cases activation with
      | none => exact ⟨handles, Or.inr ⟨rfl, rfl⟩⟩
      | some activation =>
          exact ⟨handles, Or.inl ⟨activation, rfl, same activation rfl⟩⟩

/-- The running callback returns: a handler takes over from an observer, or the
batch has handled one message more. -/
theorem resume_handles (activations : machine.stack = activation :: stack)
    (unerased : activation.erased = false)
    (registered : activation.batch.handle ∈ machine.system.services) :
    ∃ next, machine.resume = .ok next ∧
      (activation.phase = .observing ∧ machine.system.Handles 0 next.system ∧
          next.stack = { activation with phase := .handling } :: stack ∨
        activation.phase = .handling ∧
          ((∃ later, machine.system.Handles 1 next.system ∧
              next.stack = later :: stack ∧
              later.batch =
                { activation.batch with
                  dispatched := activation.batch.dispatched + 1 }) ∨
            ∃ finished, machine.system.Handles 1 finished ∧
              next = finish finished stack
                { activation.batch with
                  dispatched := activation.batch.dispatched + 1 })) := by
  obtain ⟨service, found⟩ :=
    Option.isSome_iff_exists.mp (AList.lookup_isSome.mpr registered)
  cases phase : activation.phase with
  | observing =>
      simp only [resume, activations, unerased, phase, observed, found,
        Bool.false_eq_true, if_false]
      exact ⟨_, rfl, Or.inl ⟨trivial, .of_delivered rfl, rfl⟩⟩
  | handling =>
      simp only [resume, activations, unerased, phase, handled, proceed, found,
        Bool.false_eq_true, if_false]
      let recorded : ActorSystem :=
        { machine.system with
          metrics := machine.system.metrics.onMessageDispatched
          history := machine.system.history ++
            [.handled activation.batch.handle activation.message] }
      have one : machine.system.Handles 1 recorded := .of_handled rfl
      let batch : Batch :=
        { activation.batch with
          dispatched := activation.batch.dispatched + 1 }
      obtain ⟨handles, same⟩ := recorded.continueBatch_handles batch service
      cases result : recorded.continueBatch batch service with
      | mk going continued =>
          rw [result] at handles same
          have both : machine.system.Handles 1 continued := one.trans handles
          cases going with
          | none =>
              exact ⟨_, rfl, Or.inr ⟨trivial, Or.inr ⟨continued, both, rfl⟩⟩⟩
          | some later =>
              exact ⟨_, rfl, Or.inr ⟨trivial,
                Or.inl ⟨later, both, rfl, same later rfl⟩⟩⟩

/-- Messages queued or in the hand of a callback. -/
def pending (machine : Machine) : Nat :=
  machine.system.queuedTotal + machine.stack.length

/-- The ledger of the machine, between and during calls. -/
theorem passed_eq (reached : Reaches Unrestricted now actions machine) :
    machine.passedCount = machine.handledCount + machine.pending +
      machine.refusedCount + machine.wastedCount := by
  obtain ⟨moves, moved⟩ := reaches_moves reached
  have balanced := Mailbox.Balanced.of_reaches moved
  have inHand : Mailbox.inHand machine.mailboxes.turns =
      machine.stack.length := by
    simp only [Mailbox.inHand, mailboxes, ActorSystem.mailboxes,
      List.countP_map]
    apply List.countP_eq_length.mpr
    intro activation _
    cases phase : activation.phase with
    | observing => simp [Activation.turn, Phase.hand, phase]
    | handling => simp [Activation.turn, Phase.hand, phase]
  unfold Mailbox.Balanced at balanced
  rw [inHand] at balanced
  have books : machine.passedCount = machine.handledCount +
      machine.system.queuedTotal + machine.refusedCount +
        machine.wastedCount + machine.stack.length :=
    balanced
  unfold pending
  omega

/-- Handling a message is what takes it out of the system. -/
theorem pending_handles {count : Nat} {later : List Action}
    (before : Reaches Unrestricted now actions machine)
    (after : Reaches Unrestricted now later next)
    (handles : machine.system.Handles count next.system) :
    machine.pending = next.pending + count := by
  have first := passed_eq before
  have second := passed_eq after
  have passed : next.passedCount = machine.passedCount := handles.passed
  have handled : next.handledCount = machine.handledCount + count :=
    handles.handled
  have refused : next.refusedCount = machine.refusedCount := handles.refused
  have wasted : next.wastedCount = machine.wastedCount := handles.wasted
  omega

/-- How often callbacks return at most until the call has returned. -/
def returnsLeft (machine : Machine) : Nat :=
  2 * machine.system.queuedTotal +
    match machine.stack with
    | [] => 0
    | activation :: _ =>
        match activation.phase with
        | .observing => 2
        | .handling => 1

/-- The counters of a `run_until_idle` that was called when `base` messages had
been handled: each of its batches has handled one at least. -/
structure Paced (base maxBatches : Nat) (machine : Machine) : Prop where
  running : ∀ activation ∈ machine.stack, ∃ maxMessages total executed,
    activation.batch.caller =
        .untilIdle maxBatches maxMessages total executed ∧
      executed < maxBatches ∧ executed ≤ total ∧
      base + total + activation.batch.dispatched = machine.handledCount
  returned : machine.stack = [] → ∃ total executed,
    machine.answer = some (.idle maxBatches executed total) ∧
      executed ≤ maxBatches ∧ executed ≤ total ∧
      base + total = machine.handledCount

variable {base maxBatches : Nat}

theorem launch_paced {maxMessages total executed : Nat}
    (more : executed < maxBatches) (worked : executed ≤ total)
    (counted : base + total = tally Entry.handlings system.history) :
    Paced base maxBatches
      (launch system [] maxMessages false
        (.untilIdle maxBatches maxMessages total executed)) := by
  obtain ⟨handles, outcome⟩ := launch_handles system [] maxMessages false
    (.untilIdle maxBatches maxMessages total executed)
  have same := handles.handled
  rcases outcome with ⟨activation, shape, caller, first⟩ | ⟨shape, answer⟩
  · constructor
    · intro other member
      rw [shape, List.mem_singleton] at member
      subst member
      refine ⟨maxMessages, total, executed, caller, more, worked, ?_⟩
      rw [first, handledCount]
      omega
    · intro alone
      rw [shape] at alone
      cases alone
  · constructor
    · intro other member
      rw [shape] at member
      cases member
    · intro _
      refine ⟨total, executed, answer, Nat.le_of_lt more, worked, ?_⟩
      rw [handledCount]
      omega

private theorem finish_paced {batch : Batch} (some : 0 < batch.dispatched)
    {maxMessages total executed : Nat}
    (caller : batch.caller = .untilIdle maxBatches maxMessages total executed)
    (more : executed < maxBatches) (worked : executed ≤ total)
    (counted : base + total + batch.dispatched =
      tally Entry.handlings system.history) :
    Paced base maxBatches (finish system [] batch) := by
  have positive : batch.dispatched ≠ 0 := by omega
  simp only [finish, caller, if_neg positive]
  split
  · rename_i again
    apply launch_paced again
    · omega
    · omega
  · constructor
    · intro activation member
      cases member
    · intro _
      refine ⟨_, _, rfl, more, ?_, ?_⟩
      · omega
      · show base + (total + batch.dispatched) =
          tally Entry.handlings system.history
        omega

private theorem finish_handles (system : ActorSystem) (stack : List Activation)
    (batch : Batch) :
    system.Handles 0 (finish system stack batch).system ∧
      ((finish system stack batch).stack = stack ∨
        ∃ activation, (finish system stack batch).stack =
          activation :: stack) := by
  unfold finish
  split
  · rename_i maxBatches maxMessages total executed _
    obtain ⟨handles, outcome⟩ := launch_handles system stack maxMessages false
      (.untilIdle maxBatches maxMessages (total + batch.dispatched)
        (executed + 1))
    simp only
    split
    · exact ⟨.of_history rfl, Or.inl rfl⟩
    · split
      · refine ⟨handles, ?_⟩
        rcases outcome with ⟨activation, shape, _⟩ | ⟨shape, _⟩
        · exact Or.inr ⟨activation, shape⟩
        · exact Or.inl shape
      · exact ⟨.of_history rfl, Or.inl rfl⟩
  · exact ⟨.of_history rfl, Or.inl rfl⟩

/-- At most one callback runs, and the fewer messages are pending the fewer
returns are left. -/
theorem returnsLeft_lt {count : Nat}
    (activations : machine.stack = [activation])
    (taken : machine.pending = next.pending + count)
    (outcome : count = 1 ∧ next.stack.length ≤ 1 ∧
        activation.phase = .handling ∨
      count = 0 ∧ activation.phase = .observing ∧
        next.stack = [{ activation with phase := .handling }]) :
    next.returnsLeft < machine.returnsLeft := by
  unfold pending at taken
  unfold returnsLeft
  rcases outcome with ⟨one, short, handling⟩ | ⟨none, observing, shape⟩
  · simp only [activations, handling, List.length_singleton] at taken ⊢
    cases later : next.stack with
    | nil =>
        simp only [later, List.length_nil] at taken ⊢
        omega
    | cons other rest =>
        simp only [later, List.length_cons] at short taken ⊢
        split <;> omega
  · simp only [activations, observing, shape, List.length_singleton]
      at taken ⊢
    omega

/-- What a return of the only callback does. -/
theorem returns_once (reached : Reaches Careful now actions machine)
    (activations : machine.stack = [activation]) :
    ∃ next count, machine.step .returns = .ok next ∧
      machine.system.Handles count next.system ∧ next.stack.length ≤ 1 ∧
      next.returnsLeft < machine.returnsLeft ∧
      ∀ base maxBatches, machine.Paced base maxBatches →
        next.Paced base maxBatches := by
  have member : activation ∈ machine.stack := by
    rw [activations]
    exact List.mem_singleton_self _
  obtain ⟨unerased, registered⟩ := (slots_present
    (reached.weaken fun _ _ careful => careful.1.1)).1 activation member
  obtain ⟨next, stepped, outcome⟩ :=
    resume_handles activations unerased registered
  have later : Reaches Careful now (actions ++ [.returns]) next :=
    .snoc reached (careful_of_harmless rfl) stepped
  have measured : ∀ count, machine.system.Handles count next.system →
      machine.pending = next.pending + count := by
    intro count handles
    exact pending_handles (reached.weaken fun _ _ _ => trivial)
      (later.weaken fun _ _ _ => trivial) handles
  rcases outcome with
    ⟨observing, handles, shape⟩ |
      ⟨handling, ⟨later, handles, shape, batch⟩ | ⟨finished, handles, shape⟩⟩
  · refine ⟨next, 0, stepped, handles, ?_, ?_, ?_⟩
    · rw [shape]
      exact Nat.le_refl 1
    · exact returnsLeft_lt activations (measured 0 handles)
        (Or.inr ⟨rfl, observing, shape⟩)
    · intro base maxBatches paced
      have same : next.handledCount = machine.handledCount := handles.handled
      constructor
      · intro other found
        rw [shape, List.mem_singleton] at found
        subst found
        rw [same]
        exact paced.running activation member
      · intro alone
        rw [shape] at alone
        cases alone
  · have short : next.stack.length ≤ 1 := by
      rw [shape]
      exact Nat.le_refl 1
    refine ⟨next, 1, stepped, handles, short, ?_, ?_⟩
    · exact returnsLeft_lt activations (measured 1 handles)
        (Or.inl ⟨rfl, short, handling⟩)
    · intro base maxBatches paced
      have one : next.handledCount = machine.handledCount + 1 :=
        handles.handled
      constructor
      · intro other found
        rw [shape, List.mem_singleton] at found
        subst found
        obtain ⟨maxMessages, total, executed, caller, more, worked, counted⟩ :=
          paced.running activation member
        rw [batch, one]
        exact ⟨maxMessages, total, executed, caller, more, worked, by
          simp only
          omega⟩
      · intro alone
        rw [shape] at alone
        cases alone
  · let batch : Batch :=
      { activation.batch with dispatched := activation.batch.dispatched + 1 }
    obtain ⟨rest, ends⟩ := finish_handles finished [] batch
    have both : machine.system.Handles 1 next.system := by
      rw [shape]
      exact handles.trans rest
    have short : next.stack.length ≤ 1 := by
      rw [shape]
      rcases ends with none | ⟨other, one⟩
      · rw [none]
        exact Nat.zero_le 1
      · rw [one]
        exact Nat.le_refl 1
    refine ⟨next, 1, stepped, both, short, ?_, ?_⟩
    · exact returnsLeft_lt activations (measured 1 both)
        (Or.inl ⟨rfl, short, handling⟩)
    · intro base maxBatches paced
      obtain ⟨maxMessages, total, executed, caller, more, worked, counted⟩ :=
        paced.running activation member
      have one := handles.handled
      rw [handledCount] at counted
      rw [shape]
      exact @finish_paced finished base maxBatches batch (Nat.succ_pos _)
        maxMessages total executed caller more worked (by
          show base + total + (activation.batch.dispatched + 1) = _
          omega)

end Machine

/-- Sending, dispatching, and callbacks that return. -/
def Action.Passing : Action → Prop
  | .send _ => True
  | .dispatchBatch _ _ => True
  | .runUntilIdle _ _ => True
  | .dispatchOnce => True
  | .returns => True
  | _ => False

/-- A call that dispatches. -/
def Action.Dispatches : Action → Prop
  | .dispatchBatch _ _ => True
  | .runUntilIdle _ _ => True
  | .dispatchOnce => True
  | _ => False

namespace Machine

variable {machine next : Machine} {now : TimePoint} {actions : List Action}

theorem careful_of_passing {action : Action} (passing : action.Passing) :
    Careful machine action := by
  apply careful_of_harmless
  cases action with
  | send _ => rfl
  | dispatchBatch _ _ => rfl
  | runUntilIdle _ _ => rfl
  | dispatchOnce => rfl
  | returns => rfl
  | _ => exact absurd passing id

theorem Licensed.ordinary {action : Action}
    {state : Mailbox.State ServiceHandle Message}
    {move : Mailbox.Move ServiceHandle Message}
    (licensed : Licensed machine action state move)
    (passing : action.Passing) : Mailbox.Ordinary move := by
  cases licensed with
  | routine ordinary => exact ordinary
  | opens _ => exact absurd passing id
  | halts stops =>
      cases action with
      | stopService _ => exact absurd passing id
      | stopContext => exact absurd passing id
      | releaseContext => exact absurd passing id
      | _ => exact absurd stops id
  | closes releases _ _ =>
      cases action with
      | releaseService _ => exact absurd passing id
      | shutdown => exact absurd passing id
      | _ => exact absurd releases id
  | unwinds => exact absurd passing id

/-- Executions that only send and dispatch. -/
abbrev Passage (start : Machine) (actions : List Action) (final : Machine) :
    Prop :=
  Transition.Execution (Transition.returning step)
    (fun _ action => action.Passing) start actions final

/-- Callbacks that only return let every call come to its end. -/
theorem serve_returns (rounds : Nat)
    (reached : Reaches Careful now actions machine)
    (single : machine.stack.length ≤ 1)
    (enough : machine.returnsLeft ≤ rounds) :
    ∃ final count more,
      machine.serve (fun _ => [.returns]) rounds = .ok final ∧
        final.stack = [] ∧ Passage machine more final ∧
        machine.system.Handles count final.system ∧
        ∀ base maxBatches, machine.Paced base maxBatches →
          final.Paced base maxBatches := by
  induction rounds generalizing machine actions with
  | zero =>
      have alone : machine.stack = [] := by
        cases activations : machine.stack with
        | nil => rfl
        | cons activation stack =>
            simp only [returnsLeft, activations] at enough
            split at enough <;> omega
      exact ⟨machine, 0, [], rfl, alone, .nil, .of_history rfl,
        fun _ _ paced => paced⟩
  | succ rounds induction =>
      cases activations : machine.stack with
      | nil =>
          refine ⟨machine, 0, [], ?_, activations, .nil, .of_history rfl,
            fun _ _ paced => paced⟩
          rw [serve, if_pos activations]
      | cons activation stack =>
          have bottom : stack = [] := by
            rw [activations, List.length_cons] at single
            exact List.eq_nil_of_length_eq_zero (by omega)
          subst bottom
          obtain ⟨next, count, stepped, handles, short, fewer, pace⟩ :=
            returns_once reached activations
          have later : Reaches Careful now (actions ++ [.returns]) next :=
            .snoc reached (careful_of_harmless rfl) stepped
          obtain ⟨final, counts, more, served, alone, passage, rest, paces⟩ :=
            induction later short (by omega)
          refine ⟨final, count + counts, .returns :: more, ?_, alone, ?_,
            handles.trans rest, ?_⟩
          · have busy : machine.stack ≠ [] := by
              rw [activations]
              exact List.cons_ne_nil _ _
            simp only [serve, if_neg busy, Transition.runSteps, stepped]
            exact served
          · have first : Passage machine [.returns] next :=
              .single trivial stepped
            exact first.trans passage
          · exact fun base maxBatches paced =>
              paces base maxBatches (pace base maxBatches paced)

end Machine

end Crynet
