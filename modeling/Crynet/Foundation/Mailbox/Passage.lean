import Crynet.Foundation.Mailbox.Delivery

/-!
# Passage through a mailbox

The messages delivered to a key, the one its turn holds and the ones in its
queue form a line.  Ordinary moves keep the line and add to its end what they
accept.  This holds from any state on, also where a key has been opened before
and the history says nothing about it any more.
-/

namespace Mailbox

variable {κ μ : Type*} [DecidableEq κ]

namespace State

/-- The queue of a key. -/
def waiting (state : State κ μ) (key : κ) : List μ :=
  match state.box key with
  | none => []
  | some box => box.queue

def line (state : State κ μ) (key : κ) : List μ :=
  deliveredTo key state.log ++ heldFor key state.turns ++ state.waiting key

end State

/-- The box of a key stays as it is, apart from what passes through it. -/
def Passes (key : κ) (state next : State κ μ) : Prop :=
  (next.box key).map Box.running = (state.box key).map Box.running ∧
    ∃ added,
      acceptedFor key next.log = acceptedFor key state.log ++ added ∧
        next.line key = state.line key ++ added

namespace Passes

variable {key : κ} {state next final : State κ μ}

theorem refl (key : κ) (state : State κ μ) : Passes key state state :=
  ⟨rfl, [], (List.append_nil _).symm, (List.append_nil _).symm⟩

theorem trans (first : Passes key state next)
    (second : Passes key next final) : Passes key state final := by
  obtain ⟨running, added, accepted, line⟩ := first
  obtain ⟨still, more, acceptedMore, longer⟩ := second
  refine ⟨still.trans running, added ++ more, ?_, ?_⟩
  · rw [acceptedMore, accepted, List.append_assoc]
  · rw [longer, line, List.append_assoc]

/-- Nothing is accepted, and the line is the same. -/
private theorem of_line
    (running : (next.box key).map Box.running =
      (state.box key).map Box.running)
    (accepted : acceptedFor key next.log = acceptedFor key state.log)
    (line : next.line key = state.line key) : Passes key state next :=
  ⟨running, [], by rw [accepted, List.append_nil],
    by rw [line, List.append_nil]⟩

private theorem step_accept {other : κ} {message : μ} {box : Box μ}
    (present : state.box other = some box) (queued : Nat) (ready : List κ) :
    Passes key state
      { state with
        box := Function.update state.box other
          (some { box with queue := box.queue ++ [message] })
        queued := queued
        ready := ready
        log := state.log ++ [.accepted other message] } := by
  have delivered : deliveredTo key (state.log ++ [.accepted other message]) =
      deliveredTo key state.log :=
    (deliveredTo_append _ _ _).trans (List.append_nil _)
  by_cases same : other = key
  · subst same
    refine ⟨?_, [message], ?_, ?_⟩
    · simp [present]
    · rw [acceptedFor_append]
      simp [acceptedFor]
    · simp [State.line, State.waiting, delivered, present]
  · have unchanged : Function.update state.box other
        (some { box with queue := box.queue ++ [message] }) key =
          state.box key :=
      Function.update_of_ne (Ne.symm same) _ _
    apply of_line
    · exact congrArg _ unchanged
    · show acceptedFor key (state.log ++ [.accepted other message]) = _
      rw [acceptedFor_append]
      simp [acceptedFor, same]
    · simp only [State.line, State.waiting, delivered, unchanged]

/-- A turn takes a message in its hand. -/
private theorem step_take (tidy : Tidy state) {other : κ}
    {rest : List (Turn κ μ)} {box : Box μ} {message : μ} {queue : List μ}
    (current : state.turns = ⟨other, true, .empty⟩ :: rest)
    (present : state.box other = some box)
    (first : box.queue = message :: queue) (queued : Nat) :
    Passes key state
      { state with
        box := Function.update state.box other
          (some { box with queue := queue })
        queued := queued
        turns := ⟨other, true, .held message⟩ :: rest } := by
  by_cases same : other = key
  · subst same
    have below : heldFor other rest = [] := heldFor_below tidy current
    have before : heldFor other state.turns = [] := by
      rw [current]
      exact below
    have after : heldFor other (⟨other, true, .held message⟩ :: rest) =
        [message] := by
      rw [← List.singleton_append, heldFor, List.filterMap_append, ← heldFor,
        ← heldFor, below]
      simp [heldFor]
    apply of_line
    · simp [present]
    · rfl
    · simp [State.line, State.waiting, before, after, present, first]
  · have unchanged : Function.update state.box other
        (some { box with queue := queue }) key = state.box key :=
      Function.update_of_ne (Ne.symm same) _ _
    have held : heldFor key (⟨other, true, .held message⟩ :: rest) =
        heldFor key state.turns := by
      rw [current]
      simp [heldFor, same]
    apply of_line
    · exact congrArg _ unchanged
    · rfl
    · simp only [State.line, State.waiting, held, unchanged]

/-- The message goes from the hand of the turn to the handler. -/
private theorem step_deliver (tidy : Tidy state) {other : κ}
    {rest : List (Turn κ μ)} {message : μ}
    (current : state.turns = ⟨other, true, .held message⟩ :: rest)
    (running : Bool) :
    Passes key state
      { state with
        turns := ⟨other, true, .handling message⟩ :: rest
        log := state.log ++ [.delivered other message running] } := by
  have accepted : acceptedFor key
      (state.log ++ [.delivered other message running]) =
        acceptedFor key state.log :=
    (acceptedFor_append _ _ _).trans (List.append_nil _)
  apply of_line
  · rfl
  · exact accepted
  by_cases same : other = key
  · subst same
    have below : heldFor other rest = [] := heldFor_below tidy current
    have before : heldFor other state.turns = [message] := by
      rw [current, ← List.singleton_append, heldFor, List.filterMap_append,
        ← heldFor, ← heldFor, below]
      simp [heldFor]
    have after : heldFor other (⟨other, true, .handling message⟩ :: rest) =
        [] :=
      below
    simp only [State.line, State.waiting, before, after, deliveredTo_append]
    simp [deliveredTo]
  · have held : heldFor key (⟨other, true, .handling message⟩ :: rest) =
        heldFor key state.turns := by
      rw [current]
      simp [heldFor, same]
    simp only [State.line, State.waiting, held, deliveredTo_append]
    simp [deliveredTo, same]

theorem step {move : Move κ μ} (tidy : Tidy state) (ordinary : Ordinary move)
    (moved : Step state move next) : Passes key state next := by
  cases moved with
  | openBox _ => exact absurd ordinary id
  | halt _ => exact absurd ordinary id
  | close _ _ => exact absurd ordinary id
  | unwind _ => exact absurd ordinary id
  | accept present _ => exact step_accept present _ _
  | take current present first _ => exact step_take tidy current present first _
  | deliver current _ => exact step_deliver tidy current _
  | refuse =>
      apply of_line
      · rfl
      · exact (acceptedFor_append _ _ _).trans (List.append_nil _)
      · simp only [State.line, State.waiting, deliveredTo_append]
        simp [deliveredTo]
  | acquire _ _ => exact of_line rfl rfl rfl
  | discard _ _ => exact refl _ _
  | @handle other live rest message current =>
      apply of_line
      · rfl
      · exact (acceptedFor_append _ _ _).trans (List.append_nil _)
      · have held : heldFor key (⟨other, live, .empty⟩ :: rest) =
            heldFor key state.turns := by
          rw [current]
          rfl
        simp only [State.line, State.waiting, held, deliveredTo_append]
        simp [deliveredTo]
  | @finish other rest box current _ =>
      have held : heldFor key rest = heldFor key state.turns := by
        rw [current]
        rfl
      apply of_line
      · rfl
      · rfl
      · simp only [State.line, State.waiting, held]

/-- The run lemma of passage. -/
theorem of_execution {moves : List (Move κ μ)} (tidy : Tidy state)
    (moved : Transition.Execution Step (fun _ move => Ordinary move) state
      moves final) (key : κ) : Passes key state final := by
  have both : Tidy final ∧ Passes key state final := by
    apply moved.invariant fun current =>
      Tidy current ∧ Passes key state current
    · exact ⟨tidy, refl key state⟩
    · rintro current move next ⟨still, passed⟩ ordinary stepped
      exact ⟨still.step stepped, passed.trans (step still ordinary stepped)⟩
  exact both.2

end Passes

end Mailbox
