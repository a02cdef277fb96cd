import Crynet.Foundation.Mailbox.Moves

/-!
# Halting calmly

If boxes are only halted when nothing is left for them, neither in their queue
nor in the hand of a turn, every message is delivered to a running box.
-/

namespace Mailbox

variable {κ μ : Type*} [DecidableEq κ]

/-- Nothing is left for a key: its box is drained and no live turn of it holds
a message. -/
def Drained (state : State κ μ) (key : κ) : Prop :=
  (∀ box, state.box key = some box → box.queue = []) ∧
    ∀ turn ∈ state.turns, turn.key = key → turn.live = true →
      ∀ message, turn.hand ≠ .held message

/-- A running box is halted only when nothing is left for it. -/
def CalmHalt (state : State κ μ) : Move κ μ → Prop
  | .halt key =>
      (∃ box, state.box key = some box ∧ box.running = true) →
        Drained state key
  | _ => True

/-- Boxes that do not run are drained, and every delivery was to a box that
ran. -/
structure Calm (state : State κ μ) : Prop where
  drained : ∀ key box, state.box key = some box → box.running = false →
    Drained state key
  delivered : ∀ key message running,
    Entry.delivered key message running ∈ state.log → running = true

/-- What live turns of a key hold they have held before. -/
def Carries (state next : State κ μ) (key : κ) : Prop :=
  ∀ turn ∈ next.turns, turn.key = key → turn.live = true →
    ∀ message, turn.hand = .held message →
      ∃ before ∈ state.turns, before.key = key ∧ before.live = true ∧
        before.hand = .held message

namespace Carries

variable {state next : State κ μ} {key : κ}
variable {old new : Turn κ μ} {rest : List (Turn κ μ)}

omit [DecidableEq κ] in
private theorem of_turns
    (turns : ∀ turn ∈ next.turns, turn ∈ state.turns ∨ turn.key ≠ key ∨
      ∀ message, turn.hand ≠ .held message) : Carries state next key := by
  intro turn member named live message holds
  rcases turns turn member with before | other | empty
  · exact ⟨turn, before, named, live, holds⟩
  · exact absurd named other
  · exact absurd holds (empty message)

omit [DecidableEq κ] in
/-- The turn on top ends. -/
theorem of_rest (current : state.turns = old :: rest)
    (popped : next.turns = rest) : Carries state next key := by
  apply of_turns
  intro turn member
  rw [popped] at member
  rw [current]
  exact Or.inl (List.mem_cons_of_mem _ member)

omit [DecidableEq κ] in
/-- The turn on top changes. -/
theorem of_top (current : state.turns = old :: rest)
    (changed : next.turns = new :: rest)
    (top : new.key ≠ key ∨ ∀ message, new.hand ≠ .held message) :
    Carries state next key := by
  apply of_turns
  intro turn member
  rw [changed] at member
  rcases List.mem_cons.mp member with same | below
  · rw [same]
    exact Or.inr top
  · rw [current]
    exact Or.inl (List.mem_cons_of_mem _ below)

end Carries

namespace Calm

omit [DecidableEq κ] in
private theorem drained_carried {state next : State κ μ} {key : κ}
    (drained : Drained state key) (same : next.box key = state.box key)
    (carries : Carries state next key) : Drained next key := by
  constructor
  · intro box present
    rw [same] at present
    exact drained.1 box present
  · intro turn member named live message holds
    obtain ⟨before, inTurns, sameKey, alive, held⟩ :=
      carries turn member named live message holds
    exact drained.2 before inTurns sameKey alive message held

omit [DecidableEq κ] in
private theorem drained_kept {state next : State κ μ} (calm : Calm state)
    (boxes : next.box = state.box) (carries : ∀ key, Carries state next key) :
    ∀ key box, next.box key = some box → box.running = false →
      Drained next key := by
  intro key box present halted
  rw [boxes] at present
  apply drained_carried (calm.drained key box present halted)
  · rw [boxes]
  · exact carries key

/-- The boxes but one are drained as they were. -/
private theorem drained_updated {state next : State κ μ} (calm : Calm state)
    {key : κ} {changed : Option (Box μ)}
    (boxes : next.box = Function.update state.box key changed)
    (carries : ∀ other, other ≠ key → Carries state next other)
    (here : ∀ box, changed = some box → box.running = false →
      Drained next key) :
    ∀ other box, next.box other = some box → box.running = false →
      Drained next other := by
  intro other box present halted
  rw [boxes] at present
  by_cases same : other = key
  · subst same
    rw [Function.update_self] at present
    exact here box present halted
  · rw [Function.update_of_ne same] at present
    apply drained_carried (calm.drained other box present halted)
    · rw [boxes, Function.update_of_ne same]
    · exact carries other same

omit [DecidableEq κ] in
private theorem delivered_of_other {log : List (Entry κ μ)}
    {entry : Entry κ μ}
    (delivered : ∀ key message running,
      Entry.delivered key message running ∈ log → running = true)
    (other : ∀ key message running,
      Entry.delivered key message running = entry → running = true) :
    ∀ key message running,
      Entry.delivered key message running ∈ log ++ [entry] →
        running = true := by
  intro key message running member
  rcases List.mem_append.mp member with old | new
  · exact delivered key message running old
  · exact other key message running (List.mem_singleton.mp new)

omit [DecidableEq κ] in
/-- A box with work left runs. -/
private theorem running_of_work {state : State κ μ} (calm : Calm state)
    {key : κ} {box : Box μ} (present : state.box key = some box)
    (work : ¬Drained state key) : box.running = true := by
  cases running : box.running with
  | true => rfl
  | false => exact absurd (calm.drained key box present running) work

theorem step {state next : State κ μ} {move : Move κ μ}
    (calm : Calm state) (allowed : CalmHalt state move)
    (moved : Step state move next) : Calm next := by
  cases moved with
  | openBox absent =>
      refine ⟨?_, delivered_of_other calm.delivered nofun⟩
      apply drained_updated calm rfl
      · exact fun _ _ => .of_turns fun _ member => Or.inl member
      · intro box same halted
        cases same
        cases halted
  | accept present running =>
      refine ⟨?_, delivered_of_other calm.delivered nofun⟩
      apply drained_updated calm rfl
      · exact fun _ _ => .of_turns fun _ member => Or.inl member
      · intro box same halted
        cases same
        cases running.symm.trans halted
  | refuse =>
      exact ⟨calm.drained, delivered_of_other calm.delivered nofun⟩
  | @halt key box present =>
      refine ⟨?_, calm.delivered⟩
      apply drained_updated calm rfl
      · exact fun _ _ => .of_turns fun _ member => Or.inl member
      · intro _ _ _
        have before : Drained state key := by
          cases running : box.running with
          | true => exact allowed ⟨box, present, running⟩
          | false => exact calm.drained key box present running
        refine ⟨?_, before.2⟩
        intro later found
        simp only [Function.update_self, Option.some.injEq] at found
        rw [← found]
        exact before.1 box present
  | close _ _ =>
      refine ⟨?_, delivered_of_other calm.delivered nofun⟩
      apply drained_updated calm rfl
      · intro other _ turn member named live message holds
        obtain ⟨before, inTurns, rfl⟩ := List.mem_map.mp member
        rw [closing_key] at named
        rw [closing_hand] at holds
        exact ⟨before, inTurns, named, (closing_live.mp live).1, holds⟩
      · exact nofun
  | acquire _ _ =>
      refine ⟨?_, calm.delivered⟩
      apply drained_kept calm
      · rfl
      · intro other
        apply Carries.of_turns
        intro turn member
        rcases List.mem_cons.mp member with top | below
        · rw [top]
          exact Or.inr (Or.inr nofun)
        · exact Or.inl below
  | discard _ _ => exact ⟨calm.drained, calm.delivered⟩
  | @take key _ box _ _ _ current present first _ =>
      refine ⟨?_, calm.delivered⟩
      apply drained_updated calm rfl
      · intro other different
        exact .of_top current rfl (Or.inl different.symm)
      · intro now same halted
        cases same
        have running : box.running = true := by
          apply running_of_work calm present
          intro drained
          rw [drained.1 box present] at first
          cases first
        cases running.symm.trans halted
  | @deliver key _ box message current present =>
      constructor
      · apply drained_kept calm
        · rfl
        · exact fun _ => .of_top current rfl (Or.inr nofun)
      · apply delivered_of_other calm.delivered
        intro other content running same
        cases same
        apply running_of_work calm present
        intro drained
        apply drained.2 ⟨key, true, .held message⟩ _ rfl rfl message rfl
        rw [current]
        exact List.mem_cons_self
  | handle current =>
      refine ⟨?_, delivered_of_other calm.delivered nofun⟩
      apply drained_kept calm
      · rfl
      · exact fun _ => .of_top current rfl (Or.inr nofun)
  | finish current _ =>
      refine ⟨?_, calm.delivered⟩
      apply drained_kept calm
      · rfl
      · exact fun _ => .of_rest current rfl
  | @unwind turn rest current =>
      constructor
      · apply drained_kept calm
        · rfl
        · exact fun _ => .of_rest current rfl
      · intro key message running member
        rcases List.mem_append.mp member with old | spilled
        · exact calm.delivered key message running old
        · unfold Turn.spill at spilled
          split at spilled <;> simp at spilled

/-- The run lemma of halting. -/
theorem of_reaches {permitted : State κ μ → Move κ μ → Prop}
    (calmly : ∀ state move, permitted state move → CalmHalt state move)
    {moves : List (Move κ μ)} {state : State κ μ}
    (reached : Reaches permitted moves state) : Calm state := by
  apply reached.invariant Calm
  · constructor
    · intro key box present
      cases present
    · intro key message running member
      cases member
  · intro current move next calm allowed moved
    exact calm.step (calmly current move allowed) moved

end Calm

end Mailbox
