import Crynet.Foundation.Execution
import Mathlib.Data.Finset.Insert
import Mathlib.Data.Finset.Erase
import Mathlib.Logic.Function.Basic

/-!
# Mailboxes with cooperative turns

What an actor runtime does to its mailboxes, without the runtime: boxes are
opened, filled, halted and closed; a box that is ready is acquired for a turn,
the turn takes messages from it and delivers them, and ends by making the box
ready again if there is work left.  Turns nest, because a delivered message may
start another turn.  The moves are the only ways the state changes.
-/

namespace Mailbox

variable {κ μ : Type*} [DecidableEq κ]

structure Box (μ : Type*) where
  running : Bool
  queue : List μ

/-- What a turn has in hand: nothing, a message not yet delivered, or one whose
delivery has not come back. -/
inductive Hand (μ : Type*) where
  | empty
  | held (message : μ)
  | handling (message : μ)

/-- An unfinished turn; it is live until its box is closed. -/
structure Turn (κ μ : Type*) where
  key : κ
  live : Bool
  hand : Hand μ

/-- The history of a mailbox system. -/
inductive Entry (κ μ : Type*) where
  | opened (key : κ)
  | accepted (key : κ) (message : μ)
  | refused (message : μ)
  | closed (key : κ) (abandoned : List μ)
  | delivered (key : κ) (message : μ) (running : Bool)
  | handled (key : κ) (message : μ)
  | lost (key : κ) (message : μ)

@[ext] structure State (κ μ : Type*) where
  box : κ → Option (Box μ)
  queued : Nat
  ready : List κ
  flying : Finset κ
  turns : List (Turn κ μ)
  log : List (Entry κ μ)

/-- No boxes, no turns, no history. -/
def empty : State κ μ :=
  { box := fun _ => none
    queued := 0
    ready := []
    flying := ∅
    turns := []
    log := [] }

/-- Queue a key unless it waits already or has a turn. -/
def wake (ready : List κ) (flying : Finset κ) (key : κ) : List κ :=
  if key ∈ ready ∨ key ∈ flying then ready else ready ++ [key]

/-- Queue a key at the end of its turn if there is work left for it. -/
def rewake (box : Box μ) (ready : List κ) (flying : Finset κ) (key : κ) :
    List κ :=
  if box.queue ≠ [] ∧ box.running = true then wake ready flying key else ready

/-- Mark the turns of a closed box. -/
def Turn.closing (key : κ) (turn : Turn κ μ) : Turn κ μ :=
  if turn.key = key then { turn with live := false } else turn

/-- What is lost when a turn is abandoned. -/
def Turn.spill (turn : Turn κ μ) : List (Entry κ μ) :=
  match turn.hand with
  | .empty => []
  | .held message => [.lost turn.key message]
  | .handling message => [.lost turn.key message]

inductive Move (κ μ : Type*) where
  | openBox (key : κ)
  | accept (key : κ) (message : μ)
  | refuse (message : μ)
  | halt (key : κ)
  | close (key : κ)
  | acquire (key : κ)
  | discard (key : κ)
  | take (key : κ) (message : μ)
  | deliver (key : κ) (message : μ)
  | handle (key : κ) (message : μ)
  | finish (key : κ)
  | unwind

inductive Step : State κ μ → Move κ μ → State κ μ → Prop where
  | openBox {state : State κ μ} {key : κ} (absent : state.box key = none) :
      Step state (.openBox key)
        { state with
          box := Function.update state.box key (some ⟨true, []⟩)
          log := state.log ++ [.opened key] }
  | accept {state : State κ μ} {key : κ} {message : μ} {box : Box μ}
      (present : state.box key = some box) (running : box.running = true) :
      Step state (.accept key message)
        { state with
          box := Function.update state.box key
            (some { box with queue := box.queue ++ [message] })
          queued := state.queued + 1
          ready := wake state.ready state.flying key
          log := state.log ++ [.accepted key message] }
  | refuse {state : State κ μ} {message : μ} :
      Step state (.refuse message)
        { state with log := state.log ++ [.refused message] }
  | halt {state : State κ μ} {key : κ} {box : Box μ}
      (present : state.box key = some box) :
      Step state (.halt key)
        { state with
          box := Function.update state.box key
            (some { box with running := false }) }
  | close {state : State κ μ} {key : κ} {box : Box μ} {remaining : Nat}
      (present : state.box key = some box)
      (split : state.queued = remaining + box.queue.length) :
      Step state (.close key)
        { state with
          box := Function.update state.box key none
          queued := remaining
          turns := state.turns.map (Turn.closing key)
          log := state.log ++ [.closed key box.queue] }
  | acquire {state : State κ μ} {key : κ} {rest : List κ} {box : Box μ}
      (next : state.ready = key :: rest)
      (present : state.box key = some box) :
      Step state (.acquire key)
        { state with
          ready := rest
          flying := insert key state.flying
          turns := ⟨key, true, .empty⟩ :: state.turns }
  | discard {state : State κ μ} {key : κ} {rest : List κ}
      (next : state.ready = key :: rest) (absent : state.box key = none) :
      Step state (.discard key) { state with ready := rest }
  | take {state : State κ μ} {key : κ} {rest : List (Turn κ μ)} {box : Box μ}
      {message : μ} {queue : List μ} {remaining : Nat}
      (current : state.turns = ⟨key, true, .empty⟩ :: rest)
      (present : state.box key = some box)
      (first : box.queue = message :: queue)
      (split : state.queued = remaining + 1) :
      Step state (.take key message)
        { state with
          box := Function.update state.box key
            (some { box with queue := queue })
          queued := remaining
          turns := ⟨key, true, .held message⟩ :: rest }
  | deliver {state : State κ μ} {key : κ} {rest : List (Turn κ μ)}
      {box : Box μ} {message : μ}
      (current : state.turns = ⟨key, true, .held message⟩ :: rest)
      (present : state.box key = some box) :
      Step state (.deliver key message)
        { state with
          turns := ⟨key, true, .handling message⟩ :: rest
          log := state.log ++ [.delivered key message box.running] }
  | handle {state : State κ μ} {key : κ} {live : Bool}
      {rest : List (Turn κ μ)} {message : μ}
      (current : state.turns = ⟨key, live, .handling message⟩ :: rest) :
      Step state (.handle key message)
        { state with
          turns := ⟨key, live, .empty⟩ :: rest
          log := state.log ++ [.handled key message] }
  | finish {state : State κ μ} {key : κ} {rest : List (Turn κ μ)}
      {box : Box μ}
      (current : state.turns = ⟨key, true, .empty⟩ :: rest)
      (present : state.box key = some box) :
      Step state (.finish key)
        { state with
          ready := rewake box state.ready (state.flying.erase key) key
          flying := state.flying.erase key
          turns := rest }
  | unwind {state : State κ μ} {turn : Turn κ μ} {rest : List (Turn κ μ)}
      (current : state.turns = turn :: rest) :
      Step state .unwind
        { state with turns := rest, log := state.log ++ turn.spill }

/-- Executions that start without boxes. -/
abbrev Reaches (permitted : State κ μ → Move κ μ → Prop)
    (moves : List (Move κ μ)) (state : State κ μ) : Prop :=
  Transition.Execution Step permitted empty moves state

/-- No box is closed while it has a turn. -/
def Sheltering (state : State κ μ) : Move κ μ → Prop
  | .close key => ∀ turn ∈ state.turns, turn.key ≠ key
  | _ => True

/-- Moves that keep every box a box, and every turn. -/
def Ordinary : Move κ μ → Prop
  | .openBox _ => False
  | .halt _ => False
  | .close _ => False
  | .unwind => False
  | _ => True

/-- Besides, no turn is abandoned. -/
def Orderly (state : State κ μ) (move : Move κ μ) : Prop :=
  Sheltering state move ∧ move ≠ .unwind

@[simp] theorem closing_key (key : κ) (turn : Turn κ μ) :
    (turn.closing key).key = turn.key := by
  unfold Turn.closing
  split <;> rfl

@[simp] theorem closing_hand (key : κ) (turn : Turn κ μ) :
    (turn.closing key).hand = turn.hand := by
  unfold Turn.closing
  split <;> rfl

theorem closing_live {key : κ} {turn : Turn κ μ} :
    (turn.closing key).live = true ↔ turn.live = true ∧ turn.key ≠ key := by
  unfold Turn.closing
  by_cases same : turn.key = key
  · simp [same]
  · simp [same]

theorem mem_wake {ready : List κ} {flying : Finset κ} {key other : κ} :
    other ∈ wake ready flying key ↔
      other ∈ ready ∨ other = key ∧ key ∉ flying := by
  unfold wake
  by_cases asleep : key ∈ ready ∨ key ∈ flying
  · rw [if_pos asleep]
    constructor
    · exact Or.inl
    · rintro (member | ⟨same, grounded⟩)
      · exact member
      · rw [same]
        exact asleep.resolve_right grounded
  · rw [if_neg asleep, List.mem_append, List.mem_singleton]
    have grounded : key ∉ flying := fun flies => asleep (Or.inr flies)
    simp [grounded]

theorem wake_nodup {ready : List κ} (flying : Finset κ) (key : κ)
    (distinct : ready.Nodup) : (wake ready flying key).Nodup := by
  unfold wake
  by_cases asleep : key ∈ ready ∨ key ∈ flying
  · rw [if_pos asleep]
    exact distinct
  · rw [if_neg asleep]
    apply List.nodup_append.mpr
    refine ⟨distinct, List.nodup_singleton key, ?_⟩
    intro other member last lastMember same
    rw [List.mem_singleton.mp lastMember] at same
    rw [same] at member
    exact asleep (Or.inl member)

theorem wake_grounded {ready : List κ} {flying : Finset κ} (key : κ)
    (grounded : ∀ other ∈ ready, other ∉ flying) :
    ∀ other ∈ wake ready flying key, other ∉ flying := by
  intro other member
  rcases mem_wake.mp member with old | ⟨same, grounded⟩
  · exact grounded other old
  · rw [same]
    exact grounded

theorem mem_rewake {box : Box μ} {ready : List κ} {flying : Finset κ}
    {key other : κ} :
    other ∈ rewake box ready flying key ↔
      other ∈ ready ∨
        (box.queue ≠ [] ∧ box.running = true) ∧ other = key ∧ key ∉ flying := by
  unfold rewake
  by_cases work : box.queue ≠ [] ∧ box.running = true
  · rw [if_pos work, mem_wake]
    simp [work]
  · rw [if_neg work]
    simp [work]

theorem rewake_nodup (box : Box μ) {ready : List κ} (flying : Finset κ)
    (key : κ) (distinct : ready.Nodup) :
    (rewake box ready flying key).Nodup := by
  unfold rewake
  split
  · exact wake_nodup flying key distinct
  · exact distinct

theorem rewake_grounded (box : Box μ) {ready : List κ} {flying : Finset κ}
    (key : κ) (grounded : ∀ other ∈ ready, other ∉ flying) :
    ∀ other ∈ rewake box ready flying key, other ∉ flying := by
  intro other member
  rcases mem_rewake.mp member with old | ⟨_, same, grounded⟩
  · exact grounded other old
  · rw [same]
    exact grounded

end Mailbox
