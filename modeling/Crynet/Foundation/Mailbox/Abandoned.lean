import Crynet.Foundation.Mailbox.Wake

/-!
# Abandoned turns

A turn that is abandoned leaves its key in flight, where nothing looks for it:
no later turn can acquire the key and no later move can land it.  So when all
turns are over, nothing is in flight exactly if none was abandoned.
-/

namespace Mailbox

variable {κ μ : Type*} [DecidableEq κ]

/-- A key in flight without a turn that could land it. -/
def Stranded (state : State κ μ) (key : κ) : Prop :=
  key ∈ state.flying ∧ ∀ turn ∈ state.turns, turn.key ≠ key

namespace Stranded

omit [DecidableEq κ] in
/-- Replacing the hand of the current turn changes no key. -/
private theorem of_hand {state next : State κ μ} {key : κ}
    (stranded : Stranded state key)
    {turn other : Turn κ μ} {rest : List (Turn κ μ)}
    (current : state.turns = turn :: rest)
    (replaced : next.turns = other :: rest) (same : other.key = turn.key)
    (sameFlying : next.flying = state.flying) : Stranded next key := by
  refine ⟨?_, ?_⟩
  · rw [sameFlying]
    exact stranded.1
  · intro candidate member
    have turnless := stranded.2
    rw [current] at turnless
    rw [replaced] at member
    rcases List.mem_cons.mp member with top | below
    · rw [top, same]
      exact turnless turn List.mem_cons_self
    · exact turnless candidate (List.mem_cons_of_mem _ below)

/-- No move lands a stranded key or acquires it again. -/
theorem step {state next : State κ μ} {move : Move κ μ} {key : κ}
    (stranded : Stranded state key) (tidy : Tidy state)
    (moved : Step state move next) : Stranded next key := by
  obtain ⟨flies, turnless⟩ := stranded
  cases moved with
  | openBox _ => exact ⟨flies, turnless⟩
  | accept _ _ => exact ⟨flies, turnless⟩
  | refuse => exact ⟨flies, turnless⟩
  | halt _ => exact ⟨flies, turnless⟩
  | close _ _ =>
      refine ⟨flies, ?_⟩
      intro turn member
      obtain ⟨before, inTurns, rfl⟩ := List.mem_map.mp member
      rw [closing_key]
      exact turnless before inTurns
  | @acquire other rest box next present =>
      refine ⟨Finset.mem_insert_of_mem flies, ?_⟩
      intro turn member
      rcases List.mem_cons.mp member with top | below
      · rw [top]
        intro same
        rw [← same] at flies
        have waits : other ∈ state.ready := by
          rw [next]
          exact List.mem_cons_self
        exact tidy.grounded other waits flies
      · exact turnless turn below
  | discard _ _ => exact ⟨flies, turnless⟩
  | take current _ _ _ =>
      exact of_hand ⟨flies, turnless⟩ current rfl rfl rfl
  | deliver current _ => exact of_hand ⟨flies, turnless⟩ current rfl rfl rfl
  | handle current => exact of_hand ⟨flies, turnless⟩ current rfl rfl rfl
  | finish current _ =>
      rw [current] at turnless
      have elsewhere := turnless _ List.mem_cons_self
      exact ⟨Finset.mem_erase.mpr ⟨elsewhere.symm, flies⟩,
        fun turn member => turnless turn (List.mem_cons_of_mem _ member)⟩
  | unwind current =>
      rw [current] at turnless
      exact ⟨flies, fun turn member =>
        turnless turn (List.mem_cons_of_mem _ member)⟩

theorem of_execution {permitted : State κ μ → Move κ μ → Prop}
    {start state : State κ μ} {moves : List (Move κ μ)} {key : κ}
    (stranded : Stranded start key) (tidy : Tidy start)
    (execution :
      Transition.Execution Step permitted start moves state) :
    Stranded state key := by
  have both : Tidy state ∧ Stranded state key := by
    apply execution.invariant fun state => Tidy state ∧ Stranded state key
    · exact ⟨tidy, stranded⟩
    · rintro current move next ⟨tidy, stranded⟩ _ moved
      exact ⟨tidy.step moved, stranded.step tidy moved⟩
  exact both.2

end Stranded

/-- A turn whose box has been closed. -/
def Dead (state : State κ μ) : Prop :=
  ∃ turn ∈ state.turns, turn.live = false

/-- A dead turn can only be abandoned. -/
theorem Dead.step {state next : State κ μ} {move : Move κ μ}
    (dead : Dead state) (stays : move ≠ .unwind)
    (moved : Step state move next) : Dead next := by
  obtain ⟨turn, member, closed⟩ := dead
  have below : ∀ {key : κ} {hand : Hand μ} {rest : List (Turn κ μ)},
      state.turns = ⟨key, true, hand⟩ :: rest → turn ∈ rest := by
    intro key hand rest current
    rw [current] at member
    rcases List.mem_cons.mp member with top | below
    · rw [top] at closed
      cases closed
    · exact below
  cases moved with
  | openBox _ => exact ⟨turn, member, closed⟩
  | accept _ _ => exact ⟨turn, member, closed⟩
  | refuse => exact ⟨turn, member, closed⟩
  | halt _ => exact ⟨turn, member, closed⟩
  | @close key _ _ _ _ =>
      refine ⟨turn.closing key, List.mem_map_of_mem member, ?_⟩
      apply Bool.eq_false_iff.mpr
      intro live
      rw [(closing_live.mp live).1] at closed
      cases closed
  | acquire _ _ => exact ⟨turn, List.mem_cons_of_mem _ member, closed⟩
  | discard _ _ => exact ⟨turn, member, closed⟩
  | take current _ _ _ =>
      exact ⟨turn, List.mem_cons_of_mem _ (below current), closed⟩
  | deliver current _ =>
      exact ⟨turn, List.mem_cons_of_mem _ (below current), closed⟩
  | @handle key live rest message current =>
      rw [current] at member
      rcases List.mem_cons.mp member with top | older
      · rw [top] at closed
        exact ⟨⟨key, live, .empty⟩, List.mem_cons_self, closed⟩
      · exact ⟨turn, List.mem_cons_of_mem _ older, closed⟩
  | finish current _ => exact ⟨turn, below current, closed⟩
  | unwind _ => exact absurd rfl stays

/-- If no turn is abandoned, a box closed during a turn of its own leaves that
turn behind for good. -/
theorem orderly_or_dead {moves : List (Move κ μ)} {state : State κ μ}
    (reached : Reaches (fun _ move => move ≠ .unwind) moves state) :
    Reaches Orderly moves state ∨ Dead state := by
  induction reached with
  | nil => exact .inl .nil
  | @snoc moves state next move _ stays moved induction =>
      rcases induction with orderly | dead
      · by_cases shelters : Sheltering state move
        · exact .inl (.snoc orderly ⟨shelters, stays⟩ moved)
        · right
          cases moved with
          | @close key box _ present split =>
              simp only [Sheltering, not_forall, not_not] at shelters
              obtain ⟨turn, member, named⟩ := shelters
              refine ⟨turn.closing key, List.mem_map_of_mem member, ?_⟩
              apply Bool.eq_false_iff.mpr
              intro live
              exact (closing_live.mp live).2 named
          | _ => exact absurd trivial shelters
      · exact .inr (dead.step stays moved)

/-- When all turns have come to their end, nothing is in flight and all work
waits to be acquired. -/
theorem settled_grounded {moves : List (Move κ μ)} {state : State κ μ}
    (reached : Reaches (fun _ move => move ≠ .unwind) moves state)
    (settled : state.turns = []) :
    state.flying = ∅ ∧ ∀ key, HasWork state key → key ∈ state.ready := by
  rcases orderly_or_dead reached with orderly | ⟨turn, member, _⟩
  · have awake := Awake.of_reaches (fun _ _ orderly => orderly) orderly
    have landed : state.flying = ∅ := by
      apply Finset.eq_empty_of_forall_notMem
      intro key flies
      obtain ⟨turn, member, _⟩ := awake.flyingTurn key flies
      rw [settled] at member
      cases member
    refine ⟨landed, ?_⟩
    intro key work
    rcases awake.awake key work with waits | flies
    · exact waits
    · rw [landed] at flies
      cases flies
  · rw [settled] at member
    cases member

end Mailbox
