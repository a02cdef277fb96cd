import Crynet.Foundation.Mailbox.Moves
import Mathlib.Algebra.Ring.Nat
import Mathlib.Tactic.Common

/-!
# Where every message went

Every message passed to the system was refused, or is queued, or is in the hand
of a turn, or was handled, or was abandoned in a closed box, or was lost with a
turn.  The count is exact in every execution.
-/

namespace Mailbox

variable {κ μ : Type*} [DecidableEq κ]

namespace Entry

/-- Messages passed to the system by an entry. -/
def passed : Entry κ μ → Nat
  | .accepted _ _ => 1
  | .refused _ => 1
  | _ => 0

def refusals : Entry κ μ → Nat
  | .refused _ => 1
  | _ => 0

def handlings : Entry κ μ → Nat
  | .handled _ _ => 1
  | _ => 0

/-- Messages an entry throws away. -/
def waste : Entry κ μ → Nat
  | .closed _ abandoned => abandoned.length
  | .lost _ _ => 1
  | _ => 0

end Entry

/-- Sum of a count over the history. -/
def tally (count : Entry κ μ → Nat) (log : List (Entry κ μ)) : Nat :=
  (log.map count).sum

/-- Messages in the hands of turns. -/
def inHand (turns : List (Turn κ μ)) : Nat :=
  turns.countP fun turn =>
    match turn.hand with
    | .empty => false
    | _ => true

/-- The books balance. -/
def Balanced (state : State κ μ) : Prop :=
  tally Entry.passed state.log =
    tally Entry.handlings state.log + state.queued +
      tally Entry.refusals state.log + tally Entry.waste state.log +
      inHand state.turns

omit [DecidableEq κ] in
@[simp] theorem tally_append (count : Entry κ μ → Nat)
    (log more : List (Entry κ μ)) :
    tally count (log ++ more) = tally count log + tally count more := by
  rw [tally, List.map_append, List.sum_append]
  rfl

omit [DecidableEq κ] in
@[simp] theorem tally_singleton (count : Entry κ μ → Nat)
    (entry : Entry κ μ) : tally count [entry] = count entry := by
  simp [tally]

private theorem inHand_closing (key : κ) (turns : List (Turn κ μ)) :
    inHand (turns.map (Turn.closing key)) = inHand turns := by
  rw [inHand, List.countP_map, inHand]
  apply List.countP_congr
  intro turn _
  simp only [Function.comp_apply, closing_hand]

omit [DecidableEq κ] in
/-- What a turn spills is what it had in hand. -/
theorem inHand_cons_spill (turn : Turn κ μ) (rest : List (Turn κ μ)) :
    inHand (turn :: rest) =
      inHand rest + tally Entry.waste (Turn.spill turn) := by
  obtain ⟨key, live, hand⟩ := turn
  cases hand with
  | empty => simp [inHand, Turn.spill, tally]
  | held message => simp [inHand, Turn.spill, tally, Entry.waste]
  | handling message => simp [inHand, Turn.spill, tally, Entry.waste]

omit [DecidableEq κ] in
private theorem spill_silent (turn : Turn κ μ) :
    tally Entry.passed turn.spill = 0 ∧ tally Entry.handlings turn.spill = 0 ∧
      tally Entry.refusals turn.spill = 0 := by
  obtain ⟨key, live, hand⟩ := turn
  cases hand with
  | empty => exact ⟨rfl, rfl, rfl⟩
  | held message => exact ⟨rfl, rfl, rfl⟩
  | handling message => exact ⟨rfl, rfl, rfl⟩

/-- Moves that throw nothing away. -/
def Sparing (_ : State κ μ) : Move κ μ → Prop
  | .close _ => False
  | .unwind => False
  | _ => True

theorem waste_of_sparing {moves : List (Move κ μ)} {start final : State κ μ}
    (moved : Transition.Execution Step Sparing start moves final) :
    tally Entry.waste final.log = tally Entry.waste start.log := by
  apply moved.invariant fun state =>
    tally Entry.waste state.log = tally Entry.waste start.log
  · rfl
  · intro state move next same spares stepped
    cases stepped with
    | close _ _ => exact absurd spares id
    | unwind _ => exact absurd spares id
    | _ => simpa [Entry.waste] using same

namespace Balanced

theorem step {state next : State κ μ} {move : Move κ μ}
    (balanced : Balanced state) (moved : Step state move next) :
    Balanced next := by
  unfold Balanced at balanced ⊢
  cases moved with
  | openBox _ =>
      simp only [tally_append, tally_singleton, Entry.passed, Entry.handlings,
        Entry.refusals, Entry.waste]
      omega
  | accept _ _ =>
      simp only [tally_append, tally_singleton, Entry.passed, Entry.handlings,
        Entry.refusals, Entry.waste]
      omega
  | refuse =>
      simp only [tally_append, tally_singleton, Entry.passed, Entry.handlings,
        Entry.refusals, Entry.waste]
      omega
  | halt _ => exact balanced
  | close _ split =>
      simp only [tally_append, tally_singleton, Entry.passed, Entry.handlings,
        Entry.refusals, Entry.waste, inHand_closing]
      omega
  | acquire _ _ =>
      simpa [inHand] using balanced
  | discard _ _ => exact balanced
  | take current _ _ split =>
      simp only [current] at balanced
      simp only [inHand, List.countP_cons] at balanced ⊢
      simp at balanced ⊢
      omega
  | deliver current _ =>
      simp only [current] at balanced
      simp only [inHand, List.countP_cons, tally_append, tally_singleton,
        Entry.passed, Entry.handlings, Entry.refusals, Entry.waste]
        at balanced ⊢
      simp at balanced ⊢
      omega
  | handle current =>
      simp only [current] at balanced
      simp only [inHand, List.countP_cons, tally_append, tally_singleton,
        Entry.passed, Entry.handlings, Entry.refusals, Entry.waste]
        at balanced ⊢
      simp at balanced ⊢
      omega
  | finish current _ =>
      simp only [current] at balanced
      simpa [inHand] using balanced
  | @unwind turn rest current =>
      obtain ⟨noPassed, noHandled, noRefused⟩ := spill_silent turn
      simp only [current, inHand_cons_spill] at balanced
      simp only [tally_append, noPassed, noHandled, noRefused]
      omega

/-- The run lemma of the ledger. -/
theorem of_reaches {permitted : State κ μ → Move κ μ → Prop}
    {moves : List (Move κ μ)} {state : State κ μ}
    (reached : Reaches permitted moves state) : Balanced state := by
  apply reached.invariant Balanced
  · rfl
  · intro current move next balanced _ moved
    exact balanced.step moved

end Balanced

end Mailbox
