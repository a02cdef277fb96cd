import Crynet.Foundation.Mailbox.Delivery

/-!
# Keys without a box

A key that has neither a box nor a turn stays like that until it is opened
again, whatever happens to the other keys and however often it still waits in
the ready queue.  Nothing is delivered to it meanwhile.
-/

namespace Mailbox

variable {κ μ : Type*}

/-- A key has neither a box nor a turn. -/
structure Vacant (state : State κ μ) (key : κ) : Prop where
  absent : state.box key = none
  idle : ∀ turn ∈ state.turns, turn.key ≠ key

namespace Vacant

variable {state next : State κ μ} {key : κ} {move : Move κ μ}

private theorem ne_of_present (vacant : Vacant state key) {other : κ} {box : Box μ}
    (present : state.box other = some box) : other ≠ key := by
  intro same
  rw [same, vacant.absent] at present
  cases present

/-- The turn on top changes hands. -/
theorem idle_top (vacant : Vacant state key) {turn changed : Turn κ μ}
    {rest : List (Turn κ μ)} (current : state.turns = turn :: rest)
    (sameKey : changed.key = turn.key) :
    ∀ other ∈ changed :: rest, other.key ≠ key := by
  have idle := vacant.idle
  rw [current] at idle
  intro other member
  rcases List.mem_cons.mp member with top | below
  · rw [top, sameKey]
    exact idle turn List.mem_cons_self
  · exact idle other (List.mem_cons_of_mem _ below)

/-- The turn on top ends. -/
theorem idle_rest (vacant : Vacant state key) {turn : Turn κ μ}
    {rest : List (Turn κ μ)} (current : state.turns = turn :: rest) :
    ∀ other ∈ rest, other.key ≠ key := by
  have idle := vacant.idle
  rw [current] at idle
  intro other below
  exact idle other (List.mem_cons_of_mem _ below)

variable [DecidableEq κ]

/-- Changing the box of another key leaves the key alone. -/
theorem update_absent (vacant : Vacant state key) {other : κ}
    (different : other ≠ key) (box : Option (Box μ)) :
    Function.update state.box other box key = none := by
  rw [Function.update_of_ne different.symm]
  exact vacant.absent

/-- A vacant key that is not opened stays vacant. -/
theorem step (vacant : Vacant state key) (unopened : move ≠ .openBox key)
    (moved : Step state move next) : Vacant next key := by
  cases moved with
  | @openBox other _ =>
      refine ⟨vacant.update_absent ?_ _, vacant.idle⟩
      intro same
      exact unopened (congrArg Move.openBox same)
  | accept present _ =>
      exact ⟨vacant.update_absent (vacant.ne_of_present present) _,
        vacant.idle⟩
  | refuse => exact ⟨vacant.absent, vacant.idle⟩
  | halt present =>
      exact ⟨vacant.update_absent (vacant.ne_of_present present) _,
        vacant.idle⟩
  | close present _ =>
      refine ⟨vacant.update_absent (vacant.ne_of_present present) _, ?_⟩
      intro turn member
      obtain ⟨before, inTurns, rfl⟩ := List.mem_map.mp member
      rw [closing_key]
      exact vacant.idle before inTurns
  | acquire _ present =>
      refine ⟨vacant.absent, ?_⟩
      intro turn member
      rcases List.mem_cons.mp member with top | below
      · rw [top]
        exact vacant.ne_of_present present
      · exact vacant.idle turn below
  | discard _ _ => exact ⟨vacant.absent, vacant.idle⟩
  | take current present _ _ =>
      exact ⟨vacant.update_absent (vacant.ne_of_present present) _,
        vacant.idle_top current rfl⟩
  | deliver current _ =>
      exact ⟨vacant.absent, vacant.idle_top current rfl⟩
  | handle current => exact ⟨vacant.absent, vacant.idle_top current rfl⟩
  | finish current _ => exact ⟨vacant.absent, vacant.idle_rest current⟩
  | unwind current => exact ⟨vacant.absent, vacant.idle_rest current⟩

private theorem deliveredTo_spill (key : κ) (turn : Turn κ μ) :
    deliveredTo key turn.spill = [] := by
  unfold Turn.spill
  cases turn.hand with
  | empty => rfl
  | held message => rfl
  | handling message => rfl

/-- Nothing is delivered to a vacant key. -/
theorem delivered_step (vacant : Vacant state key)
    (moved : Step state move next) :
    deliveredTo key next.log = deliveredTo key state.log := by
  cases moved with
  | deliver _ present =>
      have different := vacant.ne_of_present present
      rw [deliveredTo_append]
      simp only [deliveredTo, List.filterMap_cons, if_neg different,
        List.filterMap_nil, List.append_nil]
  | unwind current =>
      rw [deliveredTo, List.filterMap_append]
      exact (congrArg _ (deliveredTo_spill key _)).trans (List.append_nil _)
  | halt _ => rfl
  | acquire _ _ => rfl
  | discard _ _ => rfl
  | take _ _ _ _ => rfl
  | finish _ _ => rfl
  | _ =>
      rw [deliveredTo_append]
      exact List.append_nil _

/-- The run lemma of vacant keys. -/
theorem of_execution {permitted : State κ μ → Move κ μ → Prop}
    {start final : State κ μ} {moves : List (Move κ μ)}
    (vacant : Vacant start key)
    (unopened : ∀ state, ¬permitted state (.openBox key))
    (moved : Transition.Execution Step permitted start moves final) :
    Vacant final key ∧
      deliveredTo key final.log = deliveredTo key start.log := by
  apply moved.invariant fun current => Vacant current key ∧
    deliveredTo key current.log = deliveredTo key start.log
  · exact ⟨vacant, rfl⟩
  · rintro current move next ⟨vacant, same⟩ allowed moved
    refine ⟨vacant.step ?_ moved, (vacant.delivered_step moved).trans same⟩
    intro opens
    rw [opens] at allowed
    exact unopened current allowed

end Vacant

end Mailbox
