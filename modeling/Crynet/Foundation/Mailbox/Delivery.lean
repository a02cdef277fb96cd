import Crynet.Foundation.Mailbox.Turns

/-!
# Delivery in the order of acceptance

In an orderly execution that opens every key at most once, the messages
accepted for a key are the ones delivered to it, then the one its turn holds,
then its queue, in this order.
-/

namespace Mailbox

variable {κ μ : Type*} [DecidableEq κ]

/-- The messages accepted for a key, in order. -/
def acceptedFor (key : κ) (log : List (Entry κ μ)) : List μ :=
  log.filterMap fun entry =>
    match entry with
    | .accepted other message => if other = key then some message else none
    | _ => none

/-- The messages delivered to a key, in order. -/
def deliveredTo (key : κ) (log : List (Entry κ μ)) : List μ :=
  log.filterMap fun entry =>
    match entry with
    | .delivered other message _ => if other = key then some message else none
    | _ => none

/-- The messages the turns of a key hold. -/
def heldFor (key : κ) (turns : List (Turn κ μ)) : List μ :=
  turns.filterMap fun turn =>
    match turn.hand with
    | .held message => if turn.key = key then some message else none
    | _ => none

/-- An orderly move that opens no key for the second time. -/
def Fresh (state : State κ μ) (move : Move κ μ) : Prop :=
  Orderly state move ∧
    ∀ key, move = .openBox key → Entry.opened key ∉ state.log

/-- The order of messages, key by key. -/
structure InOrder (state : State κ μ) : Prop where
  complete : ∀ key box, state.box key = some box →
    acceptedFor key state.log =
      deliveredTo key state.log ++ heldFor key state.turns ++ box.queue
  ordered : ∀ key, deliveredTo key state.log <+: acceptedFor key state.log
  unopened : ∀ key, Entry.opened key ∉ state.log →
    state.box key = none ∧ acceptedFor key state.log = [] ∧
      deliveredTo key state.log = []

theorem acceptedFor_append (key : κ) (log : List (Entry κ μ))
    (entry : Entry κ μ) :
    acceptedFor key (log ++ [entry]) =
      acceptedFor key log ++ acceptedFor key [entry] :=
  List.filterMap_append

theorem deliveredTo_append (key : κ) (log : List (Entry κ μ))
    (entry : Entry κ μ) :
    deliveredTo key (log ++ [entry]) =
      deliveredTo key log ++ deliveredTo key [entry] :=
  List.filterMap_append

private theorem heldFor_eq_nil {key : κ} {turns : List (Turn κ μ)}
    (none : ∀ turn ∈ turns, turn.key ≠ key) : heldFor key turns = [] := by
  apply List.filterMap_eq_nil_iff.mpr
  intro turn member
  cases turn.hand with
  | empty => rfl
  | held message => exact if_neg (none turn member)
  | handling message => rfl

private theorem heldFor_closing (key closed : κ) (turns : List (Turn κ μ)) :
    heldFor key (turns.map (Turn.closing closed)) = heldFor key turns := by
  rw [heldFor, heldFor, List.filterMap_map]
  apply List.filterMap_congr
  intro turn _
  simp only [Function.comp_apply, closing_hand, closing_key]

/-- Below its own turn a key has no other. -/
theorem heldFor_below {state : State κ μ} (tidy : Tidy state)
    {turn : Turn κ μ} {rest : List (Turn κ μ)}
    (current : state.turns = turn :: rest) : heldFor turn.key rest = [] := by
  have distinct := tidy.turnsNodup
  rw [current, List.map_cons, List.nodup_cons] at distinct
  apply heldFor_eq_nil
  intro other member same
  exact distinct.1 (List.mem_map.mpr ⟨other, member, same⟩)

namespace InOrder

/-- A move that writes neither an acceptance nor a delivery, and keeps the
queues and what the turns hold. -/
private theorem of_silent {state next : State κ μ} (order : InOrder state)
    (entries : List (Entry κ μ)) (written : next.log = state.log ++ entries)
    (silent : ∀ key, acceptedFor key entries = [] ∧ deliveredTo key entries = [])
    (opens : ∀ key, Entry.opened key ∉ next.log → Entry.opened key ∉ state.log)
    (held : ∀ key, heldFor key next.turns = heldFor key state.turns)
    (boxes : ∀ key box, next.box key = some box →
      ∃ before, state.box key = some before ∧ before.queue = box.queue)
    (closed : ∀ key, state.box key = none → next.box key = none) :
    InOrder next := by
  have accepted : ∀ key,
      acceptedFor key next.log = acceptedFor key state.log := by
    intro key
    rw [written, acceptedFor, List.filterMap_append]
    exact (congrArg _ (silent key).1).trans (List.append_nil _)
  have delivered : ∀ key,
      deliveredTo key next.log = deliveredTo key state.log := by
    intro key
    rw [written, deliveredTo, List.filterMap_append]
    exact (congrArg _ (silent key).2).trans (List.append_nil _)
  constructor
  · intro key box present
    obtain ⟨before, existed, sameQueue⟩ := boxes key box present
    rw [accepted, delivered, held, ← sameQueue]
    exact order.complete key before existed
  · intro key
    rw [accepted, delivered]
    exact order.ordered key
  · intro key unopened
    obtain ⟨absent, noneAccepted, noneDelivered⟩ :=
      order.unopened key (opens key unopened)
    rw [accepted, delivered]
    exact ⟨closed key absent, noneAccepted, noneDelivered⟩

/-- A move that concerns one key that has been opened. -/
private theorem of_key {state next : State κ μ} (order : InOrder state)
    (key : κ)
    (others : ∀ other, other ≠ key →
      acceptedFor other next.log = acceptedFor other state.log ∧
      deliveredTo other next.log = deliveredTo other state.log ∧
      heldFor other next.turns = heldFor other state.turns ∧
      next.box other = state.box other ∧
      (Entry.opened other ∉ next.log → Entry.opened other ∉ state.log))
    (complete : ∀ box, next.box key = some box →
      acceptedFor key next.log =
        deliveredTo key next.log ++ heldFor key next.turns ++ box.queue)
    (ordered : deliveredTo key next.log <+: acceptedFor key next.log)
    (opened : Entry.opened key ∈ next.log) : InOrder next := by
  constructor
  · intro other box present
    by_cases same : other = key
    · rw [same] at present ⊢
      exact complete box present
    · obtain ⟨accepted, delivered, held, unchanged, _⟩ := others other same
      rw [accepted, delivered, held]
      rw [unchanged] at present
      exact order.complete other box present
  · intro other
    by_cases same : other = key
    · rw [same]
      exact ordered
    · obtain ⟨accepted, delivered, _, _, _⟩ := others other same
      rw [accepted, delivered]
      exact order.ordered other
  · intro other unopened
    by_cases same : other = key
    · rw [same] at unopened
      exact absurd opened unopened
    · obtain ⟨accepted, delivered, _, unchanged, before⟩ := others other same
      rw [accepted, delivered, unchanged]
      exact order.unopened other (before unopened)

private theorem opened_of_present {state : State κ μ} (order : InOrder state)
    {key : κ} {box : Box μ} (present : state.box key = some box) :
    Entry.opened key ∈ state.log := by
  by_contra unopened
  rw [(order.unopened key unopened).1] at present
  cases present

omit [DecidableEq κ] in
private theorem notMem_append {log : List (Entry κ μ)} {added : Entry κ μ}
    {entry : Entry κ μ} (absent : entry ∉ log ++ [added]) : entry ∉ log :=
  fun member => absent (List.mem_append.mpr (Or.inl member))

private theorem step_openBox {state : State κ μ} (order : InOrder state)
    (live : TurnsLive state) {key : κ} (absent : state.box key = none)
    (unopened : Entry.opened key ∉ state.log) :
    InOrder
      { state with
        box := Function.update state.box key (some ⟨true, []⟩)
        log := state.log ++ [.opened key] } := by
  obtain ⟨_, noneAccepted, noneDelivered⟩ := order.unopened key unopened
  have noneHeld : heldFor key state.turns = [] := by
    apply heldFor_eq_nil
    intro turn member same
    apply (live turn member).2
    rw [same]
    exact absent
  have accepted : acceptedFor key (state.log ++ [.opened key]) = [] := by
    rw [acceptedFor_append, noneAccepted]
    rfl
  have delivered : deliveredTo key (state.log ++ [.opened key]) = [] := by
    rw [deliveredTo_append, noneDelivered]
    rfl
  apply order.of_key key
  · intro other different
    refine ⟨?_, ?_, rfl, Function.update_of_ne different _ _,
      notMem_append⟩
    · exact (acceptedFor_append _ _ _).trans (List.append_nil _)
    · exact (deliveredTo_append _ _ _).trans (List.append_nil _)
  · intro box present
    simp only [Function.update_self, Option.some.injEq] at present
    rw [accepted, delivered, noneHeld, ← present]
    rfl
  · rw [accepted, delivered]
  · exact List.mem_append.mpr (Or.inr (List.mem_singleton_self _))

private theorem step_accept {state : State κ μ} (order : InOrder state)
    {key : κ} {message : μ} {box : Box μ}
    (present : state.box key = some box) (queued : Nat) (ready : List κ) :
    InOrder
      { state with
        box := Function.update state.box key
          (some { box with queue := box.queue ++ [message] })
        queued := queued
        ready := ready
        log := state.log ++ [.accepted key message] } := by
  have accepted : acceptedFor key (state.log ++ [.accepted key message]) =
      acceptedFor key state.log ++ [message] := by
    rw [acceptedFor_append]
    simp [acceptedFor]
  have delivered : deliveredTo key (state.log ++ [.accepted key message]) =
      deliveredTo key state.log := by
    exact (deliveredTo_append _ _ _).trans (List.append_nil _)
  apply order.of_key key
  · intro other different
    refine ⟨?_, ?_, rfl, Function.update_of_ne different _ _,
      notMem_append⟩
    · show acceptedFor other (state.log ++ [.accepted key message]) = _
      rw [acceptedFor_append]
      simp [acceptedFor, Ne.symm different]
    · exact (deliveredTo_append _ _ _).trans (List.append_nil _)
  · intro after same
    simp only [Function.update_self, Option.some.injEq] at same
    rw [accepted, delivered, order.complete key box present, ← same]
    simp only [List.append_assoc]
  · rw [accepted, delivered]
    exact (order.ordered key).trans (List.prefix_append _ _)
  · exact List.mem_append.mpr (Or.inl (order.opened_of_present present))

private theorem step_take {state : State κ μ} (order : InOrder state)
    (tidy : Tidy state) {key : κ} {rest : List (Turn κ μ)} {box : Box μ}
    {message : μ} {queue : List μ}
    (current : state.turns = ⟨key, true, .empty⟩ :: rest)
    (present : state.box key = some box)
    (first : box.queue = message :: queue) (queued : Nat) :
    InOrder
      { state with
        box := Function.update state.box key (some { box with queue := queue })
        queued := queued
        turns := ⟨key, true, .held message⟩ :: rest } := by
  have below : heldFor key rest = [] := heldFor_below tidy current
  have before : heldFor key state.turns = [] := by
    rw [current]
    exact below
  have after : heldFor key (⟨key, true, .held message⟩ :: rest) =
      [message] := by
    show heldFor key ([⟨key, true, .held message⟩] ++ rest) = _
    rw [heldFor, List.filterMap_append, ← heldFor, ← heldFor, below]
    simp [heldFor]
  apply order.of_key key
  · intro other different
    refine ⟨rfl, rfl, ?_, Function.update_of_ne different _ _, id⟩
    rw [current]
    simp [heldFor, Ne.symm different]
  · intro now same
    simp only [Function.update_self, Option.some.injEq] at same
    have complete := order.complete key box present
    rw [before, first] at complete
    rw [complete, after, ← same]
    simp only [List.append_assoc, List.nil_append, List.singleton_append]
  · exact order.ordered key
  · exact order.opened_of_present present

private theorem step_deliver {state : State κ μ} (order : InOrder state)
    (tidy : Tidy state) {key : κ} {rest : List (Turn κ μ)} {box : Box μ}
    {message : μ}
    (current : state.turns = ⟨key, true, .held message⟩ :: rest)
    (present : state.box key = some box) (running : Bool) :
    InOrder
      { state with
        turns := ⟨key, true, .handling message⟩ :: rest
        log := state.log ++ [.delivered key message running] } := by
  have below : heldFor key rest = [] := heldFor_below tidy current
  have before : heldFor key state.turns = [message] := by
    rw [current]
    show heldFor key ([⟨key, true, .held message⟩] ++ rest) = _
    rw [heldFor, List.filterMap_append, ← heldFor, ← heldFor, below]
    simp [heldFor]
  have accepted : acceptedFor key
      (state.log ++ [.delivered key message running]) =
        acceptedFor key state.log :=
    (acceptedFor_append _ _ _).trans (List.append_nil _)
  have delivered : deliveredTo key
      (state.log ++ [.delivered key message running]) =
        deliveredTo key state.log ++ [message] := by
    rw [deliveredTo_append]
    simp [deliveredTo]
  have complete := order.complete key box present
  rw [before] at complete
  apply order.of_key key
  · intro other different
    refine ⟨?_, ?_, ?_, rfl, notMem_append⟩
    · exact (acceptedFor_append _ _ _).trans (List.append_nil _)
    · show deliveredTo other (state.log ++ [.delivered key message running]) = _
      rw [deliveredTo_append]
      simp [deliveredTo, Ne.symm different]
    · rw [current]
      simp [heldFor, Ne.symm different]
  · intro now same
    have sameBox : box = now := Option.some.inj (present.symm.trans same)
    rw [accepted, delivered, complete, ← sameBox]
    show _ = _ ++ heldFor key rest ++ _
    rw [below, List.append_nil]
  · rw [accepted, delivered, complete]
    exact List.prefix_append _ _
  · exact List.mem_append.mpr (Or.inl (order.opened_of_present present))

theorem step {state next : State κ μ} {move : Move κ μ}
    (order : InOrder state) (tidy : Tidy state) (live : TurnsLive state)
    (allowed : Fresh state move) (moved : Step state move next) :
    InOrder next := by
  obtain ⟨⟨sheltered, stays⟩, fresh⟩ := allowed
  cases moved with
  | @openBox key absent =>
      exact order.step_openBox live absent (fresh key rfl)
  | accept present _ => exact order.step_accept present _ _
  | refuse =>
      apply order.of_silent [_]
      · rfl
      · exact fun _ => ⟨rfl, rfl⟩
      · exact fun _ => notMem_append
      · exact fun _ => rfl
      · exact fun _ box present => ⟨box, present, rfl⟩
      · exact fun _ absent => absent
  | @halt key box present =>
      apply order.of_silent []
      · exact (List.append_nil _).symm
      · exact fun _ => ⟨rfl, rfl⟩
      · exact fun _ => id
      · exact fun _ => rfl
      · intro other now same
        by_cases here : other = key
        · subst here
          simp only [Function.update_self, Option.some.injEq] at same
          exact ⟨box, present, by rw [← same]⟩
        · simp only [Function.update_of_ne here] at same
          exact ⟨now, same, rfl⟩
      · intro other absent
        by_cases here : other = key
        · rw [here, present] at absent
          cases absent
        · exact (Function.update_of_ne here _ _).trans absent
  | @close key box _ present _ =>
      apply order.of_silent [_]
      · rfl
      · exact fun _ => ⟨rfl, rfl⟩
      · exact fun _ => notMem_append
      · exact fun other => heldFor_closing other key state.turns
      · intro other now same
        by_cases here : other = key
        · subst here
          simp only [Function.update_self, reduceCtorEq] at same
        · simp only [Function.update_of_ne here] at same
          exact ⟨now, same, rfl⟩
      · intro other absent
        by_cases here : other = key
        · subst here
          exact Function.update_self _ _ _
        · exact (Function.update_of_ne here _ _).trans absent
  | acquire _ _ =>
      apply order.of_silent []
      · exact (List.append_nil _).symm
      · exact fun _ => ⟨rfl, rfl⟩
      · exact fun _ => id
      · exact fun _ => rfl
      · exact fun _ box present => ⟨box, present, rfl⟩
      · exact fun _ absent => absent
  | discard _ _ =>
      apply order.of_silent []
      · exact (List.append_nil _).symm
      · exact fun _ => ⟨rfl, rfl⟩
      · exact fun _ => id
      · exact fun _ => rfl
      · exact fun _ box present => ⟨box, present, rfl⟩
      · exact fun _ absent => absent
  | take current present first _ =>
      exact order.step_take tidy current present first _
  | deliver current present => exact order.step_deliver tidy current present _
  | handle current =>
      apply order.of_silent [_]
      · rfl
      · exact fun _ => ⟨rfl, rfl⟩
      · exact fun _ => notMem_append
      · intro other
        rw [current]
        rfl
      · exact fun _ box present => ⟨box, present, rfl⟩
      · exact fun _ absent => absent
  | finish current _ =>
      apply order.of_silent []
      · exact (List.append_nil _).symm
      · exact fun _ => ⟨rfl, rfl⟩
      · exact fun _ => id
      · intro other
        rw [current]
        rfl
      · exact fun _ box present => ⟨box, present, rfl⟩
      · exact fun _ absent => absent
  | unwind _ => exact absurd rfl stays

theorem initially : InOrder (empty : State κ μ) where
  complete := by
    intro key box present
    cases present
  ordered := fun _ => List.prefix_refl _
  unopened := fun _ _ => ⟨rfl, rfl, rfl⟩

/-- The run lemma of delivery. -/
theorem of_reaches {moves : List (Move κ μ)} {state : State κ μ}
    (reached : Reaches Fresh moves state) : InOrder state := by
  have all : Tidy state ∧ TurnsLive state ∧ InOrder state := by
    apply reached.invariant fun state =>
      Tidy state ∧ TurnsLive state ∧ InOrder state
    · refine ⟨Tidy.initially, ?_, initially⟩
      intro turn member
      cases member
    · rintro current move next ⟨tidy, live, order⟩ allowed moved
      exact ⟨tidy.step moved, live.step allowed.1.1 moved,
        order.step tidy live allowed moved⟩
  exact all.2.2

end InOrder

/-- A key is opened only by a move that opens it. -/
theorem opened_of_execution {permitted : State κ μ → Move κ μ → Prop}
    {start final : State κ μ} {moves : List (Move κ μ)} {key : κ}
    (moved : Transition.Execution Step permitted start moves final)
    (opened : Entry.opened key ∈ final.log) :
    Entry.opened key ∈ start.log ∨
      ∃ state, permitted state (.openBox key) := by
  induction moved with
  | nil => exact Or.inl opened
  | snoc _ allowed stepped induction =>
      cases stepped with
      | openBox _ =>
          rcases List.mem_append.mp opened with old | new
          · exact induction old
          · cases List.mem_singleton.mp new
            exact Or.inr ⟨_, allowed⟩
      | halt _ => exact induction opened
      | acquire _ _ => exact induction opened
      | discard _ _ => exact induction opened
      | take _ _ _ _ => exact induction opened
      | finish _ _ => exact induction opened
      | @unwind turn _ _ =>
          rcases List.mem_append.mp opened with old | spilled
          · exact induction old
          · unfold Turn.spill at spilled
            split at spilled <;> simp at spilled
      | _ =>
          rcases List.mem_append.mp opened with old | new
          · exact induction old
          · cases List.mem_singleton.mp new

end Mailbox
