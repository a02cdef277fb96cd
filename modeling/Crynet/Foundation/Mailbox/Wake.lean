import Crynet.Foundation.Mailbox.Turns

/-!
# No lost wake-up

In an orderly execution every running box with work is ready or has a turn.
If besides no box is closed while its key is ready, every ready key has a box
with work, so acquiring a turn always finds something to do.
-/

namespace Mailbox

variable {κ μ : Type*} [DecidableEq κ]

/-- A running box with something in its queue. -/
def HasWork (state : State κ μ) (key : κ) : Prop :=
  ∃ box, state.box key = some box ∧ box.running = true ∧ box.queue ≠ []

structure Awake (state : State κ μ) : Prop where
  flyingTurn : ∀ key ∈ state.flying, ∃ turn ∈ state.turns, turn.key = key
  awake : ∀ key, HasWork state key → key ∈ state.ready ∨ key ∈ state.flying

/-- Work that a move leaves to a key it does not concern was there before. -/
private theorem hasWork_of_update {state : State κ μ} {key other : κ}
    {value : Option (Box μ)} {next : State κ μ}
    (written : next.box = Function.update state.box key value)
    (different : other ≠ key) (work : HasWork next other) :
    HasWork state other := by
  obtain ⟨box, present, rest⟩ := work
  rw [written, Function.update_of_ne different] at present
  exact ⟨box, present, rest⟩

namespace Awake

omit [DecidableEq κ] in
theorem initially : Awake (empty : State κ μ) where
  flyingTurn := by simp [empty]
  awake := by
    rintro key ⟨box, present, _⟩
    cases present

omit [DecidableEq κ] in
/-- Replacing the hand of the current turn leaves every turn its key. -/
private theorem flyingTurn_of_hand {state : State κ μ} (awake : Awake state)
    {turn other : Turn κ μ} {rest : List (Turn κ μ)}
    (current : state.turns = turn :: rest) (same : other.key = turn.key) :
    ∀ key ∈ state.flying, ∃ candidate ∈ other :: rest,
      candidate.key = key := by
  intro key flies
  obtain ⟨candidate, member, named⟩ := awake.flyingTurn key flies
  rw [current] at member
  rcases List.mem_cons.mp member with top | below
  · refine ⟨other, List.mem_cons_self, ?_⟩
    rw [same, ← top]
    exact named
  · exact ⟨candidate, List.mem_cons_of_mem _ below, named⟩

/-- When one box is written, only its own key has to be looked at. -/
private theorem awake_updated {state next : State κ μ} (awake : Awake state)
    {key : κ} {value : Option (Box μ)}
    (written : next.box = Function.update state.box key value)
    (ready : ∀ other ∈ state.ready, other ∈ next.ready)
    (flying : next.flying = state.flying)
    (here : HasWork next key → key ∈ next.ready ∨ key ∈ next.flying) :
    ∀ other, HasWork next other →
      other ∈ next.ready ∨ other ∈ next.flying := by
  intro other work
  by_cases same : other = key
  · subst same
    exact here work
  · rw [flying]
    have before := awake.awake other (hasWork_of_update written same work)
    exact before.imp_left (ready other)

theorem step {state next : State κ μ} {move : Move κ μ}
    (awake : Awake state) (tidy : Tidy state)
    (allowed : Orderly state move) (moved : Step state move next) :
    Awake next := by
  obtain ⟨_, stays⟩ := allowed
  cases moved with
  | openBox absent =>
      refine ⟨awake.flyingTurn, awake_updated awake rfl ?_ rfl ?_⟩
      · exact fun _ member => member
      · rintro ⟨box, present, _, nonempty⟩
        simp only [Function.update_self, Option.some.injEq] at present
        rw [← present] at nonempty
        exact absurd rfl nonempty
  | @accept key message box present running =>
      refine ⟨awake.flyingTurn, awake_updated awake rfl ?_ rfl ?_⟩
      · exact fun _ member => mem_wake.mpr (Or.inl member)
      · intro _
        by_cases flies : key ∈ state.flying
        · exact Or.inr flies
        · exact Or.inl (mem_wake.mpr (Or.inr ⟨rfl, flies⟩))
  | refuse => exact ⟨awake.flyingTurn, awake.awake⟩
  | halt present =>
      refine ⟨awake.flyingTurn, awake_updated awake rfl ?_ rfl ?_⟩
      · exact fun _ member => member
      · rintro ⟨now, same, running, _⟩
        simp only [Function.update_self, Option.some.injEq] at same
        rw [← same] at running
        cases running
  | close present _ =>
      refine ⟨?_, awake_updated awake rfl ?_ rfl ?_⟩
      · intro other flies
        obtain ⟨turn, member, named⟩ := awake.flyingTurn other flies
        refine ⟨turn.closing _, List.mem_map_of_mem member, ?_⟩
        rw [closing_key]
        exact named
      · exact fun _ member => member
      · rintro ⟨now, same, _⟩
        simp only [Function.update_self, reduceCtorEq] at same
  | @acquire key rest box next present =>
      refine ⟨?_, ?_⟩
      · intro other flies
        rcases Finset.mem_insert.mp flies with same | old
        · exact ⟨⟨key, true, .empty⟩, List.mem_cons_self, same.symm⟩
        · obtain ⟨turn, member, named⟩ := awake.flyingTurn other old
          exact ⟨turn, List.mem_cons_of_mem _ member, named⟩
      · intro other work
        rcases awake.awake other work with waits | flies
        · rw [next] at waits
          rcases List.mem_cons.mp waits with same | behind
          · exact Or.inr (Finset.mem_insert.mpr (Or.inl same))
          · exact Or.inl behind
        · exact Or.inr (Finset.mem_insert_of_mem flies)
  | @discard key rest next absent =>
      refine ⟨awake.flyingTurn, ?_⟩
      intro other work
      rcases awake.awake other work with waits | flies
      · rw [next] at waits
        rcases List.mem_cons.mp waits with same | behind
        · obtain ⟨box, present, _⟩ := work
          rw [same] at present
          rw [absent] at present
          cases present
        · exact Or.inl behind
      · exact Or.inr flies
  | @take key rest box message queue _ current present first _ =>
      refine ⟨awake.flyingTurn_of_hand current rfl,
        awake_updated awake rfl ?_ rfl ?_⟩
      · exact fun _ member => member
      · intro _
        right
        apply tidy.turnsFly ⟨key, true, .empty⟩
        rw [current]
        exact List.mem_cons_self
  | deliver current _ =>
      exact ⟨awake.flyingTurn_of_hand current rfl, awake.awake⟩
  | handle current =>
      exact ⟨awake.flyingTurn_of_hand current rfl, awake.awake⟩
  | @finish key rest box current present =>
      refine ⟨?_, ?_⟩
      · intro other flies
        obtain ⟨different, old⟩ := Finset.mem_erase.mp flies
        obtain ⟨turn, member, named⟩ := awake.flyingTurn other old
        rw [current] at member
        rcases List.mem_cons.mp member with top | below
        · rw [top] at named
          exact absurd named.symm different
        · exact ⟨turn, below, named⟩
      · intro other work
        by_cases here : other = key
        · subst here
          left
          obtain ⟨now, same, running, nonempty⟩ := work
          have sameBox : box = now := Option.some.inj (present.symm.trans same)
          apply mem_rewake.mpr
          right
          rw [sameBox]
          exact ⟨⟨nonempty, running⟩, rfl, Finset.notMem_erase _ _⟩
        · rcases awake.awake other work with waits | flies
          · exact Or.inl (mem_rewake.mpr (Or.inl waits))
          · exact Or.inr (Finset.mem_erase.mpr ⟨here, flies⟩)
  | unwind _ => exact absurd rfl stays

/-- The run lemma of wake-up. -/
theorem of_reaches {permitted : State κ μ → Move κ μ → Prop}
    (orderly : ∀ state move, permitted state move → Orderly state move)
    {moves : List (Move κ μ)} {state : State κ μ}
    (reached : Reaches permitted moves state) : Awake state := by
  have both : Tidy state ∧ Awake state := by
    apply reached.invariant fun state => Tidy state ∧ Awake state
    · exact ⟨Tidy.initially, initially⟩
    · rintro current move next ⟨tidy, awake⟩ allowed moved
      exact ⟨tidy.step moved,
        awake.step tidy (orderly current move allowed) moved⟩
  exact both.2

end Awake

/-- An orderly move that closes no box whose key is ready. -/
def Careful (state : State κ μ) (move : Move κ μ) : Prop :=
  Orderly state move ∧ ∀ key, move = .close key → key ∉ state.ready

omit [DecidableEq κ] in
theorem Ordinary.careful {state : State κ μ} {move : Move κ μ}
    (ordinary : Ordinary move) : Careful state move := by
  cases move with
  | openBox _ => exact absurd ordinary id
  | halt _ => exact absurd ordinary id
  | close _ => exact absurd ordinary id
  | unwind => exact absurd ordinary id
  | _ => exact ⟨⟨trivial, nofun⟩, nofun⟩

/-- Every ready key has a box with something in its queue. -/
def ReadyHasWork (state : State κ μ) : Prop :=
  ∀ key ∈ state.ready, ∃ box, state.box key = some box ∧ box.queue ≠ []

namespace ReadyHasWork

theorem step {state next : State κ μ} {move : Move κ μ}
    (useful : ReadyHasWork state) (tidy : Tidy state)
    (allowed : Careful state move) (moved : Step state move next) :
    ReadyHasWork next := by
  obtain ⟨_, spared⟩ := allowed
  intro other waits
  cases moved with
  | @openBox key absent =>
      obtain ⟨box, present, nonempty⟩ := useful other waits
      have different : other ≠ key := by
        intro same
        rw [same, absent] at present
        cases present
      exact ⟨box, (Function.update_of_ne different _ _).trans present, nonempty⟩
  | @accept key message box present running =>
      by_cases here : other = key
      · subst here
        refine ⟨_, Function.update_self _ _ _, ?_⟩
        simp
      · rcases mem_wake.mp waits with old | ⟨same, _⟩
        · obtain ⟨now, found, nonempty⟩ := useful other old
          exact ⟨now, (Function.update_of_ne here _ _).trans found, nonempty⟩
        · exact absurd same here
  | refuse => exact useful other waits
  | @halt key box present =>
      obtain ⟨now, found, nonempty⟩ := useful other waits
      by_cases here : other = key
      · subst here
        refine ⟨_, Function.update_self _ _ _, ?_⟩
        rw [Option.some.inj (present.symm.trans found)]
        exact nonempty
      · exact ⟨now, (Function.update_of_ne here _ _).trans found, nonempty⟩
  | @close key box _ present _ =>
      obtain ⟨now, found, nonempty⟩ := useful other waits
      have different : other ≠ key := by
        intro same
        rw [same] at waits
        exact spared key rfl waits
      exact ⟨now, (Function.update_of_ne different _ _).trans found, nonempty⟩
  | acquire next _ =>
      apply useful other
      rw [next]
      exact List.mem_cons_of_mem _ waits
  | discard next _ =>
      apply useful other
      rw [next]
      exact List.mem_cons_of_mem _ waits
  | @take key rest box message queue _ current present _ _ =>
      obtain ⟨now, found, nonempty⟩ := useful other waits
      have different : other ≠ key := by
        intro same
        apply tidy.grounded other waits
        rw [same]
        apply tidy.turnsFly ⟨key, true, .empty⟩
        rw [current]
        exact List.mem_cons_self
      exact ⟨now, (Function.update_of_ne different _ _).trans found, nonempty⟩
  | deliver _ _ => exact useful other waits
  | handle _ => exact useful other waits
  | finish _ present =>
      rcases mem_rewake.mp waits with old | ⟨⟨nonempty, _⟩, same, _⟩
      · exact useful other old
      · rw [same]
        exact ⟨_, present, nonempty⟩
  | unwind _ => exact useful other waits

theorem of_reaches {moves : List (Move κ μ)} {state : State κ μ}
    (reached : Reaches Careful moves state) : ReadyHasWork state := by
  have both : Tidy state ∧ ReadyHasWork state := by
    apply reached.invariant fun state => Tidy state ∧ ReadyHasWork state
    · refine ⟨Tidy.initially, ?_⟩
      intro key member
      cases member
    · rintro current move next ⟨tidy, useful⟩ allowed moved
      exact ⟨tidy.step moved, useful.step tidy allowed moved⟩
  exact both.2

end ReadyHasWork

end Mailbox
