import Crynet.Foundation.Mailbox.Moves

/-!
# Keys and turns

Whatever moves are made, a key waits at most once, has at most one turn, and
never both.  While no box is closed during a turn of its own, every turn stays
live, so what it needs is there when it goes on.
-/

namespace Mailbox

variable {κ μ : Type*} [DecidableEq κ]

/-- What holds whatever moves are made. -/
structure Tidy (state : State κ μ) : Prop where
  readyNodup : state.ready.Nodup
  grounded : ∀ key ∈ state.ready, key ∉ state.flying
  turnsFly : ∀ turn ∈ state.turns, turn.key ∈ state.flying
  turnsNodup : (state.turns.map Turn.key).Nodup

namespace Tidy

omit [DecidableEq κ] in
theorem initially : Tidy (empty : State κ μ) where
  readyNodup := List.nodup_nil
  grounded := by simp [empty]
  turnsFly := by simp [empty]
  turnsNodup := List.nodup_nil

omit [DecidableEq κ] in
/-- Replacing the hand of the current turn changes no key. -/
private theorem of_hand {state next : State κ μ} (tidy : Tidy state)
    {turn other : Turn κ μ} {rest : List (Turn κ μ)}
    (current : state.turns = turn :: rest)
    (replaced : next.turns = other :: rest) (same : other.key = turn.key)
    (sameReady : next.ready = state.ready)
    (sameFlying : next.flying = state.flying) : Tidy next := by
  have keys : next.turns.map Turn.key = state.turns.map Turn.key := by
    rw [replaced, current, List.map_cons, List.map_cons, same]
  refine ⟨?_, ?_, ?_, ?_⟩
  · rw [sameReady]
    exact tidy.readyNodup
  · rw [sameReady, sameFlying]
    exact tidy.grounded
  · intro candidate member
    have known : candidate.key ∈ state.turns.map Turn.key := by
      rw [← keys]
      exact List.mem_map_of_mem member
    obtain ⟨before, inTurns, sameKey⟩ := List.mem_map.mp known
    rw [sameFlying, ← sameKey]
    exact tidy.turnsFly before inTurns
  · rw [keys]
    exact tidy.turnsNodup

theorem step {state next : State κ μ} {move : Move κ μ}
    (tidy : Tidy state) (moved : Step state move next) : Tidy next := by
  cases moved with
  | openBox _ => exact ⟨tidy.1, tidy.2, tidy.3, tidy.4⟩
  | accept _ _ =>
      exact ⟨wake_nodup _ _ tidy.readyNodup, wake_grounded _ tidy.grounded,
        tidy.turnsFly, tidy.turnsNodup⟩
  | refuse => exact ⟨tidy.1, tidy.2, tidy.3, tidy.4⟩
  | halt _ => exact ⟨tidy.1, tidy.2, tidy.3, tidy.4⟩
  | @close key _ _ _ _ =>
      refine ⟨tidy.readyNodup, tidy.grounded, ?_, ?_⟩
      · intro turn member
        obtain ⟨before, inTurns, rfl⟩ := List.mem_map.mp member
        rw [closing_key]
        exact tidy.turnsFly before inTurns
      · rw [List.map_map]
        have keys : Turn.key ∘ Turn.closing key =
            (Turn.key : Turn κ μ → κ) :=
          funext fun turn => closing_key key turn
        rw [keys]
        exact tidy.turnsNodup
  | @acquire key rest box next present =>
      have distinct := tidy.readyNodup
      have grounded := tidy.grounded
      rw [next] at distinct grounded
      obtain ⟨notRest, restDistinct⟩ := List.nodup_cons.mp distinct
      have notFlying := grounded key List.mem_cons_self
      refine ⟨restDistinct, ?_, ?_, ?_⟩
      · intro other member flies
        rcases Finset.mem_insert.mp flies with same | flying
        · rw [same] at member
          exact notRest member
        · exact grounded other (List.mem_cons_of_mem _ member) flying
      · intro turn member
        rcases List.mem_cons.mp member with top | below
        · rw [top]
          exact Finset.mem_insert_self _ _
        · exact Finset.mem_insert_of_mem (tidy.turnsFly turn below)
      · rw [List.map_cons]
        apply List.nodup_cons.mpr
        refine ⟨?_, tidy.turnsNodup⟩
        intro member
        obtain ⟨turn, inTurns, same⟩ := List.mem_map.mp member
        have flies := tidy.turnsFly turn inTurns
        rw [same] at flies
        exact notFlying flies
  | discard next _ =>
      have distinct := tidy.readyNodup
      have grounded := tidy.grounded
      rw [next] at distinct grounded
      exact ⟨(List.nodup_cons.mp distinct).2,
        fun other member => grounded other (List.mem_cons_of_mem _ member),
        tidy.turnsFly, tidy.turnsNodup⟩
  | take current _ _ _ => exact tidy.of_hand current rfl rfl rfl rfl
  | deliver current _ => exact tidy.of_hand current rfl rfl rfl rfl
  | handle current => exact tidy.of_hand current rfl rfl rfl rfl
  | @finish key rest box current present =>
      have fly := tidy.turnsFly
      have distinct := tidy.turnsNodup
      rw [current] at fly distinct
      obtain ⟨notRest, restDistinct⟩ := List.nodup_cons.mp distinct
      have landed : ∀ other ∈ state.ready, other ∉ state.flying.erase key := by
        intro other member flies
        exact tidy.grounded other member (Finset.mem_of_mem_erase flies)
      refine ⟨rewake_nodup box _ _ tidy.readyNodup,
        rewake_grounded box key landed, ?_, restDistinct⟩
      · intro (turn : Turn κ μ) (member : turn ∈ rest)
        apply Finset.mem_erase.mpr
        refine ⟨?_, fly turn (List.mem_cons_of_mem _ member)⟩
        intro same
        apply notRest
        exact List.mem_map.mpr ⟨turn, member, same⟩
  | unwind current =>
      have fly := tidy.turnsFly
      have distinct := tidy.turnsNodup
      rw [current] at fly distinct
      exact ⟨tidy.readyNodup, tidy.grounded,
        fun turn member => fly turn (List.mem_cons_of_mem _ member),
        (List.nodup_cons.mp distinct).2⟩

theorem of_reaches {permitted : State κ μ → Move κ μ → Prop}
    {moves : List (Move κ μ)} {state : State κ μ}
    (reached : Reaches permitted moves state) : Tidy state :=
  reached.invariant Tidy initially fun _ _ _ tidy _ moved => tidy.step moved

end Tidy

/-- The box of a live turn is there. -/
def LivePresent (state : State κ μ) : Prop :=
  ∀ turn ∈ state.turns, turn.live = true → state.box turn.key ≠ none

/-- Every turn is live and its box is there. -/
def TurnsLive (state : State κ μ) : Prop :=
  ∀ turn ∈ state.turns, turn.live = true ∧ state.box turn.key ≠ none

/-- An update of a box that stays a box. -/
private theorem update_ne_none {box : κ → Option (Box μ)} {key other : κ}
    (value : Box μ) (present : box other ≠ none) :
    Function.update box key (some value) other ≠ none := by
  by_cases same : other = key
  · subst same
    simp
  · rw [Function.update_of_ne same]
    exact present

namespace LivePresent

omit [DecidableEq κ] in
/-- The turns below the current one. -/
private theorem below {state : State κ μ} (present : LivePresent state)
    {turn other : Turn κ μ} {rest : List (Turn κ μ)}
    (current : state.turns = turn :: rest) (member : other ∈ rest)
    (live : other.live = true) : state.box other.key ≠ none := by
  apply present other _ live
  rw [current]
  exact List.mem_cons_of_mem _ member

/-- Closing a box marks its turns, so no move leaves a live turn without its
box. -/
theorem step {state next : State κ μ} {move : Move κ μ}
    (present : LivePresent state) (moved : Step state move next) :
    LivePresent next := by
  intro turn member live
  cases moved with
  | openBox _ => exact update_ne_none _ (present turn member live)
  | accept _ _ => exact update_ne_none _ (present turn member live)
  | refuse => exact present turn member live
  | halt _ => exact update_ne_none _ (present turn member live)
  | @close key box _ _ _ =>
      obtain ⟨before, inTurns, rfl⟩ := List.mem_map.mp member
      obtain ⟨alive, elsewhere⟩ := closing_live.mp live
      rw [closing_key]
      show Function.update state.box key none before.key ≠ none
      rw [Function.update_of_ne elsewhere]
      exact present before inTurns alive
  | acquire _ found =>
      rcases List.mem_cons.mp member with top | older
      · subst top
        rw [found]
        exact Option.some_ne_none _
      · exact present turn older live
  | discard _ _ => exact present turn member live
  | @take key rest box message queue _ current found _ _ =>
      rcases List.mem_cons.mp member with top | older
      · subst top
        apply update_ne_none
        rw [found]
        exact Option.some_ne_none _
      · exact update_ne_none _ (present.below current older live)
  | deliver current found =>
      rcases List.mem_cons.mp member with top | older
      · subst top
        rw [found]
        exact Option.some_ne_none _
      · exact present.below current older live
  | @handle key alive rest message current =>
      rcases List.mem_cons.mp member with top | older
      · subst top
        apply present ⟨key, alive, .handling message⟩ _ live
        rw [current]
        exact List.mem_cons_self
      · exact present.below current older live
  | finish current _ => exact present.below current member live
  | unwind current => exact present.below current member live

theorem of_reaches {permitted : State κ μ → Move κ μ → Prop}
    {moves : List (Move κ μ)} {state : State κ μ}
    (reached : Reaches permitted moves state) : LivePresent state := by
  apply reached.invariant LivePresent
  · intro turn member
    cases member
  · intro current move next present _ moved
    exact present.step moved

end LivePresent

omit [DecidableEq κ] in
private theorem TurnsLive.livePresent {state : State κ μ} (live : TurnsLive state) :
    LivePresent state :=
  fun turn member _ => (live turn member).2

/-- While boxes with a turn are not closed, every turn stays live. -/
theorem TurnsLive.step {state next : State κ μ} {move : Move κ μ}
    (live : TurnsLive state) (allowed : Sheltering state move)
    (moved : Step state move next) : TurnsLive next := by
  have present := live.livePresent.step moved
  have alive : ∀ turn ∈ next.turns, turn.live = true := by
    intro turn member
    have below : ∀ {other : Turn κ μ} {rest : List (Turn κ μ)},
        state.turns = other :: rest → turn ∈ rest → turn.live = true := by
      intro other rest current older
      apply (live turn _).1
      rw [current]
      exact List.mem_cons_of_mem _ older
    cases moved with
    | openBox _ => exact (live turn member).1
    | accept _ _ => exact (live turn member).1
    | refuse => exact (live turn member).1
    | halt _ => exact (live turn member).1
    | close _ _ =>
        obtain ⟨before, inTurns, rfl⟩ := List.mem_map.mp member
        exact closing_live.mpr ⟨(live before inTurns).1,
          allowed before inTurns⟩
    | acquire _ _ =>
        rcases List.mem_cons.mp member with top | older
        · rw [top]
        · exact (live turn older).1
    | discard _ _ => exact (live turn member).1
    | take current _ _ _ =>
        rcases List.mem_cons.mp member with top | older
        · rw [top]
        · exact below current older
    | deliver current _ =>
        rcases List.mem_cons.mp member with top | older
        · rw [top]
        · exact below current older
    | @handle key alive rest message current =>
        rcases List.mem_cons.mp member with top | older
        · rw [top]
          apply (live ⟨key, alive, .handling message⟩ _).1
          rw [current]
          exact List.mem_cons_self
        · exact below current older
    | finish current _ => exact below current member
    | unwind current => exact below current member
  exact fun turn member => ⟨alive turn member, present turn member
    (alive turn member)⟩

theorem TurnsLive.of_reaches {permitted : State κ μ → Move κ μ → Prop}
    (shelters : ∀ state move, permitted state move → Sheltering state move)
    {moves : List (Move κ μ)} {state : State κ μ}
    (reached : Reaches permitted moves state) : TurnsLive state := by
  apply reached.invariant TurnsLive
  · intro turn member
    cases member
  · intro current move next live allowed moved
    exact live.step (shelters current move allowed) moved

end Mailbox
