import Crynet.Actor.Licence
import Crynet.Foundation.Mailbox.Ledger

/-!
# Conservation of messages

Every message passed to `send` is counted as dispatched or dropped, or is still
queued, unless a release or an exception threw it away: nothing counts those.
-/

namespace Crynet

open Mailbox (tally Entry)

namespace Machine

variable {machine next : Machine}
variable {now : TimePoint} {actions : List Action}

/-- Messages passed to `send` so far. -/
def passedCount (machine : Machine) : Nat :=
  tally Entry.passed machine.system.history

/-- Handlers that have returned so far. -/
def handledCount (machine : Machine) : Nat :=
  tally Entry.handlings machine.system.history

/-- Calls of `send` that have answered `false` so far. -/
def refusedCount (machine : Machine) : Nat :=
  tally Entry.refusals machine.system.history

/-- Messages thrown away so far. -/
def wastedCount (machine : Machine) : Nat :=
  tally Entry.waste machine.system.history

/-- Nothing is thrown away: no service is released with a queued message, and
no callback throws. -/
def Lossless (machine : Machine) (action : Action) : Prop :=
  action ≠ .throws ∧
    ∀ handle service, action.Releases machine handle →
      machine.system.services.lookup handle = some service →
      service.queue.messages = []

private theorem wastedCount_release (machine : Machine) (handle : ServiceHandle) :
    machine.wastedCount ≤ (machine.release handle).wastedCount ∧
      ((machine.release handle).wastedCount = machine.wastedCount ↔
        ∀ service, machine.system.services.lookup handle = some service →
          service.queue.messages = []) := by
  unfold wastedCount
  rcases machine.release_cases handle with
    ⟨missing, shape⟩ | ⟨service, found, shape⟩
  · simp [shape, missing]
  · simp [shape, found, ActorSystem.removeService, Entry.waste]

private theorem lookup_release (machine : Machine) (handle other : ServiceHandle) :
    (machine.release handle).system.services.lookup other =
      if other = handle then none
      else machine.system.services.lookup other := by
  rcases machine.release_cases handle with
    ⟨missing, shape⟩ | ⟨service, _, shape⟩
  · rw [shape]
    by_cases same : other = handle
    · rw [if_pos same, same]
      exact missing
    · rw [if_neg same]
  · rw [shape]
    exact AssociationMap.lookup_erase_eq _ _ _

private theorem wastedCount_releaseEach (handles : List ServiceHandle)
    (machine : Machine) :
    machine.wastedCount ≤ (releaseEach handles machine).wastedCount ∧
      ((releaseEach handles machine).wastedCount = machine.wastedCount ↔
        ∀ handle ∈ handles, ∀ service,
          machine.system.services.lookup handle = some service →
            service.queue.messages = []) := by
  induction handles generalizing machine with
  | nil => simp [releaseEach]
  | cons handle handles induction =>
      obtain ⟨grows, here⟩ := machine.wastedCount_release handle
      obtain ⟨more, there⟩ := induction (machine.release handle)
      refine ⟨grows.trans more, ?_⟩
      have both : (releaseEach (handle :: handles) machine).wastedCount =
          machine.wastedCount ↔
            (machine.release handle).wastedCount = machine.wastedCount ∧
              (releaseEach handles (machine.release handle)).wastedCount =
                (machine.release handle).wastedCount := by
        rw [releaseEach]
        omega
      rw [both, here, there]
      constructor
      · rintro ⟨first, rest⟩ other member service found
        by_cases same : other = handle
        · rw [same] at found
          exact first service found
        · have later := (List.mem_cons.mp member).resolve_left same
          apply rest other later service
          rw [lookup_release, if_neg same]
          exact found
      · intro all
        refine ⟨all handle List.mem_cons_self, ?_⟩
        intro other member service found
        rw [lookup_release] at found
        split at found
        · cases found
        · exact all other (List.mem_cons_of_mem _ member) service found

/-- An action that neither releases nor throws throws nothing away. -/
theorem Licensed.sparing {action : Action}
    {state : Mailbox.State ServiceHandle Message}
    {move : Mailbox.Move ServiceHandle Message}
    (licensed : Licensed machine action state move)
    (keeps : ∀ handle, ¬action.Releases machine handle)
    (quiet : action ≠ .throws) : Mailbox.Sparing state move := by
  cases licensed with
  | routine ordinary =>
      cases move with
      | close _ => exact ordinary
      | unwind => exact ordinary
      | _ => trivial
  | opens _ => trivial
  | halts _ => trivial
  | closes releases _ _ => exact absurd releases (keeps _)
  | unwinds => exact absurd rfl quiet

/-- What a step throws away. -/
theorem wastedCount_step (consistent : machine.system.Consistent)
    {action : Action} (stepped : machine.step action = .ok next) :
    machine.wastedCount ≤ next.wastedCount ∧
      (next.wastedCount = machine.wastedCount ↔ Lossless machine action) := by
  by_cases thrown : action = .throws
  · subst thrown
    have more : next.wastedCount = machine.wastedCount + 1 := by
      simp only [step, unwind] at stepped
      split at stepped
      · cases stepped
      · simp only [Except.ok.injEq] at stepped
        subst stepped
        simp [wastedCount, ActorSystem.record, Entry.waste]
    refine ⟨by omega, ?_⟩
    constructor
    · intro same
      omega
    · exact fun lossless => absurd rfl lossless.1
  · have lossless : Lossless machine action ↔
        ∀ handle service, action.Releases machine handle →
          machine.system.services.lookup handle = some service →
          service.queue.messages = [] :=
      and_iff_right thrown
    rw [lossless]
    by_cases keeps : ∀ handle, ¬action.Releases machine handle
    · obtain ⟨moves, moved⟩ := (step_follows consistent stepped).moved
      have same : next.wastedCount = machine.wastedCount :=
        Mailbox.waste_of_sparing (moved.weaken fun state move licensed =>
          licensed.sparing keeps thrown)
      refine ⟨same.ge, fun _ => ?_, fun _ => same⟩
      intro handle service releases
      exact absurd releases (keeps handle)
    · cases action with
      | releaseService handle =>
          simp only [step, Except.ok.injEq] at stepped
          subst stepped
          obtain ⟨grows, same⟩ := machine.wastedCount_release handle
          refine ⟨grows, same.trans ?_⟩
          constructor
          · intro drained other service releases found
            subst releases
            exact drained service found
          · exact fun drained service found =>
              drained handle service rfl found
      | shutdown =>
          simp only [step, Except.ok.injEq] at stepped
          subst stepped
          obtain ⟨grows, same⟩ :=
            wastedCount_releaseEach machine.system.services.keys machine
          refine ⟨grows, same.trans ?_⟩
          constructor
          · intro drained handle service releases found
            exact drained handle (AList.mem_keys.mpr releases) service found
          · intro drained handle member service found
            exact drained handle service (AList.mem_keys.mp member) found
      | _ => exact absurd (fun _ => id) keeps

/-- Nothing has been thrown away exactly when no step was one that does. -/
theorem wastedCount_eq_zero_iff
    (reached : Reaches Unrestricted now actions machine) :
    machine.wastedCount = 0 ↔ Reaches Lossless now actions machine := by
  constructor
  · intro none
    induction reached with
    | nil => exact .nil
    | snoc before _ stepped induction =>
        obtain ⟨grows, same⟩ :=
          wastedCount_step (reaches_consistent before) stepped
        have earlier := Nat.le_zero.mp (none ▸ grows)
        refine .snoc (induction earlier) (same.mp ?_) stepped
        rw [none, earlier]
  · intro lossless
    induction lossless with
    | nil => rfl
    | snoc before allowed stepped induction =>
        have free : Reaches Unrestricted now _ _ :=
          before.weaken fun _ _ _ => trivial
        obtain ⟨_, same⟩ :=
          wastedCount_step (reaches_consistent before) stepped
        rw [same.mpr allowed]
        exact induction free

/-- While nothing is being dispatched, the counters of `metrics` account for
every message passed to `send` exactly when no step threw a message away and no
counter has wrapped. -/
theorem conserved_iff (reached : Reaches Unrestricted now actions machine)
    (alone : machine.stack = []) :
    machine.passedCount =
      machine.system.snapshot.dispatchedMessages.toNat +
        machine.system.snapshot.queuedMessages.toNat +
        machine.system.snapshot.droppedMessages.toNat ↔
    Reaches Lossless now actions machine ∧
      machine.handledCount < 2 ^ 64 ∧
      machine.system.queuedTotal < 2 ^ 64 ∧
      machine.refusedCount < 2 ^ 64 := by
  obtain ⟨moves, moved⟩ := reaches_moves reached
  have balanced := Mailbox.Balanced.of_reaches moved
  have consistent := reaches_consistent reached
  have idle : Mailbox.inHand machine.mailboxes.turns = 0 := by
    simp [mailboxes, ActorSystem.mailboxes, alone, Mailbox.inHand]
  have books : machine.passedCount = machine.handledCount +
      machine.system.queuedTotal + machine.refusedCount +
        machine.wastedCount := by
    have sum := balanced
    unfold Mailbox.Balanced at sum
    rw [idle] at sum
    exact sum
  have dispatched : machine.system.snapshot.dispatchedMessages.toNat =
      machine.handledCount % 2 ^ 64 := by
    simp only [ActorSystem.snapshot, consistent.dispatched]
    exact UInt64.toNat_ofNat'
  have dropped : machine.system.snapshot.droppedMessages.toNat =
      machine.refusedCount % 2 ^ 64 := by
    simp only [ActorSystem.snapshot, consistent.dropped]
    exact UInt64.toNat_ofNat'
  have queued : machine.system.snapshot.queuedMessages.toNat =
      machine.system.queuedTotal % 2 ^ 64 :=
    UInt64.toNat_ofNat'
  rw [← wastedCount_eq_zero_iff reached, books, dispatched, dropped, queued]
  omega

/-- One message handled, one queued and one dropped. -/
theorem conserved_iff_mixed :
    ∃ machine, Reaches Unrestricted 0
        [.registerService [97], .send { targetHandle := 1 },
          .send { targetHandle := 1 }, .send { targetHandle := 2 },
          .dispatchBatch 1 false, .returns] machine ∧
      machine.passedCount = 3 ∧
      (machine.passedCount =
        machine.system.snapshot.dispatchedMessages.toNat +
          machine.system.snapshot.queuedMessages.toNat +
          machine.system.snapshot.droppedMessages.toNat ↔
      Reaches Lossless 0
        [.registerService [97], .send { targetHandle := 1 },
          .send { targetHandle := 1 }, .send { targetHandle := 2 },
          .dispatchBatch 1 false, .returns] machine ∧
        machine.handledCount < 2 ^ 64 ∧
        machine.system.queuedTotal < 2 ^ 64 ∧
        machine.refusedCount < 2 ^ 64) := by
  have ran : ∃ machine, Transition.runSteps step (new 0)
      [.registerService [97], .send { targetHandle := 1 },
        .send { targetHandle := 1 }, .send { targetHandle := 2 },
        .dispatchBatch 1 false, .returns] = .ok machine ∧
      machine.passedCount = 3 ∧ machine.stack = [] :=
    ⟨_, rfl, rfl, rfl⟩
  obtain ⟨machine, ran, passed, alone⟩ := ran
  have reached : Reaches Unrestricted 0
      [.registerService [97], .send { targetHandle := 1 },
        .send { targetHandle := 1 }, .send { targetHandle := 2 },
        .dispatchBatch 1 false, .returns] machine :=
    Transition.Execution.ofRunSteps ran fun _ _ _ => trivial
  exact ⟨machine, reached, passed, conserved_iff reached alone⟩

/-- A message thrown away with its service. -/
theorem released_message_uncounted :
    ∃ machine, Reaches Unrestricted 0
        [.registerService [97], .send { targetHandle := 1 },
          .releaseService 1] machine ∧
      machine.stack = [] ∧ machine.passedCount = 1 ∧
      machine.system.snapshot.dispatchedMessages.toNat = 0 ∧
      machine.system.snapshot.queuedMessages.toNat = 0 ∧
      machine.system.snapshot.droppedMessages.toNat = 0 := by
  have ran : ∃ machine, Transition.runSteps step (new 0)
      [.registerService [97], .send { targetHandle := 1 },
        .releaseService 1] = .ok machine ∧
      machine.stack = [] ∧ machine.passedCount = 1 ∧
      machine.system.snapshot.dispatchedMessages.toNat = 0 ∧
      machine.system.snapshot.queuedMessages.toNat = 0 ∧
      machine.system.snapshot.droppedMessages.toNat = 0 :=
    ⟨_, rfl, rfl, rfl, rfl, rfl, rfl⟩
  obtain ⟨machine, ran, rest⟩ := ran
  refine ⟨machine, ?_, rest⟩
  exact Transition.Execution.ofRunSteps ran fun _ _ _ => trivial

end Machine

end Crynet
