import Crynet.Actor.Licence

/-!
# Slots and activations

`dispatch_batch` looks its slot up once and uses it after every callback.  The
slot is still there unless a callback released the service; then the next use
is a use of erased memory.
-/

namespace Crynet

namespace Machine

variable {machine : Machine}
variable {now : TimePoint} {actions : List Action}

private theorem turn_mem {activation : Activation}
    (member : activation ∈ machine.stack) :
    activation.turn ∈ machine.mailboxes.turns :=
  List.mem_map_of_mem member

private theorem registered_of_box {handle : ServiceHandle}
    (present : machine.mailboxes.box handle ≠ none) :
    handle ∈ machine.system.services := by
  by_contra absent
  apply present
  exact ActorSystem.absent_box (AssociationMap.lookup_none_iff.mpr absent)

/-- The slot of an activation is there unless it has been erased. -/
theorem unerased_registered
    (reached : Reaches Unrestricted now actions machine)
    {activation : Activation} (member : activation ∈ machine.stack)
    (unerased : activation.erased = false) :
    activation.batch.handle ∈ machine.system.services := by
  obtain ⟨moves, moved⟩ := reaches_moves reached
  apply registered_of_box
  apply Mailbox.LivePresent.of_reaches moved activation.turn (turn_mem member)
  simp [Activation.turn, unerased]

private theorem proceed_present {system : ActorSystem} {stack : List Activation}
    {batch : Batch} (registered : batch.handle ∈ system.services) :
    proceed system stack batch ≠ .error .erasedSlot := by
  obtain ⟨service, found⟩ :=
    Option.isSome_iff_exists.mp (AList.lookup_isSome.mpr registered)
  unfold proceed
  simp only [found]
  split <;> exact nofun

private theorem observed_present {system : ActorSystem} {stack : List Activation}
    {activation : Activation}
    (registered : activation.batch.handle ∈ system.services) :
    observed system stack activation ≠ .error .erasedSlot := by
  obtain ⟨service, found⟩ :=
    Option.isSome_iff_exists.mp (AList.lookup_isSome.mpr registered)
  unfold observed
  simp only [found]
  exact nofun

/-- Coming back to an activation accesses an erased slot exactly when the slot
of that activation has been erased. -/
theorem resume_erasedSlot_iff
    (reached : Reaches Unrestricted now actions machine) :
    machine.resume = .error .erasedSlot ↔
      ∃ activation ∈ machine.stack.head?, activation.erased = true := by
  unfold resume
  cases activations : machine.stack with
  | nil => simp
  | cons activation stack =>
      have member : activation ∈ machine.stack := by
        rw [activations]
        exact List.mem_cons_self
      cases unerased : activation.erased with
      | true => simp [unerased]
      | false =>
          have registered := unerased_registered reached member unerased
          cases phase : activation.phase with
          | observing =>
              simp [unerased, phase, observed_present registered]
          | handling =>
              have safe : handled machine.system stack activation ≠
                  .error .erasedSlot := by
                unfold handled
                exact proceed_present registered
              simp [unerased, phase, safe]

private theorem onContext_ne_erasedSlot
    (method : ServiceContext → ServiceContext) :
    machine.onContext method ≠ .error .erasedSlot := by
  unfold onContext
  split
  · exact nofun
  · split
    · exact nofun
    · split
      · exact nofun
      · split <;> exact nofun

private theorem returning_ne_erasedSlot {Result : Type}
    (outcome : Option (Result × ActorSystem)) :
    machine.returning outcome ≠ .error .erasedSlot := by
  unfold returning
  split <;> exact nofun

/-- Only coming back to an activation can access an erased slot. -/
theorem erasedSlot_iff (reached : Reaches Unrestricted now actions machine)
    (action : Action) :
    machine.step action = .error .erasedSlot ↔
      action = .returns ∧
        ∃ activation ∈ machine.stack.head?, activation.erased = true := by
  constructor
  · intro faulted
    cases action with
    | returns => exact ⟨rfl, (resume_erasedSlot_iff reached).mp faulted⟩
    | registerService _ => exact absurd faulted (returning_ne_erasedSlot _)
    | call _ _ _ => exact absurd faulted (returning_ne_erasedSlot _)
    | pumpTimers _ => exact absurd faulted (returning_ne_erasedSlot _)
    | initializeContext =>
        simp only [step] at faulted
        exact absurd faulted (onContext_ne_erasedSlot _)
    | startContext =>
        simp only [step] at faulted
        exact absurd faulted (onContext_ne_erasedSlot _)
    | stopContext => exact absurd faulted (onContext_ne_erasedSlot _)
    | releaseContext => exact absurd faulted (onContext_ne_erasedSlot _)
    | throws =>
        simp only [step, unwind] at faulted
        split at faulted <;> cases faulted
    | runUntilIdle _ _ =>
        simp only [step] at faulted
        split at faulted <;> cases faulted
    | _ => cases faulted
  · intro erased
    obtain ⟨same, top⟩ := erased
    rw [same]
    exact (resume_erasedSlot_iff reached).mpr top

/-- In a run that releases no service while it is dispatched, every activation
keeps its slot, and no step accesses an erased one. -/
theorem slots_present (reached : Reaches Sheltering now actions machine) :
    (∀ activation ∈ machine.stack, activation.erased = false ∧
      activation.batch.handle ∈ machine.system.services) ∧
    ∀ action, machine.step action ≠ .error .erasedSlot := by
  obtain ⟨moves, moved⟩ := reaches_mailboxes
    (fun _ _ _ _ sheltering licensed => licensed.sheltering sheltering) reached
  have live := Mailbox.TurnsLive.of_reaches (fun _ _ allowed => allowed) moved
  have kept : ∀ activation ∈ machine.stack, activation.erased = false ∧
      activation.batch.handle ∈ machine.system.services := by
    intro activation member
    obtain ⟨alive, present⟩ := live activation.turn (turn_mem member)
    exact ⟨by simpa [Activation.turn] using alive, registered_of_box present⟩
  refine ⟨kept, ?_⟩
  intro action faulted
  have free : Reaches Unrestricted now actions machine :=
    reached.weaken fun _ _ _ => trivial
  obtain ⟨_, activation, top, erased⟩ :=
    (erasedSlot_iff free action).mp faulted
  have member := List.mem_of_head? top
  rw [(kept activation member).1] at erased
  cases erased

/-- A handler that dispatches another service, whose message is observed. -/
theorem slots_present_nested :
    ∃ machine, Reaches Sheltering 0
        [.registerService [97], .registerService [98],
          .send { targetHandle := 1 }, .send { targetHandle := 2 },
          .dispatchBatch 1 false, .dispatchBatch 1 true] machine ∧
      machine.dispatching = [2, 1] ∧
      ∀ action, machine.step action ≠ .error .erasedSlot := by
  have ran : ∃ machine, Transition.runSteps step (new 0)
      [.registerService [97], .registerService [98],
        .send { targetHandle := 1 }, .send { targetHandle := 2 },
        .dispatchBatch 1 false, .dispatchBatch 1 true] = .ok machine ∧
      machine.dispatching = [2, 1] :=
    ⟨_, rfl, rfl⟩
  obtain ⟨machine, ran, nested⟩ := ran
  have reached : Reaches Sheltering 0
      [.registerService [97], .registerService [98],
        .send { targetHandle := 1 }, .send { targetHandle := 2 },
        .dispatchBatch 1 false, .dispatchBatch 1 true] machine :=
    (careful_of_runSteps ran rfl).weaken fun _ _ careful => careful.1.1
  exact ⟨machine, reached, nested, (slots_present reached).2⟩

/-- A handler that releases its own service. -/
theorem slot_erased :
    ∃ machine, Reaches Unrestricted 0
        [.registerService [97], .send { targetHandle := 1 },
          .dispatchBatch 1 false, .releaseService 1] machine ∧
      machine.step .returns = .error .erasedSlot := by
  have ran : ∃ machine, Transition.runSteps step (new 0)
      [.registerService [97], .send { targetHandle := 1 },
        .dispatchBatch 1 false, .releaseService 1] = .ok machine ∧
      machine.step .returns = .error .erasedSlot :=
    ⟨_, rfl, rfl⟩
  obtain ⟨machine, ran, faulted⟩ := ran
  refine ⟨machine, ?_, faulted⟩
  exact Transition.Execution.ofRunSteps ran fun _ _ _ => trivial

end Machine

end Crynet
