import Crynet.Actor.Frames
import Crynet.Actor.Licence
import Crynet.Foundation.Mailbox.Delivery

/-!
# Delivery in order of acceptance

The handler of a service is called with the accepted messages in the order of
their acceptance.  What has been accepted and not been handed to the handler is
shown to an observer at the moment, or waits in the queue.  This is a statement
about handles, so it depends on handles not being reused: the 64-bit counter
behind them must not come around.
-/

namespace Crynet

/-- How often `register_service` is called. -/
def registrations (actions : List Action) : Nat :=
  actions.countP fun action =>
    match action with
    | .registerService _ => true
    | _ => false

namespace Machine

variable {machine next : Machine}
variable {now : TimePoint} {actions : List Action}

/-- The messages `send` has accepted for a service, in order. -/
def accepted (machine : Machine) (handle : ServiceHandle) : List Message :=
  Mailbox.acceptedFor handle machine.system.history

/-- The messages the handler of a service has been called with, in order. -/
def invoked (machine : Machine) (handle : ServiceHandle) : List Message :=
  Mailbox.deliveredTo handle machine.system.history

/-- The messages for a service that are being shown to an observer. -/
def shown (machine : Machine) (handle : ServiceHandle) : List Message :=
  machine.stack.filterMap fun activation =>
    match activation.phase with
    | .observing =>
        if activation.batch.handle = handle then some activation.message
        else none
    | .handling => none

theorem heldFor_turns (machine : Machine) (handle : ServiceHandle) :
    Mailbox.heldFor handle machine.mailboxes.turns = machine.shown handle := by
  simp only [mailboxes, ActorSystem.mailboxes, Mailbox.heldFor, shown,
    List.filterMap_map]
  apply List.filterMap_congr
  intro activation _
  cases phase : activation.phase with
  | observing => simp [Activation.turn, Phase.hand, phase]
  | handling => simp [Activation.turn, Phase.hand, phase]

/-- Handles are given out one after the other. -/
structure Numbered (machine : Machine) (count : Nat) : Prop where
  counter : machine.system.handleRegistry.nextHandle = UInt64.ofNat (count + 1)
  bounded : ∀ handle, .opened handle ∈ machine.system.history →
    handle.toNat ≤ count

/-- An orderly action that does not give out a handle for the second time. -/
def Fresh (machine : Machine) (action : Action) : Prop :=
  Orderly machine action ∧
    ∀ serviceName handle registry, action = .registerService serviceName →
      machine.system.handleRegistry.allocate = some (handle, registry) →
      .opened handle ∉ machine.system.history

theorem Licensed.fresh {action : Action}
    {state : Mailbox.State ServiceHandle Message}
    {move : Mailbox.Move ServiceHandle Message}
    (licensed : Licensed machine action state move)
    (fresh : Fresh machine action) : Mailbox.Fresh state move := by
  refine ⟨licensed.orderly fresh.1, ?_⟩
  intro key opening
  subst opening
  cases licensed with
  | routine ordinary => exact absurd ordinary id
  | opens allocated => exact fresh.2 _ _ _ rfl allocated

/-- A step opens no handle but the one it allocates. -/
theorem opened_of_step (consistent : machine.system.Consistent)
    {action : Action} (stepped : machine.step action = .ok next)
    {handle : ServiceHandle} (opened : .opened handle ∈ next.system.history) :
    .opened handle ∈ machine.system.history ∨
      ∃ serviceName registry, action = .registerService serviceName ∧
        machine.system.handleRegistry.allocate = some (handle, registry) := by
  obtain ⟨moves, moved⟩ := (step_follows consistent stepped).moved
  rcases Mailbox.opened_of_execution moved opened with old | ⟨state, licensed⟩
  · exact Or.inl old
  · cases licensed with
    | routine ordinary => exact absurd ordinary id
    | opens allocated => exact Or.inr ⟨_, _, rfl, allocated⟩

/-- A registered handle has been opened. -/
theorem opened_of_registered (reached : Reaches Fresh now actions machine)
    {handle : ServiceHandle}
    (registered : handle ∈ machine.system.handleRegistry.handleToName) :
    .opened handle ∈ machine.system.history := by
  obtain ⟨moves, moved⟩ := reaches_mailboxes
    (fun _ _ _ _ fresh licensed => licensed.fresh fresh) reached
  have order := Mailbox.InOrder.of_reaches moved
  have member := ((reaches_consistent reached).registered handle).mpr registered
  obtain ⟨service, found⟩ :=
    Option.isSome_iff_exists.mp (AList.lookup_isSome.mpr member)
  by_contra unopened
  have absent := (order.unopened handle unopened).1
  rw [mailboxes, ActorSystem.present_box found] at absent
  cases absent

/-- Until the counter comes around, the next handle is the next number. -/
theorem Numbered.allocate {count : Nat} (numbered : machine.Numbered count)
    (reached : Reaches Fresh now actions machine)
    (few : count + 1 < 2 ^ 64) {handle : ServiceHandle}
    {registry : HandleRegistry}
    (allocated : machine.system.handleRegistry.allocate =
      some (handle, registry)) :
    handle.toNat = count + 1 ∧ registry.nextHandle = handle + 1 := by
  have counted : machine.system.handleRegistry.Numbered count := by
    refine ⟨numbered.counter, ?_⟩
    intro other registered
    exact numbered.bounded other (opened_of_registered reached registered)
  obtain ⟨_, _, moved⟩ := HandleRegistry.allocate_some allocated
  refine ⟨(counted.allocated few allocated).1, ?_⟩
  rw [moved]

theorem registrations_snoc (actions : List Action) (action : Action) :
    registrations (actions ++ [action]) =
      registrations actions + registrations [action] :=
  List.countP_append

/-- A step that registers nothing keeps the numbering. -/
theorem Numbered.step_other {count : Nat} (numbered : machine.Numbered count)
    (consistent : machine.system.Consistent) {action : Action}
    (other : ∀ serviceName, action ≠ .registerService serviceName)
    (stepped : machine.step action = .ok next) : next.Numbered count := by
  refine ⟨(step_registry other stepped).counter.trans numbered.counter, ?_⟩
  intro handle opened
  rcases opened_of_step consistent stepped opened with
    old | ⟨serviceName, _, same, _⟩
  · exact numbered.bounded handle old
  · exact absurd same (other serviceName)

/-- A registration takes the next number. -/
theorem Numbered.step_register {count : Nat}
    (numbered : machine.Numbered count)
    (reached : Reaches Fresh now actions machine) (few : count + 1 < 2 ^ 64)
    {serviceName : Text}
    (stepped : machine.step (.registerService serviceName) = .ok next) :
    next.Numbered (count + 1) := by
  have consistent := reaches_consistent reached
  obtain ⟨result, system, performed, shape⟩ := returning_cases stepped
  obtain ⟨handle, registry, allocated, counter, _⟩ :=
    @ActorSystem.registerService_evolves _ _ [] consistent _ _ performed
  obtain ⟨value, successor⟩ := numbered.allocate reached few allocated
  have named : handle = UInt64.ofNat (count + 1) := by
    rw [← value]
    exact UInt64.ofNat_toNat.symm
  refine ⟨?_, ?_⟩
  · subst shape
    show system.handleRegistry.nextHandle = _
    rw [counter, successor, named]
    exact (UInt64.ofNat_add (count + 1) 1).symm
  · intro other opened
    rcases opened_of_step consistent stepped opened with
      old | ⟨_, _, _, again⟩
    · have bound := numbered.bounded other old
      omega
    · rw [allocated] at again
      obtain ⟨same, _⟩ := Prod.mk.inj (Option.some.inj again)
      rw [← same, value]

/-- With few registrations every orderly run opens fresh handles only. -/
theorem fresh_of_few (reached : Reaches Orderly now actions machine)
    (few : registrations actions < 2 ^ 64) :
    Reaches Fresh now actions machine ∧
      machine.Numbered (registrations actions) := by
  induction reached with
  | nil =>
      refine ⟨.nil, rfl, ?_⟩
      intro handle opened
      cases opened
  | @snoc actions current next action before allowed stepped induction =>
      rw [registrations_snoc] at few ⊢
      obtain ⟨earlier, numbered⟩ := induction (by omega)
      have consistent := reaches_consistent earlier
      by_cases registers : ∃ serviceName, action = .registerService serviceName
      · obtain ⟨serviceName, same⟩ := registers
        subst same
        have fresh : Fresh current (.registerService serviceName) := by
          refine ⟨allowed, ?_⟩
          intro _ handle registry _ allocated opened
          have value := (numbered.allocate earlier few allocated).1
          have bound := numbered.bounded handle opened
          omega
        exact ⟨.snoc earlier fresh stepped,
          numbered.step_register earlier few stepped⟩
      · have other : ∀ serviceName, action ≠ .registerService serviceName :=
          fun serviceName same => registers ⟨serviceName, same⟩
        have fresh : Fresh current action :=
          ⟨allowed, fun serviceName _ _ same =>
            absurd same (other serviceName)⟩
        have none : registrations [action] = 0 := by
          cases action with
          | registerService serviceName =>
              exact absurd rfl (other serviceName)
          | _ => rfl
        rw [none]
        exact ⟨.snoc earlier fresh stepped,
          numbered.step_other consistent other stepped⟩

/-- Exactly-once delivery in order: the messages a handler has been called with
are the first ones accepted for its service, and for a registered service the
others are the one being shown to an observer and those in its queue. -/
theorem delivered_in_order (reached : Reaches Orderly now actions machine)
    (few : registrations actions < 2 ^ 64) (handle : ServiceHandle) :
    machine.invoked handle <+: machine.accepted handle ∧
      ∀ service, machine.system.services.lookup handle = some service →
        machine.accepted handle =
          machine.invoked handle ++ machine.shown handle ++
            service.queue.messages := by
  obtain ⟨moves, moved⟩ := reaches_mailboxes
    (fun _ _ _ _ fresh licensed => licensed.fresh fresh)
    (fresh_of_few reached few).1
  have order := Mailbox.InOrder.of_reaches moved
  refine ⟨order.ordered handle, ?_⟩
  intro service found
  rw [← machine.heldFor_turns]
  exact order.complete handle service.box (ActorSystem.present_box found)

/-- The first of three messages handled, the second shown, the third queued. -/
theorem delivered_in_order_observed :
    ∃ machine, Reaches Orderly 0
        [.registerService [97], .send { targetHandle := 1, payload := [1] },
          .send { targetHandle := 1, payload := [2] },
          .send { targetHandle := 1, payload := [3] },
          .dispatchBatch 2 true, .returns, .returns] machine ∧
      machine.invoked 1 = [{ targetHandle := 1, payload := [1] }] ∧
      machine.shown 1 = [{ targetHandle := 1, payload := [2] }] ∧
      machine.invoked 1 <+: machine.accepted 1 ∧
      ∀ service, machine.system.services.lookup 1 = some service →
        machine.accepted 1 = machine.invoked 1 ++ machine.shown 1 ++
          service.queue.messages := by
  have ran : ∃ machine, Transition.runSteps step (new 0)
      [.registerService [97], .send { targetHandle := 1, payload := [1] },
        .send { targetHandle := 1, payload := [2] },
        .send { targetHandle := 1, payload := [3] },
        .dispatchBatch 2 true, .returns, .returns] = .ok machine ∧
      machine.invoked 1 = [{ targetHandle := 1, payload := [1] }] ∧
      machine.shown 1 = [{ targetHandle := 1, payload := [2] }] :=
    ⟨_, rfl, rfl, rfl⟩
  obtain ⟨machine, ran, invoked, shown⟩ := ran
  have reached : Reaches Orderly 0
      [.registerService [97], .send { targetHandle := 1, payload := [1] },
        .send { targetHandle := 1, payload := [2] },
        .send { targetHandle := 1, payload := [3] },
        .dispatchBatch 2 true, .returns, .returns] machine :=
    (careful_of_runSteps ran rfl).weaken fun _ _ careful => careful.1
  exact ⟨machine, reached, invoked, shown,
    delivered_in_order reached (by decide) 1⟩

section Duplicates

/-- The machine with another value of the handle counter. -/
def withCounter (machine : Machine) (nextHandle : ServiceHandle) : Machine :=
  machine.setSystem
    { machine.system with
      handleRegistry :=
        { machine.system.handleRegistry with nextHandle := nextHandle } }

variable {serviceName : Text}

/-- Registering a name that is taken only moves the counter. -/
theorem step_duplicate (named : serviceName ≠ [])
    (taken : serviceName ∈ machine.system.handleRegistry.nameToHandle)
    (nonzero : machine.system.handleRegistry.nextHandle ≠ 0)
    (free : machine.system.handleRegistry.nextHandle ∉
      machine.system.handleRegistry.handleToName) :
    machine.step (.registerService serviceName) =
      .ok (machine.withCounter
        (machine.system.handleRegistry.nextHandle + 1)) := by
  have allocated := HandleRegistry.allocate_of_free nonzero free
  have unknown : ¬(machine.system.handleRegistry.nextHandle = 0 ∨
      machine.system.handleRegistry.nextHandle ∈
        machine.system.handleRegistry.handleToName) := by
    rw [not_or]
    exact ⟨nonzero, free⟩
  have known : { machine.system.handleRegistry with
      nextHandle :=
        machine.system.handleRegistry.nextHandle + 1 }.registerService
          { handle := machine.system.handleRegistry.nextHandle
            serviceName := serviceName
            state := .running } =
      (false, { machine.system.handleRegistry with
        nextHandle := machine.system.handleRegistry.nextHandle + 1 }) := by
    simp only [HandleRegistry.registerService, HandleRegistry.contains_iff,
      if_neg unknown, ne_eq, named, not_false_eq_true, if_true, if_pos taken]
  simp only [step, returning, ActorSystem.registerService, allocated,
    ServiceContext.initializeContext, ServiceContext.start]
  simp only [ne_eq, not_true_eq_false, if_false, reduceCtorEq, or_self, known,
    if_true, withCounter]

/-- Many of them move it on, up to where it comes around. -/
theorem runSteps_duplicates (named : serviceName ≠ []) (count first : Nat)
    (machine : Machine) (silent : machine.answer = none)
    (taken : serviceName ∈ machine.system.handleRegistry.nameToHandle)
    (counter :
      machine.system.handleRegistry.nextHandle = UInt64.ofNat first)
    (positive : 0 < first) (below : first + count ≤ 2 ^ 64)
    (bounded : ∀ handle ∈ machine.system.handleRegistry.handleToName,
      handle.toNat < first) :
    Transition.runSteps step machine
        (List.replicate count (.registerService serviceName)) =
      .ok (machine.withCounter (UInt64.ofNat (first + count))) := by
  induction count generalizing first machine with
  | zero =>
      have same : machine = machine.withCounter (UInt64.ofNat first) := by
        rw [← counter]
        cases machine
        cases silent
        rfl
      rw [List.replicate_zero, Transition.runSteps, Nat.add_zero, ← same]
  | succ count induction =>
      have room : first < 2 ^ 64 := by omega
      have value : machine.system.handleRegistry.nextHandle.toNat = first := by
        rw [counter]
        exact UInt64.toNat_ofNat_of_lt' room
      have nonzero : machine.system.handleRegistry.nextHandle ≠ 0 := by
        intro zero
        rw [zero, UInt64.toNat_zero] at value
        omega
      have free : machine.system.handleRegistry.nextHandle ∉
          machine.system.handleRegistry.handleToName := by
        intro member
        have bound := bounded _ member
        omega
      have following : machine.system.handleRegistry.nextHandle + 1 =
          UInt64.ofNat (first + 1) := by
        rw [counter]
        exact (UInt64.ofNat_add first 1).symm
      have sum : first + 1 + count = first + (count + 1) := by omega
      have rest := induction (first + 1)
        (machine.withCounter (UInt64.ofNat (first + 1))) rfl taken rfl
        (by omega) (by omega) (fun handle member =>
          Nat.lt_succ_of_lt (bounded handle member))
      rw [List.replicate_succ, Transition.runSteps,
        step_duplicate named taken nonzero free, following]
      simp only
      rw [rest, sum]
      rfl

end Duplicates

/-- After 2^64 registrations the handle of a released service is given out
again, and the new service is handed the second message of the handle first. -/
theorem handle_reused :
    ∃ machine, Reaches Orderly 0
        ([.registerService [97], .registerService [98],
            .send { targetHandle := 1, payload := [1] }, .releaseService 1] ++
          List.replicate 18446744073709551613 (.registerService [98]) ++
          [.registerService [97], .send { targetHandle := 1, payload := [2] },
            .dispatchBatch 1 false]) machine ∧
      machine.accepted 1 = [{ targetHandle := 1, payload := [1] },
        { targetHandle := 1, payload := [2] }] ∧
      machine.invoked 1 = [{ targetHandle := 1, payload := [2] }] := by
  have ran : ∃ opened released final,
      Transition.runSteps step (new 0)
        [.registerService [97], .registerService [98],
          .send { targetHandle := 1, payload := [1] }] = .ok opened ∧
      opened.dispatching = [] ∧
      opened.step (.releaseService 1) = .ok released ∧
      released.answer = none ∧
      released.system.handleRegistry.nameToHandle.keys = [[98]] ∧
      released.system.handleRegistry.handleToName.keys = [2] ∧
      released.system.handleRegistry.nextHandle = UInt64.ofNat 3 ∧
      Transition.runSteps step
        (released.withCounter (UInt64.ofNat (3 + 18446744073709551613)))
        [.registerService [97], .send { targetHandle := 1, payload := [2] },
          .dispatchBatch 1 false] = .ok final ∧
      final.accepted 1 = [{ targetHandle := 1, payload := [1] },
        { targetHandle := 1, payload := [2] }] ∧
      final.invoked 1 = [{ targetHandle := 1, payload := [2] }] :=
    ⟨_, _, _, rfl, rfl, rfl, rfl, rfl, rfl, rfl, rfl, rfl, rfl⟩
  obtain ⟨opened, released, final, began, idle, went, silent, names, handles,
    counter, ended, accepted, invoked⟩ := ran
  have taken : [98] ∈ released.system.handleRegistry.nameToHandle := by
    rw [AList.mem_keys, names]
    exact List.mem_cons_self
  have bounded : ∀ handle ∈ released.system.handleRegistry.handleToName,
      handle.toNat < 3 := by
    intro handle member
    rw [AList.mem_keys, handles, List.mem_singleton] at member
    rw [member]
    decide
  have around := runSteps_duplicates (List.cons_ne_nil 98 [])
    18446744073709551613 3 released silent taken counter (by omega) (by omega)
    bounded
  have first : Reaches Orderly 0 _ opened :=
    (careful_of_runSteps began rfl).weaken fun _ _ careful => careful.1
  have release : Orderly opened (.releaseService 1) := by
    refine ⟨?_, nofun⟩
    intro handle _
    rw [idle]
    exact List.not_mem_nil
  have second := Transition.Execution.snoc first release went
  have repeated : (List.replicate 18446744073709551613
      (Action.registerService [98])).all Action.isHarmless = true := by
    rw [List.all_eq_true]
    intro action member
    rw [List.eq_of_mem_replicate member]
    rfl
  have third := (careful_of_runSteps around repeated).weaken
    fun _ _ careful => careful.1
  have fourth := (careful_of_runSteps ended rfl).weaken
    fun _ _ careful => careful.1
  exact ⟨final, (second.trans third).trans fourth, accepted, invoked⟩

end Machine

end Crynet
