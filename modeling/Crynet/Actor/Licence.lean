import Crynet.Actor.Simulation
import Crynet.Foundation.Mailbox.Wake

/-!
# What an action licenses

The moves an action makes are licensed by it, so a run of the machine whose
actions are restricted is a run of mailboxes whose moves are.
-/

namespace Crynet

open Mailbox (Move Step)

namespace Action

/-- The action stops a service, from outside or through the context of the
running handler. -/
def Stops (machine : Machine) (handle : ServiceHandle) : Action → Prop
  | .stopService target => target = handle
  | .stopContext =>
      ∃ activation ∈ machine.stack.head?, activation.batch.handle = handle
  | .releaseContext =>
      ∃ activation ∈ machine.stack.head?, activation.batch.handle = handle
  | _ => False

/-- The action releases a service. -/
def Releases (machine : Machine) (handle : ServiceHandle) : Action → Prop
  | .releaseService target => target = handle
  | .shutdown => handle ∈ machine.system.services
  | _ => False

/-- The action neither stops nor releases a service, nor throws. -/
def isHarmless : Action → Bool
  | .stopService _ => false
  | .stopContext => false
  | .releaseContext => false
  | .releaseService _ => false
  | .shutdown => false
  | .throws => false
  | _ => true

variable {machine : Machine} {handle : ServiceHandle} {action : Action}

theorem not_stops_of_harmless (harmless : action.isHarmless = true) :
    ¬action.Stops machine handle := by
  intro stops
  cases action with
  | stopService _ => cases harmless
  | stopContext => cases harmless
  | releaseContext => cases harmless
  | _ => exact stops

private theorem not_releases_of_harmless (harmless : action.isHarmless = true) :
    ¬action.Releases machine handle := by
  intro releases
  cases action with
  | releaseService _ => cases harmless
  | shutdown => cases harmless
  | _ => exact releases

end Action

namespace Machine

/-- The handles of the services whose activations have not finished. -/
def dispatching (machine : Machine) : List ServiceHandle :=
  machine.stack.map fun activation => activation.batch.handle

/-- No service is released while an activation of it has not finished. -/
def Sheltering (machine : Machine) (action : Action) : Prop :=
  ∀ handle, action.Releases machine handle → handle ∉ machine.dispatching

/-- Besides, callbacks return normally. -/
def Orderly (machine : Machine) (action : Action) : Prop :=
  Sheltering machine action ∧ action ≠ .throws

/-- Besides, no service is released while it waits in the ready queue. -/
def Careful (machine : Machine) (action : Action) : Prop :=
  Orderly machine action ∧
    ∀ handle, action.Releases machine handle →
      handle ∉ machine.system.scheduler.ready

theorem careful_of_harmless {machine : Machine} {action : Action}
    (harmless : action.isHarmless = true) : Careful machine action := by
  refine ⟨⟨?_, ?_⟩, ?_⟩
  · intro handle releases
    exact absurd releases (Action.not_releases_of_harmless harmless)
  · intro throws
    rw [throws] at harmless
    cases harmless
  · intro handle releases
    exact absurd releases (Action.not_releases_of_harmless harmless)

/-- A concrete run of harmless actions is a careful execution. -/
theorem careful_of_runSteps {start final : Machine} {actions : List Action}
    (ran : Transition.runSteps step start actions = .ok final)
    (harmless : actions.all Action.isHarmless = true) :
    Transition.Execution (Transition.returning step) Careful start actions
      final := by
  apply Transition.Execution.ofRunSteps ran
  intro action member machine
  exact careful_of_harmless (List.all_eq_true.mp harmless action member)

/-- The moves an action may make. -/
inductive Licensed (machine : Machine) :
    Action → Mailbox.State ServiceHandle Message →
      Move ServiceHandle Message → Prop where
  | routine {action : Action} {state : Mailbox.State ServiceHandle Message}
      {move : Move ServiceHandle Message}
      (ordinary : Mailbox.Ordinary move) :
      Licensed machine action state move
  | opens {serviceName : Text} {handle : ServiceHandle}
      {registry : HandleRegistry}
      (allocated : machine.system.handleRegistry.allocate =
        some (handle, registry)) :
      Licensed machine (.registerService serviceName) machine.mailboxes
        (.openBox handle)
  | halts {action : Action} {handle : ServiceHandle}
      (stops : action.Stops machine handle) :
      Licensed machine action machine.mailboxes (.halt handle)
  | closes {action : Action} {handle : ServiceHandle}
      {state : Mailbox.State ServiceHandle Message}
      (releases : action.Releases machine handle)
      (sameTurns : state.turns.map Mailbox.Turn.key = machine.dispatching)
      (sameReady : state.ready = machine.system.scheduler.ready) :
      Licensed machine action state (.close handle)
  | unwinds : Licensed machine .throws machine.mailboxes .unwind

variable {machine next : Machine}

theorem turns_key (machine : Machine) :
    machine.mailboxes.turns.map Mailbox.Turn.key = machine.dispatching := by
  simp [mailboxes, ActorSystem.mailboxes, dispatching, Activation.turn]

theorem release_dispatching (machine : Machine) (handle : ServiceHandle) :
    (machine.release handle).dispatching = machine.dispatching := by
  rcases machine.release_cases handle with ⟨_, shape⟩ | ⟨_, _, shape⟩
  · rw [shape]
    rfl
  · rw [shape, dispatching, dispatching, List.map_map]
    apply List.map_congr_left
    intro activation _
    simp only [Function.comp_apply, Activation.erase]
    split <;> rfl

private theorem release_ready (machine : Machine) (handle : ServiceHandle) :
    (machine.release handle).system.scheduler.ready =
      machine.system.scheduler.ready := by
  rcases machine.release_cases handle with ⟨_, shape⟩ | ⟨_, _, shape⟩
  · rw [shape]
  · rw [shape]
    rfl

/-- What `shutdown` does to the system is what the machine does. -/
theorem releaseEach_system (handles : List ServiceHandle)
    (machine : Machine) :
    (releaseEach handles machine).system =
      (machine.system.releaseAll handles).2 := by
  induction handles generalizing machine with
  | nil => rfl
  | cons handle handles induction =>
      rw [releaseEach, induction]
      rfl

private theorem releaseEach_follows (handles : List ServiceHandle)
    (consistent : machine.system.Consistent) :
    LeadsTo
      (fun state move => ∃ handle ∈ handles, move = .close handle ∧
        state.turns.map Mailbox.Turn.key = machine.dispatching ∧
        state.ready = machine.system.scheduler.ready)
      machine.mailboxes (releaseEach handles machine) := by
  induction handles generalizing machine with
  | nil => exact .unseen consistent rfl
  | cons handle handles induction =>
      have first := release_follows consistent handle
      have later := induction first.consistent
      have here : LeadsTo
          (fun state move => ∃ other ∈ handle :: handles,
            move = .close other ∧
            state.turns.map Mailbox.Turn.key = machine.dispatching ∧
            state.ready = machine.system.scheduler.ready)
          machine.mailboxes (machine.release handle) := by
        apply first.weaken
        intro state move only
        obtain ⟨sameState, sameMove⟩ := only
        rw [sameState]
        exact ⟨handle, List.mem_cons_self, sameMove, machine.turns_key, rfl⟩
      apply here.trans
      apply later.weaken
      intro state move only
      obtain ⟨other, member, sameMove, sameTurns, sameReady⟩ := only
      rw [release_dispatching] at sameTurns
      rw [release_ready] at sameReady
      exact ⟨other, List.mem_cons_of_mem _ member, sameMove, sameTurns,
        sameReady⟩

/-- A routine step is licensed whatever the action. -/
theorem routine_licensed {action : Action}
    (follows : LeadsTo ActorSystem.Routine machine.mailboxes next) :
    LeadsTo (Licensed machine action) machine.mailboxes next :=
  follows.weaken fun _ _ ordinary => .routine ordinary

private theorem halt_licensed {action : Action} {handle : ServiceHandle}
    (stops : action.Stops machine handle)
    (follows : LeadsTo (ActorSystem.Only machine.mailboxes (.halt handle))
      machine.mailboxes next) :
    LeadsTo (Licensed machine action) machine.mailboxes next := by
  apply follows.weaken
  intro state move only
  rw [only.1, only.2]
  exact .halts stops

/-- Stopping or releasing the context of the running handler. -/
theorem onContext_halts {action : Action}
    {method : ServiceContext → ServiceContext}
    (consistent : machine.system.Consistent)
    (halted : ∀ context, (method context).isRunning = false)
    (settled : ∀ context : ServiceContext,
      context.state ≠ .created ∧ context.state ≠ .initialized →
        (method context).state ≠ .created ∧
          (method context).state ≠ .initialized)
    (stops : ∀ handle,
      (∃ activation ∈ machine.stack.head?,
        activation.batch.handle = handle) → action.Stops machine handle)
    (called : machine.onContext method = .ok next) :
    LeadsTo (Licensed machine action) machine.mailboxes next := by
  obtain ⟨activation, stack, service, top, found, shape⟩ :=
    onContext_cases called
  subst shape
  apply halt_licensed (stops activation.batch.handle ?_)
  · exact ActorSystem.setService_halts consistent found
      (halted service.context)
      (settled service.context (consistent.settled _ _ found))
  · refine ⟨activation, ?_, rfl⟩
    rw [top]
    rfl

/-- Methods without effect on a service that has been started. -/
theorem onContext_idle {action : Action}
    {method : ServiceContext → ServiceContext}
    (consistent : machine.system.Consistent)
    (unchanged : ∀ context : ServiceContext,
      context.state ≠ .created ∧ context.state ≠ .initialized →
        method context = context)
    (called : machine.onContext method = .ok next) :
    LeadsTo (Licensed machine action) machine.mailboxes next := by
  obtain ⟨activation, stack, service, _, found, shape⟩ :=
    onContext_cases called
  subst shape
  rw [unchanged service.context (consistent.settled _ _ found)]
  exact ActorSystem.setService_same consistent found

/-- Every step of the machine is made of licensed moves. -/
theorem step_follows (consistent : machine.system.Consistent)
    {action : Action} (stepped : machine.step action = .ok next) :
    LeadsTo (Licensed machine action) machine.mailboxes next := by
  cases action with
  | registerService serviceName =>
      obtain ⟨result, system, performed, shape⟩ := returning_cases stepped
      subst shape
      obtain ⟨handle, registry, allocated, _, follows⟩ :=
        ActorSystem.registerService_evolves consistent performed
      apply follows.weaken
      intro state move only
      rw [only.1, only.2]
      exact .opens allocated
  | send message =>
      simp only [step, Except.ok.injEq] at stepped
      subst stepped
      exact routine_licensed (ActorSystem.send_evolves consistent message)
  | stopService handle =>
      simp only [step, Except.ok.injEq] at stepped
      subst stepped
      exact halt_licensed rfl
        (ActorSystem.stopService_evolves consistent handle)
  | releaseService handle =>
      simp only [step, Except.ok.injEq] at stepped
      subst stepped
      apply (release_follows consistent handle).weaken
      intro state move only
      rw [only.1, only.2]
      exact .closes rfl machine.turns_key rfl
  | shutdown =>
      simp only [step, Except.ok.injEq] at stepped
      subst stepped
      apply (releaseEach_follows _ consistent).weaken
      intro state move only
      obtain ⟨handle, member, sameMove, sameTurns, sameReady⟩ := only
      rw [sameMove]
      exact .closes (AList.mem_keys.mpr member) sameTurns sameReady
  | call sourceHandle targetHandle payloadText =>
      obtain ⟨result, system, performed, shape⟩ := returning_cases stepped
      subst shape
      exact routine_licensed (ActorSystem.call_evolves consistent performed)
  | respond sourceHandle sessionId payloadText =>
      simp only [step, Except.ok.injEq] at stepped
      subst stepped
      exact routine_licensed (ActorSystem.respond_evolves consistent _ _ _)
  | scheduleTimeout targetHandle sessionId delay payloadText =>
      simp only [step, Except.ok.injEq] at stepped
      subst stepped
      exact ActorSystem.unrelated_evolves consistent
        machine.system.sessionManager _
  | cancelTimeout timerId =>
      simp only [step, Except.ok.injEq] at stepped
      subst stepped
      exact ActorSystem.unrelated_evolves consistent
        machine.system.sessionManager _
  | pumpTimers now =>
      obtain ⟨result, system, performed, shape⟩ := returning_cases stepped
      subst shape
      exact routine_licensed
        (ActorSystem.pumpTimers_evolves consistent performed)
  | dispatchBatch maxMessagesPerService observed =>
      simp only [step, Except.ok.injEq] at stepped
      subst stepped
      exact routine_licensed (launch_follows consistent _ _ _)
  | runUntilIdle maxBatches maxMessagesPerService =>
      simp only [step] at stepped
      split at stepped
      · simp only [Except.ok.injEq] at stepped
        subst stepped
        exact routine_licensed (launch_follows consistent _ _ _)
      · simp only [Except.ok.injEq] at stepped
        subst stepped
        exact .unseen consistent rfl
  | dispatchOnce =>
      simp only [step, Except.ok.injEq] at stepped
      subst stepped
      exact routine_licensed (launch_follows consistent _ _ _)
  | initializeContext =>
      simp only [step] at stepped
      refine onContext_idle consistent ?_ stepped
      intro context settled
      simp [ServiceContext.initializeContext, settled.1]
  | startContext =>
      simp only [step] at stepped
      refine onContext_idle consistent ?_ stepped
      intro context settled
      simp [ServiceContext.start, settled.2]
  | stopContext =>
      simp only [step] at stepped
      refine onContext_halts consistent ?_ ?_ ?_ stepped
      · intro context
        apply Bool.eq_false_iff.mpr
        rw [ne_eq, ServiceContext.isRunning_iff]
        exact context.stop_not_running
      · exact ActorSystem.stop_settled
      · exact fun handle known => known
  | releaseContext =>
      simp only [step] at stepped
      refine onContext_halts consistent ?_ ?_ ?_ stepped
      · intro context
        rfl
      · exact fun context _ => ActorSystem.release_settled context
      · exact fun handle known => known
  | returns => exact routine_licensed (resume_follows consistent stepped)
  | throws =>
      apply (unwind_follows consistent stepped).weaken
      intro state move only
      rw [only.1, only.2]
      exact .unwinds

theorem Licensed.sheltering {action : Action}
    {state : Mailbox.State ServiceHandle Message}
    {move : Move ServiceHandle Message}
    (licensed : Licensed machine action state move)
    (sheltering : Sheltering machine action) :
    Mailbox.Sheltering state move := by
  cases licensed with
  | routine ordinary =>
      cases move with
      | close key => exact absurd ordinary id
      | _ => trivial
  | opens _ => trivial
  | halts _ => trivial
  | closes releases sameTurns _ =>
      intro turn member same
      apply sheltering _ releases
      rw [← sameTurns, ← same]
      exact List.mem_map_of_mem member
  | unwinds => trivial

theorem Licensed.orderly {action : Action}
    {state : Mailbox.State ServiceHandle Message}
    {move : Move ServiceHandle Message}
    (licensed : Licensed machine action state move)
    (orderly : Orderly machine action) : Mailbox.Orderly state move := by
  refine ⟨licensed.sheltering orderly.1, ?_⟩
  intro unwound
  subst unwound
  cases licensed with
  | routine ordinary => exact ordinary
  | unwinds => exact orderly.2 rfl

theorem Licensed.careful {action : Action}
    {state : Mailbox.State ServiceHandle Message}
    {move : Move ServiceHandle Message}
    (licensed : Licensed machine action state move)
    (careful : Careful machine action) : Mailbox.Careful state move := by
  refine ⟨licensed.orderly careful.1, ?_⟩
  intro key closed
  subst closed
  cases licensed with
  | routine ordinary => exact absurd ordinary id
  | closes releases _ sameReady =>
      rw [sameReady]
      exact careful.2 key releases

/-- Every run keeps the system consistent. -/
theorem reaches_consistent {permitted : Machine → Action → Prop}
    {now : TimePoint} {actions : List Action}
    (reached : Reaches permitted now actions machine) :
    machine.system.Consistent := by
  apply reached.invariant fun current => current.system.Consistent
  · exact ActorSystem.new_consistent now
  · intro current action next consistent _ stepped
    exact (step_follows consistent stepped).consistent

/-- A restriction on actions that implies one on the moves they license. -/
theorem follows_mailboxes {permitted : Machine → Action → Prop}
    {restricted : Mailbox.State ServiceHandle Message →
      Move ServiceHandle Message → Prop}
    (implied : ∀ machine action state move, permitted machine action →
      Licensed machine action state move → restricted state move)
    {start final : Machine} {actions : List Action}
    (consistent : start.system.Consistent)
    (followed : Transition.Execution (Transition.returning step) permitted
      start actions final) :
    ∃ moves, Transition.Execution Step restricted start.mailboxes moves
      final.mailboxes := by
  apply followed.simulate mailboxes fun current => current.system.Consistent
  · exact consistent
  · intro current action next consistent _ stepped
    exact (step_follows consistent stepped).consistent
  · intro current action next consistent allowed stepped
    obtain ⟨moves, moved⟩ := (step_follows consistent stepped).moved
    exact ⟨moves, moved.weaken fun state move licensed =>
      implied current action state move allowed licensed⟩

theorem reaches_mailboxes {permitted : Machine → Action → Prop}
    {restricted : Mailbox.State ServiceHandle Message →
      Move ServiceHandle Message → Prop}
    (implied : ∀ machine action state move, permitted machine action →
      Licensed machine action state move → restricted state move)
    {now : TimePoint} {actions : List Action}
    (reached : Reaches permitted now actions machine) :
    ∃ moves, Mailbox.Reaches restricted moves machine.mailboxes :=
  follows_mailboxes implied (ActorSystem.new_consistent now) reached

/-- Every run is a run of mailboxes. -/
theorem reaches_moves {permitted : Machine → Action → Prop}
    {now : TimePoint} {actions : List Action}
    (reached : Reaches permitted now actions machine) :
    ∃ moves, Mailbox.Reaches (fun _ _ => True) moves machine.mailboxes := by
  apply reaches_mailboxes _ reached
  intro machine action state move _ _
  exact trivial

end Machine

end Crynet
