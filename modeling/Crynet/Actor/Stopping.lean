import Crynet.Actor.Licence
import Crynet.Foundation.Mailbox.Halting

/-!
# Stopping services

`dispatch_batch` does not look at the state of the service before it calls the
handler.  Every handler is called on a running service if services are stopped
only when nothing is left for them.
-/

namespace Crynet

namespace Machine

variable {machine : Machine}
variable {now : TimePoint} {actions : List Action}

/-- A running service is stopped only when its queue is empty and no observer
is being shown a message for it. -/
def StopsDrained (machine : Machine) (action : Action) : Prop :=
  ∀ handle service, action.Stops machine handle →
    machine.system.services.lookup handle = some service →
    service.context.state = .running →
      service.queue.messages = [] ∧
        ∀ activation ∈ machine.stack, activation.batch.handle = handle →
          activation.phase = .handling

private theorem Licensed.calmHalt {action : Action}
    {state : Mailbox.State ServiceHandle Message}
    {move : Mailbox.Move ServiceHandle Message}
    (licensed : Licensed machine action state move)
    (stops : StopsDrained machine action) : Mailbox.CalmHalt state move := by
  cases licensed with
  | routine ordinary =>
      cases move with
      | halt key => exact absurd ordinary id
      | _ => trivial
  | opens _ => trivial
  | @halts _ handle stopping =>
      intro present
      obtain ⟨box, found, running⟩ := present
      obtain ⟨service, located, shape⟩ := Option.map_eq_some_iff.mp found
      subst shape
      obtain ⟨drained, shown⟩ := stops handle service stopping located
        (service.context.isRunning_iff.mp running)
      refine ⟨?_, ?_⟩
      · intro other same
        rw [← Option.some.inj (found.symm.trans same)]
        exact drained
      · intro turn member named _ message held
        obtain ⟨activation, inStack, shape⟩ := List.mem_map.mp member
        subst shape
        have handling := shown activation inStack named
        simp [Activation.turn, Phase.hand, handling] at held
  | closes _ _ _ => trivial
  | unwinds => trivial

/-- In a run that stops services only when nothing is left for them, every
handler is called on a service that is running at that moment. -/
theorem handlers_run (reached : Reaches StopsDrained now actions machine)
    {handle : ServiceHandle} {message : Message} {running : Bool}
    (invoked : .delivered handle message running ∈ machine.system.history) :
    running = true := by
  obtain ⟨moves, moved⟩ := reaches_mailboxes
    (fun _ _ _ _ stops licensed => licensed.calmHalt stops) reached
  have calm := Mailbox.Calm.of_reaches (fun _ _ allowed => allowed) moved
  exact calm.delivered handle message running invoked

/-- One message, handled by a running service. -/
theorem handlers_run_last :
    ∃ machine running, Reaches StopsDrained 0
        [.registerService [97], .send { targetHandle := 1 },
          .dispatchBatch 1 false] machine ∧
      .delivered 1 { targetHandle := 1 } running ∈ machine.system.history ∧
      running = true := by
  have ran : ∃ machine, Transition.runSteps step (new 0)
      [.registerService [97], .send { targetHandle := 1 },
        .dispatchBatch 1 false] = .ok machine ∧
      machine.system.history =
        [.opened 1, .accepted 1 { targetHandle := 1 },
          .delivered 1 { targetHandle := 1 } true] :=
    ⟨_, rfl, rfl⟩
  obtain ⟨machine, ran, history⟩ := ran
  have reached : Reaches StopsDrained 0
      [.registerService [97], .send { targetHandle := 1 },
        .dispatchBatch 1 false] machine := by
    apply Transition.Execution.ofRunSteps ran
    intro action member machine handle service stops
    have harmless : action.isHarmless = true :=
      List.all_eq_true.mp rfl action member
    exact absurd stops (Action.not_stops_of_harmless harmless)
  have invoked : .delivered 1 { targetHandle := 1 } true ∈
      machine.system.history := by
    rw [history]
    simp
  exact ⟨machine, true, reached, invoked, handlers_run reached invoked⟩

/-- A message queued before the stop is handled after it. -/
theorem stopped_handler_runs :
    ∃ machine, Reaches Unrestricted 0
        [.registerService [97], .send { targetHandle := 1 }, .stopService 1,
          .dispatchBatch 1 false] machine ∧
      machine.system.history =
        [.opened 1, .accepted 1 { targetHandle := 1 },
          .delivered 1 { targetHandle := 1 } false] := by
  have ran : ∃ machine, Transition.runSteps step (new 0)
      [.registerService [97], .send { targetHandle := 1 }, .stopService 1,
        .dispatchBatch 1 false] = .ok machine ∧
      machine.system.history =
        [.opened 1, .accepted 1 { targetHandle := 1 },
          .delivered 1 { targetHandle := 1 } false] :=
    ⟨_, rfl, rfl⟩
  obtain ⟨machine, ran, history⟩ := ran
  refine ⟨machine, ?_, history⟩
  exact Transition.Execution.ofRunSteps ran fun _ _ _ => trivial

end Machine

end Crynet
