import Crynet.Actor.Overloads

/-!
# The history of the queue depths

Every state of a run shows how deep each queue is, and so do the states inside
the loops of `pump_timers` and `shutdown`; no other action changes a queue more
than once.  A meter for each handle reads the history of its depths, and after
every step it is the meter that the queue carries.
-/

namespace Crynet

open FillCycles (Meter)

namespace ActorSystem

/-- The systems behind each round of the loop of `pump_timers`. -/
def injections (system : ActorSystem) : List Message → List ActorSystem
  | [] => []
  | message :: messages =>
      let injected := (system.injectTimers [message]).2
      injected :: injected.injections messages

/-- The systems that `pump_timers` passes through. -/
def pumpings (system : ActorSystem) (now : TimePoint) : List ActorSystem :=
  match system.timerQueue.pollExpired now with
  | none => []
  | some (messages, timerQueue) =>
      { system with timerQueue := timerQueue }.injections messages

/-- The meters after a history. -/
def metersOf (systems : List ActorSystem) : ServiceHandle → Meter :=
  fun handle => Meter.read overloads
    (systems.map fun system => system.pendingMessages handle)

variable {system : ActorSystem} {meters : ServiceHandle → Meter}

private theorem metersOf_append (systems more : List ActorSystem) :
    metersOf (systems ++ more) = more.foldl sampled (metersOf systems) := by
  induction more using List.reverseRecOn with
  | nil => rw [List.append_nil, List.foldl_nil]
  | append_singleton more last induction =>
      rw [List.foldl_append, ← induction, ← List.append_assoc]
      funext handle
      rw [metersOf, List.map_append]
      exact Meter.read_snoc _ _

private theorem injectTimers_cons (system : ActorSystem) (message : Message)
    (messages : List Message) :
    (system.injectTimers (message :: messages)).2 =
      ((system.injectTimers [message]).2.injectTimers messages).2 :=
  rfl

private theorem injections_metered (metered : Metered meters system)
    (messages : List Message) :
    Metered ((system.injections messages).foldl sampled meters)
      (system.injectTimers messages).2 := by
  induction messages generalizing system meters with
  | nil => exact metered
  | cons message messages induction =>
      rw [injectTimers_cons]
      apply induction
      have sent := metered.send message
      simp only [injectTimers]
      split
      · exact sent.recounted rfl ⟨rfl, rfl⟩
      · exact sent

private theorem pumpings_metered {now : TimePoint} {delivered : Nat}
    {next : ActorSystem} (metered : Metered meters system)
    (pumped : system.pumpTimers now = some (delivered, next)) :
    Metered ((system.pumpings now).foldl sampled meters) next := by
  obtain ⟨messages, timers, polled, injected⟩ := pumpTimers_cases pumped
  have before : Metered meters { system with timerQueue := timers } :=
    metered.recounted rfl ⟨rfl, rfl⟩
  have sent := injections_metered before messages
  rw [injected] at sent
  rw [pumpings, polled]
  exact sent

private theorem continueBatch_metrics (system : ActorSystem) (batch : Batch)
    (service : ServiceSlot) :
    (system.continueBatch batch service).2.metrics = system.metrics := by
  unfold continueBatch
  split
  · split
    · rfl
    · simp only
      split <;> rfl
  · rfl

private theorem startBatch_metrics (system : ActorSystem)
    (maxMessagesPerService : Nat) (observed : Bool) (caller : Caller) :
    (system.startBatch maxMessagesPerService observed caller).2.metrics =
      system.metrics := by
  unfold startBatch
  split
  · rfl
  · split
    · rfl
    · exact continueBatch_metrics _ _ _

end ActorSystem

namespace Machine

open ActorSystem (Metered sampled metersOf drains_dispatches)

/-- The systems behind each round of the loop of `shutdown`. -/
def releases : List ServiceHandle → Machine → List ActorSystem
  | [], _ => []
  | handle :: handles, machine =>
      (machine.release handle).system ::
        releases handles (machine.release handle)

/-- The systems that an action passes through on its way. -/
def moments (machine : Machine) : Action → List ActorSystem
  | .pumpTimers now => machine.system.pumpings now
  | .shutdown => releases machine.system.services.keys machine
  | _ => []

variable {machine next : Machine} {system : ActorSystem}
variable {stack : List Activation} {meters : ServiceHandle → Meter}

private theorem launch_metrics (system : ActorSystem) (stack : List Activation)
    (maxMessagesPerService : Nat) (observed : Bool) (caller : Caller) :
    (launch system stack maxMessagesPerService observed caller).system.metrics =
      system.metrics := by
  have started := system.startBatch_metrics maxMessagesPerService observed
    caller
  unfold launch
  split
  · rename_i result
    rw [result] at started
    exact started
  · rename_i result
    rw [result] at started
    exact started

private theorem finish_metrics (system : ActorSystem) (stack : List Activation)
    (batch : Batch) :
    (finish system stack batch).system.metrics = system.metrics := by
  unfold finish
  split
  · simp only
    split
    · rfl
    · split
      · exact launch_metrics _ _ _ _ _
      · rfl
  · rfl

private theorem proceed_metrics {batch : Batch}
    (proceeded : proceed system stack batch = .ok next) :
    next.system.metrics = system.metrics := by
  unfold proceed at proceeded
  split at proceeded
  · cases proceeded
  · rename_i service found
    have continued := system.continueBatch_metrics batch service
    split at proceeded
    · rename_i result
      rw [result] at continued
      cases proceeded
      exact continued
    · rename_i result
      rw [result] at continued
      cases proceeded
      exact (finish_metrics _ _ _).trans continued

/-- A callback that returns is counted, but not as load. -/
theorem resume_sameLoad (resumed : machine.resume = .ok next) :
    machine.system.metrics.SameLoad next.system.metrics := by
  unfold resume at resumed
  split at resumed
  · cases resumed
  · split at resumed
    · cases resumed
    · split at resumed
      · unfold observed at resumed
        split at resumed
        · cases resumed
        · cases resumed
          exact ⟨rfl, rfl⟩
      · rw [proceed_metrics resumed]
        exact ⟨rfl, rfl⟩

private theorem release_metered (metered : Metered meters machine.system)
    (handle : ServiceHandle) :
    Metered (sampled meters (machine.release handle).system)
      (machine.release handle).system := by
  rcases machine.release_cases handle with
    ⟨_, shape⟩ | ⟨service, _, shape⟩
  · rw [shape]
    exact metered.again
  · rw [shape]
    exact metered.drained
      (machine.system.removeService_drains handle service) ⟨rfl, rfl⟩

private theorem releases_metered (metered : Metered meters machine.system)
    (handles : List ServiceHandle) :
    Metered ((releases handles machine).foldl sampled meters)
      (releaseEach handles machine).system := by
  induction handles generalizing machine meters with
  | nil => exact metered
  | cons handle handles induction =>
      exact induction (release_metered metered handle)

private theorem onContext_metered {method : ServiceContext → ServiceContext}
    (metered : Metered meters machine.system)
    (called : machine.onContext method = .ok next) :
    Metered (sampled meters next.system) next.system := by
  obtain ⟨_, _, _, _, found, shape⟩ := onContext_cases called
  rw [shape]
  refine metered.drained (.of_slot found ?_ rfl) ⟨rfl, rfl⟩
  exact Or.inl rfl

private theorem launched_metered (metered : Metered meters machine.system)
    (maxMessagesPerService : Nat) (observed : Bool) (caller : Caller) :
    let launched := launch machine.system machine.stack maxMessagesPerService
      observed caller
    Metered (sampled meters launched.system) launched.system := by
  intro launched
  have same := launch_metrics machine.system machine.stack
    maxMessagesPerService observed caller
  apply metered.drained
  · exact launch_related drains_dispatches _ _ _ _ _
  · rw [same]
    exact ⟨rfl, rfl⟩

/-- The step lemma of the meters. -/
theorem step_metered {action : Action}
    (metered : Metered meters machine.system)
    (stepped : machine.step action = .ok next) :
    Metered ((machine.moments action ++ [next.system]).foldl sampled meters)
      next.system := by
  cases action with
  | registerService serviceName =>
      obtain ⟨_, _, performed, shape⟩ := returning_cases stepped
      subst shape
      obtain ⟨_, _, _, ⟨_, shape⟩ | ⟨_, _, _, shape⟩⟩ :=
        ActorSystem.registerService_cases performed
      · subst shape
        exact metered.drained (.of_services rfl) ⟨rfl, rfl⟩
      · subst shape
        exact metered.drained (ActorSystem.addService_drains _ _ _ _)
          ⟨rfl, rfl⟩
  | send message =>
      cases stepped
      exact metered.send message
  | stopService handle =>
      cases stepped
      rcases machine.system.stopService_cases handle with
        shape | ⟨service, found, shape⟩
      · simp only [shape]
        exact metered.again
      · simp only [shape]
        refine metered.drained (.of_slot found ?_ rfl) ⟨rfl, rfl⟩
        exact Or.inl rfl
  | releaseService handle =>
      cases stepped
      exact release_metered metered handle
  | shutdown =>
      cases stepped
      have released := releases_metered metered machine.system.services.keys
      rw [List.foldl_append]
      exact released.again
  | call sourceHandle targetHandle payloadText =>
      obtain ⟨_, _, called, shape⟩ := returning_cases stepped
      subst shape
      rcases ActorSystem.call_cases called with
        ⟨_, _, same⟩ | ⟨_, _, sessions, _, _, shape⟩
      · subst same
        exact metered.again
      · subst shape
        have opened : Metered meters
            { machine.system with sessionManager := sessions } :=
          metered.recounted rfl ⟨rfl, rfl⟩
        exact opened.send _
  | respond sourceHandle sessionId payloadText =>
      cases stepped
      have sent := metered.send
      rcases machine.system.respond_cases sourceHandle sessionId payloadText
        with ⟨_, shape⟩ | ⟨_, _, ⟨_, shape⟩ | ⟨_, shape⟩⟩
      · simp only [shape]
        exact metered.again
      · simp only [shape]
        exact sent _
      · simp only [shape]
        exact (sent _).recounted rfl ⟨rfl, rfl⟩
  | scheduleTimeout targetHandle sessionId delay payloadText =>
      cases stepped
      exact metered.drained (.of_services rfl) ⟨rfl, rfl⟩
  | cancelTimeout timerId =>
      cases stepped
      exact metered.drained (.of_services rfl) ⟨rfl, rfl⟩
  | pumpTimers now =>
      obtain ⟨_, _, pumped, shape⟩ := returning_cases stepped
      subst shape
      have sent := ActorSystem.pumpings_metered metered pumped
      rw [List.foldl_append]
      exact sent.again
  | dispatchBatch maxMessagesPerService observed =>
      cases stepped
      exact launched_metered metered _ _ _
  | runUntilIdle maxBatches maxMessagesPerService =>
      simp only [step] at stepped
      split at stepped
      · cases stepped
        exact launched_metered metered _ _ _
      · cases stepped
        exact metered.again
  | dispatchOnce =>
      cases stepped
      exact launched_metered metered _ _ _
  | initializeContext =>
      simp only [step] at stepped
      exact onContext_metered metered stepped
  | startContext =>
      simp only [step] at stepped
      exact onContext_metered metered stepped
  | stopContext =>
      simp only [step] at stepped
      exact onContext_metered metered stepped
  | releaseContext =>
      simp only [step] at stepped
      exact onContext_metered metered stepped
  | returns =>
      exact metered.drained (resume_related drains_dispatches stepped)
        (resume_sameLoad stepped)
  | throws =>
      have drains := unwind_related drains_dispatches stepped
      simp only [step, unwind] at stepped
      split at stepped
      · cases stepped
      · cases stepped
        exact metered.drained drains ⟨rfl, rfl⟩

/-- The systems observed at a step. -/
def passing (machine : Machine) (action : Action) : List ActorSystem :=
  machine.system :: machine.moments action

/-- Every system of a run, the inner ones of its loops included. -/
def passed (now : TimePoint) (actions : List Action) (machine : Machine) :
    List ActorSystem :=
  Transition.observations step passing (new now) actions ++ [machine.system]

/-- The depths that the queue of a handle has had, in order. -/
def depths (now : TimePoint) (actions : List Action) (machine : Machine)
    (handle : ServiceHandle) : List Nat :=
  (passed now actions machine).map fun system => system.pendingMessages handle

variable {now : TimePoint} {actions : List Action}

private theorem new_metered (now : TimePoint) :
    Metered (metersOf [ActorSystem.new now]) (ActorSystem.new now) := by
  have unused : metersOf [ActorSystem.new now] = fun _ => Meter.unused := rfl
  rw [unused]
  refine ⟨⟨?_, ?_⟩, ⟨?_, ?_⟩⟩
  · intro handle service found
    cases found
  · exact fun _ _ => rfl
  · have nothing : ∑ _ : ServiceHandle, Meter.unused.reading overloads = 0 :=
      Finset.sum_const_zero
    rw [nothing]
    rfl
  · intro _
    constructor
    · exact ⟨0, rfl⟩
    · rintro _ ⟨_, rfl⟩
      exact Nat.zero_le _

/-- The run lemma of the meters. -/
theorem reaches_metered (reached : Reaches Unrestricted now actions machine) :
    Metered (metersOf (passed now actions machine)) machine.system := by
  have initially : Metered (metersOf ([] ++ [(new now).system]))
      (new now).system :=
    new_metered now
  apply Transition.Execution.observed_invariant passing
    (fun _ systems machine =>
      Metered (metersOf (systems ++ [machine.system])) machine.system)
    initially ?_ reached
  intro _ systems current action next metered _ stepped
  have moved := step_metered metered stepped
  rw [← ActorSystem.metersOf_append] at moved
  simpa [passing] using moved

end Machine

end Crynet
