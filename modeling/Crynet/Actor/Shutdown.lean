import Crynet.Actor.Exceptions
import Crynet.Actor.Integrity

/-!
# Shutting down

`shutdown` releases one service after the other, which empties every store but
the scheduler: no release takes a handle out of the ready queue or out of the
in-flight set.  So the system is quiescent afterwards exactly when nothing was
ready before and no callback has ever thrown.
-/

namespace Crynet

namespace ActorSystem

/-- The report of a system in which nothing is left. -/
structure Quiescent (system : ActorSystem) : Prop where
  registeredServices : system.snapshot.registeredServices = 0
  pendingSessions : system.snapshot.pendingSessions = 0
  queuedMessages : system.snapshot.queuedMessages = 0
  readyServices : system.snapshot.readyServices = 0
  inFlightServices : system.snapshot.inFlightServices = 0

variable {system : ActorSystem}

private theorem releaseService_scheduler (system : ActorSystem)
    (handle : ServiceHandle) :
    (system.releaseService handle).2.scheduler = system.scheduler := by
  rcases system.releaseService_cases handle with ⟨_, shape⟩ | ⟨_, _, shape⟩
  · rw [shape]
  · rw [shape]
    rfl

private theorem mem_releaseService (system : ActorSystem)
    (handle other : ServiceHandle) :
    other ∈ (system.releaseService handle).2.services ↔
      other ≠ handle ∧ other ∈ system.services := by
  rcases system.releaseService_cases handle with
    ⟨missing, shape⟩ | ⟨_, _, shape⟩
  · rw [shape]
    constructor
    · intro member
      refine ⟨?_, member⟩
      intro same
      rw [same] at member
      exact AssociationMap.lookup_none_iff.mp missing member
    · exact And.right
  · rw [shape]
    exact AList.mem_erase

private theorem releaseAll_scheduler (system : ActorSystem)
    (handles : List ServiceHandle) :
    (system.releaseAll handles).2.scheduler = system.scheduler := by
  induction handles generalizing system with
  | nil => rfl
  | cons handle handles induction =>
      simp only [releaseAll]
      rw [induction, releaseService_scheduler]

private theorem mem_releaseAll (system : ActorSystem) (handles : List ServiceHandle)
    (other : ServiceHandle) :
    other ∈ (system.releaseAll handles).2.services ↔
      other ∉ handles ∧ other ∈ system.services := by
  induction handles generalizing system with
  | nil => simp [releaseAll]
  | cons handle handles induction =>
      simp only [releaseAll]
      rw [induction, mem_releaseService, List.mem_cons, not_or, and_left_comm,
        and_assoc]

private theorem releaseAll_integral (integral : system.Integral)
    (handles : List ServiceHandle) :
    (system.releaseAll handles).2.Integral := by
  induction handles generalizing system with
  | nil => exact integral
  | cons handle handles induction =>
      simp only [releaseAll]
      apply induction
      exact integral.of_changes (releaseService_changes system handle)

/-- Every handle of a registered service is counted once. -/
theorem releaseAll_count {handles : List ServiceHandle}
    (distinct : handles.Nodup)
    (registered : ∀ handle ∈ handles, handle ∈ system.services) :
    (system.releaseAll handles).1 = handles.length := by
  induction handles generalizing system with
  | nil => rfl
  | cons handle handles induction =>
      obtain ⟨once, distinct⟩ := List.nodup_cons.mp distinct
      have rest : ((system.releaseService handle).2.releaseAll handles).1 =
          handles.length := by
        apply induction distinct
        intro other member
        apply (mem_releaseService system handle other).mpr
        refine ⟨?_, registered other (List.mem_cons_of_mem _ member)⟩
        intro same
        exact once (same ▸ member)
      have released : (system.releaseService handle).1 = true := by
        rcases system.releaseService_cases handle with
          ⟨missing, _⟩ | ⟨_, _, shape⟩
        · exact absurd (registered handle List.mem_cons_self)
            (AssociationMap.lookup_none_iff.mp missing)
        · rw [shape]
      simp only [releaseAll, released, if_true]
      rw [rest, List.length_cons, Nat.add_comm]

private theorem shutdown_count (system : ActorSystem) :
    system.shutdown.1 = system.snapshot.registeredServices := by
  have counted : system.shutdown.1 = system.services.keys.length := by
    apply releaseAll_count system.services.keys_nodup
    intro handle member
    exact AList.mem_keys.mpr member
  rw [counted]
  exact List.length_map _

private theorem shutdown_unregisters (system : ActorSystem) :
    system.shutdown.2.services.entries = [] := by
  have none : ∀ handle, handle ∉ system.shutdown.2.services := by
    intro handle member
    obtain ⟨missing, registered⟩ :=
      (system.mem_releaseAll system.services.keys handle).mp member
    exact missing (AList.mem_keys.mp registered)
  apply List.eq_nil_iff_forall_not_mem.mpr
  intro entry member
  apply none entry.1
  exact AssociationMap.mem_of_lookup (AssociationMap.mem_entries_iff.mp member)

/-- Sessions are between registered services, so none is left without them. -/
theorem shutdown_cancels (integral : system.Integral) :
    system.shutdown.2.sessionManager.entries.entries = [] := by
  have after : system.shutdown.2.Integral :=
    releaseAll_integral integral system.services.keys
  apply List.eq_nil_iff_forall_not_mem.mpr
  intro entry member
  have caller :=
    (after.sessions entry.1 entry.2 (AssociationMap.mem_entries_iff.mp member)).1
  obtain ⟨service, found⟩ :=
    Option.isSome_iff_exists.mp (AList.lookup_isSome.mpr caller)
  have here := AssociationMap.mem_entries_iff.mpr found
  rw [shutdown_unregisters] at here
  cases here

/-- Nothing but the scheduler stands between a shutdown and quiescence. -/
theorem shutdown_quiescent_iff (integral : system.Integral) :
    system.shutdown.2.Quiescent ↔
      system.scheduler.ready = [] ∧ system.scheduler.inFlightHandles = ∅ := by
  have scheduler : system.shutdown.2.scheduler = system.scheduler :=
    releaseAll_scheduler system system.services.keys
  have services := system.shutdown_unregisters
  have sessions := shutdown_cancels integral
  constructor
  · intro quiescent
    have ready := quiescent.readyServices
    have inFlight := quiescent.inFlightServices
    simp only [snapshot, scheduler] at ready inFlight
    exact ⟨List.eq_nil_of_length_eq_zero ready,
      Finset.card_eq_zero.mp inFlight⟩
  · rintro ⟨ready, inFlight⟩
    refine ⟨?_, ?_, ?_, ?_, ?_⟩
    · simp only [snapshot, services, List.length_nil]
    · simp only [snapshot, SessionManager.size, sessions, List.length_nil]
    · simp only [snapshot, queuedTotal, AssociationMap.total, services]
      rfl
    · simp only [snapshot, scheduler, WorkerScheduler.pendingCount, ready,
        List.length_nil]
    · simp only [snapshot, scheduler, WorkerScheduler.inFlightCount, inFlight,
        Finset.card_empty]

end ActorSystem

namespace Machine

variable {machine next : Machine}
variable {now : TimePoint} {actions : List Action}

/-- No activation runs, so a handle in flight has been left by an exception. -/
theorem inFlight_empty_iff (reached : Reaches Unrestricted now actions machine)
    (alone : machine.stack = []) :
    machine.system.scheduler.inFlightHandles = ∅ ↔ .throws ∉ actions := by
  have recovered := unwedged_iff_no_throws reached alone
  constructor
  · intro landed thrown
    obtain ⟨handle, wedged⟩ := exists_wedged reached thrown
    have flies := (wedged_iff.mp wedged).1
    rw [landed] at flies
    cases flies
  · intro normal
    exact (recovered.mpr normal).1

/-- Outside all activations, `shutdown` returns the number of services, and it
leaves a quiescent system exactly when no service was ready before and no
callback has thrown so far. -/
theorem shutdown_quiesces_iff
    (reached : Reaches Unrestricted now actions machine)
    (alone : machine.stack = [])
    (stepped : machine.step .shutdown = .ok next) :
    (machine.system.shutdown.1 = machine.system.snapshot.registeredServices ∧
      next.system.Quiescent) ↔
      machine.system.scheduler.ready = [] ∧ .throws ∉ actions := by
  simp only [step, Except.ok.injEq] at stepped
  subst stepped
  have after : (releaseEach machine.system.services.keys machine).system =
      machine.system.shutdown.2 :=
    releaseEach_system machine.system.services.keys machine
  rw [after, ActorSystem.shutdown_quiescent_iff (reaches_integral reached),
    inFlight_empty_iff reached alone]
  exact and_iff_right machine.system.shutdown_count

/-- A shutdown behind a dispatch that has emptied the queues. -/
theorem shutdown_quiesces_iff_drained :
    ∃ machine next, Reaches Unrestricted 0
        [.registerService [97], .registerService [98], .call 1 2 [],
          .dispatchBatch 1 false, .returns] machine ∧
      machine.step .shutdown = .ok next ∧
      machine.system.pendingSessions = 1 ∧ machine.system.shutdown.1 = 2 ∧
      next.system.Quiescent := by
  have ran : ∃ machine next, Transition.runSteps step (new 0)
      [.registerService [97], .registerService [98], .call 1 2 [],
        .dispatchBatch 1 false, .returns] = .ok machine ∧
      machine.stack = [] ∧ machine.step .shutdown = .ok next ∧
      machine.system.pendingSessions = 1 ∧
      machine.system.snapshot.registeredServices = 2 ∧
      machine.system.scheduler.ready = [] :=
    ⟨_, _, rfl, rfl, rfl, rfl, rfl, rfl⟩
  obtain ⟨machine, next, ran, alone, stepped, pending, services, unready⟩ := ran
  have reached : Reaches Unrestricted 0
      [.registerService [97], .registerService [98], .call 1 2 [],
        .dispatchBatch 1 false, .returns] machine :=
    Transition.Execution.ofRunSteps ran fun _ _ _ => trivial
  obtain ⟨count, quiescent⟩ :=
    (shutdown_quiesces_iff reached alone stepped).mpr ⟨unready, by decide⟩
  exact ⟨machine, next, reached, stepped, pending, count.trans services,
    quiescent⟩

/-- A service with a queued message stays in the ready queue. -/
theorem shutdown_leaves_ready :
    ∃ machine next, Reaches Unrestricted 0
        [.registerService [97], .send { targetHandle := 1 }] machine ∧
      machine.stack = [] ∧ machine.step .shutdown = .ok next ∧
      next.system.snapshot.readyServices = 1 ∧ ¬next.system.Quiescent := by
  have ran : ∃ machine next, Transition.runSteps step (new 0)
      [.registerService [97], .send { targetHandle := 1 }] = .ok machine ∧
      machine.stack = [] ∧ machine.step .shutdown = .ok next ∧
      next.system.snapshot.readyServices = 1 :=
    ⟨_, _, rfl, rfl, rfl, rfl⟩
  obtain ⟨machine, next, ran, alone, stepped, left⟩ := ran
  refine ⟨machine, next, ?_, alone, stepped, left, ?_⟩
  · exact Transition.Execution.ofRunSteps ran fun _ _ _ => trivial
  · intro quiescent
    rw [quiescent.readyServices] at left
    cases left

end Machine

end Crynet
