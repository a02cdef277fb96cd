import Crynet.Actor.Answers
import Crynet.Actor.FifoDelivery

/-!
# Which identifiers a run gives out

Handles and sessions come from two 64-bit counters.  Until such a counter comes
around, what it gives out is greater than everything it has given out before,
so a handle or session that is gone does not return.
-/

namespace Crynet

namespace Machine

variable {machine next final : Machine}
variable {now : TimePoint} {actions later : List Action}

/-- The handle an action makes `register_service` return. -/
def registers (machine : Machine) : Action → List ServiceHandle
  | .registerService serviceName =>
      match machine.system.registerService serviceName with
      | some (some handle, _) => [handle]
      | _ => []
  | _ => []

/-- The session an action opens. -/
def begins (machine : Machine) : Action → List SessionId
  | .call sourceHandle targetHandle _ =>
      if sourceHandle ∉ machine.system.services ∨
          targetHandle ∉ machine.system.services then
        []
      else
        match machine.system.sessionManager.beginSession sourceHandle
            targetHandle with
        | some (sessionId, _) => [sessionId]
        | none => []
  | _ => []

/-- The action does not give out the handle. -/
def Shuns (handle : ServiceHandle) (machine : Machine) (action : Action) :
    Prop :=
  ∀ serviceName registry, action = .registerService serviceName →
    machine.system.handleRegistry.allocate ≠ some (handle, registry)

theorem registers_ne {handle : ServiceHandle} {action : Action}
    (shuns : Shuns handle machine action) :
    handle ∉ machine.registers action := by
  intro registered
  cases action with
  | registerService serviceName =>
      simp only [registers] at registered
      split at registered
      · rename_i other next performed
        rw [List.mem_singleton.mp registered] at shuns
        obtain ⟨allotted, registry, allocated, ⟨none, _⟩ | ⟨same, _⟩⟩ :=
          ActorSystem.registerService_cases performed
        · cases none
        · cases same
          exact shuns serviceName registry rfl allocated
      · cases registered
  | _ => cases registered

/-- A registration takes the next number. -/
theorem step_numbered {count : Nat}
    (numbered : machine.system.handleRegistry.Numbered count)
    {action : Action} (few : count + registrations [action] < 2 ^ 64)
    (stepped : machine.step action = .ok next) :
    next.system.handleRegistry.Numbered (count + registrations [action]) := by
  cases action with
  | registerService serviceName =>
      obtain ⟨result, system, performed, shape⟩ := returning_cases stepped
      subst shape
      obtain ⟨handle, allotted, allocated, shape⟩ :=
        ActorSystem.registerService_cases performed
      obtain ⟨value, moved⟩ := numbered.allocated few allocated
      rcases shape with ⟨_, same⟩ | ⟨_, registry, registered, same⟩
      · rw [same]
        exact moved
      · rw [same]
        exact moved.registered value.le registered
  | _ =>
      apply numbered.shrinks (step_registry _ stepped)
      intro serviceName registers
      cases registers

/-- The run lemma of handles. -/
theorem reaches_numbered {permitted : Machine → Action → Prop}
    (reached : Reaches permitted now actions machine)
    (few : registrations actions < 2 ^ 64) :
    machine.system.handleRegistry.Numbered (registrations actions) := by
  induction reached with
  | nil =>
      refine ⟨rfl, ?_⟩
      intro handle member
      cases member
  | snoc _ _ stepped induction =>
      rw [registrations_snoc] at few ⊢
      exact step_numbered (induction (by omega)) few stepped

/-- With few registrations an old handle is not given out again. -/
theorem shuns_of_few {handle : ServiceHandle} {count : Nat}
    (numbered : machine.system.handleRegistry.Numbered count)
    (old : handle.toNat ≤ count)
    (followed : Transition.Execution (Transition.returning step) Unrestricted
      machine later final)
    (few : count + registrations later < 2 ^ 64) :
    Transition.Execution (Transition.returning step) (Shuns handle) machine
        later final ∧
      final.system.handleRegistry.Numbered (count + registrations later) := by
  induction followed with
  | nil => exact ⟨.nil, numbered⟩
  | @snoc later current next action _ _ stepped induction =>
      rw [registrations_snoc] at few ⊢
      obtain ⟨before, counted⟩ := induction (by omega)
      refine ⟨.snoc before ?_ stepped, ?_⟩
      · intro serviceName registry registers allocated
        subst registers
        have one : registrations [.registerService serviceName] = 1 := rfl
        obtain ⟨value, _⟩ := counted.allocated (by omega) allocated
        omega
      · rw [← Nat.add_assoc]
        exact step_numbered counted (by omega) stepped

/-- Only an action that opens it makes a session pending. -/
theorem step_lookup {action : Action} {sessionId : SessionId}
    {entry : SessionEntry} (stepped : machine.step action = .ok next)
    (pending : next.system.sessionManager.entries.lookup sessionId =
      some entry) :
    machine.system.sessionManager.entries.lookup sessionId = some entry ∨
      sessionId ∈ machine.begins action := by
  cases action with
  | call sourceHandle targetHandle payloadText =>
      obtain ⟨result, system, called, shape⟩ := returning_cases stepped
      subst shape
      rcases ActorSystem.call_cases called with
        ⟨_, _, same⟩ | ⟨known, opened, sessions, begun, _, sent⟩
      · rw [same] at pending
        exact Or.inl pending
      · have kept := (ActorSystem.send_keeps
          { machine.system with sessionManager := sessions }
          (Message.fromText .request sourceHandle targetHandle opened
            payloadText)).sessionManager
        rw [← sent] at kept
        obtain ⟨_, _, _, entries⟩ := SessionManager.beginSession_some begun
        simp only [setSystem, kept, entries,
          AssociationMap.lookup_insert_eq] at pending
        split at pending
        · rename_i same
          right
          have registered : ¬(sourceHandle ∉ machine.system.services ∨
              targetHandle ∉ machine.system.services) := by
            rw [not_or, not_not, not_not]
            exact known
          simp only [begins, if_neg registered, begun]
          exact List.mem_singleton.mpr same
        · exact Or.inl pending
  | _ => exact Or.inl ((step_shrinks rfl stepped).kept sessionId entry pending)

/-- A session that is not pending stays so until it is opened. -/
theorem lookup_of_unbegun {permitted : Machine → Action → Prop}
    {sessionId : SessionId}
    (closed : machine.system.sessionManager.entries.lookup sessionId = none)
    (followed : Transition.Execution (Transition.returning step) permitted
      machine later final)
    (unbegun :
      sessionId ∉ Transition.observations step begins machine later) :
    final.system.sessionManager.entries.lookup sessionId = none := by
  revert unbegun
  apply followed.observed_invariant begins fun _ begun current =>
    sessionId ∉ begun →
      current.system.sessionManager.entries.lookup sessionId = none
  · exact fun _ => closed
  · intro _ begun current action next induction _ stepped unbegun
    rw [List.mem_append, not_or] at unbegun
    by_contra pending
    obtain ⟨entry, found⟩ := Option.ne_none_iff_exists'.mp pending
    rcases step_lookup stepped found with before | here
    · rw [induction unbegun.1] at before
      cases before
    · exact unbegun.2 here

/-- A session that is opened takes the next number. -/
theorem begins_value {count : Nat} {events : List SessionEvent}
    (ticketed : machine.system.sessionManager.Ticketed count events)
    {action : Action} (few : count + calls [action] < 2 ^ 64)
    {sessionId : SessionId} (begun : sessionId ∈ machine.begins action) :
    sessionId.toNat = count + 1 := by
  cases action with
  | call sourceHandle targetHandle payloadText =>
      simp only [begins] at begun
      split at begun
      · cases begun
      · split at begun
        · rename_i opened sessions found
          have same := ticketed.begun_value few found
          rw [List.mem_singleton.mp begun, same]
          exact UInt64.toNat_ofNat_of_lt' few
        · cases begun
  | _ => cases begun

/-- With few calls an old session is not opened again. -/
theorem unbegun_of_few {permitted : Machine → Action → Prop} {count : Nat}
    {events : List SessionEvent} {sessionId : SessionId}
    (ticketed : machine.system.sessionManager.Ticketed count events)
    (old : sessionId.toNat ≤ count)
    (followed : Transition.Execution (Transition.returning step) permitted
      machine later final)
    (few : count + calls later < 2 ^ 64) :
    sessionId ∉ Transition.observations step begins machine later := by
  have all := followed.observed_invariant begins
    (fun later begun current => count + calls later < 2 ^ 64 →
      sessionId ∉ begun ∧ ∃ reached events, count ≤ reached ∧
        reached ≤ count + calls later ∧
        current.system.sessionManager.Ticketed reached events)
  refine (all ?_ ?_ few).1
  · intro _
    exact ⟨List.not_mem_nil, count, events, Nat.le_refl _,
      Nat.le_add_right _ _, ticketed⟩
  · intro later begun current action next induction _ stepped few
    rw [calls_snoc] at few ⊢
    obtain ⟨unbegun, reached, events, least, most, ticketed⟩ :=
      induction (by omega)
    obtain ⟨opened, atMost, after⟩ := step_ticketed ticketed (by omega) stepped
    refine ⟨?_, reached + opened, _, by omega, by omega, after⟩
    rw [List.mem_append, not_or]
    refine ⟨unbegun, ?_⟩
    intro here
    have value := begins_value ticketed (by omega) here
    omega

end Machine

end Crynet
