import Crynet.Actor.Allocation
import Crynet.Actor.LoneService
import Crynet.Actor.Timeouts
import Crynet.Foundation.Mailbox.Vacancy
import Crynet.Timer.Delivery

/-!
# Releasing a service for good

`release_service` takes a service out of the slots, the registry, the sessions
and the timers, and touches nothing else.  Stale references to the handle stay
behind in other queues and in the ready queue; they lead nowhere as long as the
handle is not given out again.
-/

namespace Crynet

namespace ActorSystem

/-- Slots, registry and sessions do not mention a service. -/
structure Forgets (system : ActorSystem) (handle : ServiceHandle) : Prop where
  services : handle ∉ system.services
  handleToName : handle ∉ system.handleRegistry.handleToName
  nameToHandle : ∀ serviceName,
    system.handleRegistry.nameToHandle.lookup serviceName ≠ some handle
  sessions : ∀ sessionId entry,
    system.sessionManager.entries.lookup sessionId = some entry →
      entry.involves handle = false

/-- What belongs to other services is as it was, and so are the counters, the
clock of the timers and the scheduler. -/
structure SparesOthers (handle : ServiceHandle) (system next : ActorSystem) :
    Prop where
  services : ∀ other, other ≠ handle →
    next.services.lookup other = system.services.lookup other
  handleToName : ∀ other, other ≠ handle →
    next.handleRegistry.handleToName.lookup other =
      system.handleRegistry.handleToName.lookup other
  nameToHandle : ∀ serviceName other, other ≠ handle →
    (next.handleRegistry.nameToHandle.lookup serviceName = some other ↔
      system.handleRegistry.nameToHandle.lookup serviceName = some other)
  nextHandle :
    next.handleRegistry.nextHandle = system.handleRegistry.nextHandle
  sessions : ∀ sessionId entry, entry.involves handle = false →
    (next.sessionManager.entries.lookup sessionId = some entry ↔
      system.sessionManager.entries.lookup sessionId = some entry)
  nextSessionId :
    next.sessionManager.nextSessionId = system.sessionManager.nextSessionId
  timers : ∀ position, next.timerQueue.buckets position =
    (system.timerQueue.buckets position).filter fun entry =>
      entry.targetHandle != handle
  currentTick : next.timerQueue.currentTick = system.timerQueue.currentTick
  currentPoint : next.timerQueue.currentPoint = system.timerQueue.currentPoint
  nextTimerId : next.timerQueue.nextTimerId = system.timerQueue.nextTimerId
  scheduler : next.scheduler = system.scheduler

variable {system : ActorSystem} {handle : ServiceHandle}

private theorem releaseService_true_iff :
    (system.releaseService handle).1 = true ↔
      ∃ service, system.services.lookup handle = some service := by
  rcases system.releaseService_cases handle with
    ⟨missing, shape⟩ | ⟨service, found, shape⟩
  · rw [shape, missing]
    exact iff_of_false Bool.false_ne_true nofun
  · rw [shape]
    exact iff_of_true rfl ⟨service, found⟩

/-- Stores that agree forget a service with its slot. -/
theorem Integral.forgets (integral : system.Integral)
    (absent : handle ∉ system.services) : system.Forgets handle where
  services := absent
  handleToName := by
    rw [← integral.registered]
    exact absent
  nameToHandle := by
    intro serviceName found
    obtain ⟨_, named⟩ := (integral.inverse serviceName handle).mp found
    apply absent
    rw [integral.registered]
    exact AssociationMap.mem_of_lookup named
  sessions := by
    intro sessionId entry pending
    obtain ⟨caller, callee⟩ := integral.sessions sessionId entry pending
    rw [Bool.eq_false_iff, ne_eq, SessionManager.involves_iff]
    rintro (same | same)
    · exact absent (same ▸ caller)
    · exact absent (same ▸ callee)

/-- Releasing a service leaves the others alone. -/
theorem Integral.spares (integral : system.Integral)
    (handle : ServiceHandle) (service : ServiceSlot) :
    system.SparesOthers handle (system.removeService handle service) where
  services := by
    intro other different
    exact (AssociationMap.lookup_erase_eq _ _ _).trans (if_neg different)
  handleToName := by
    intro other different
    exact (HandleRegistry.lookup_unregister _ _ _).trans (if_neg different)
  nameToHandle := by
    intro serviceName other different
    have inverse := HandleRegistry.unregister_inverse integral.inverse handle
    have kept := (HandleRegistry.lookup_unregister system.handleRegistry
      handle other).trans (if_neg different)
    exact (inverse serviceName other).trans
      (kept ▸ (integral.inverse serviceName other).symm)
  nextHandle := HandleRegistry.unregister_nextHandle _ _
  sessions := by
    intro sessionId entry stranger
    simp only [removeService, SessionManager.lookup_cancelForHandle, stranger,
      and_true]
  nextSessionId := rfl
  timers := by
    intro position
    simp only [removeService, TimerQueue.cancelForTarget,
      TimerQueue.removeByTarget]
  currentTick := by
    simp only [removeService, TimerQueue.cancelForTarget,
      TimerQueue.removeByTarget]
  currentPoint := by
    simp only [removeService, TimerQueue.cancelForTarget,
      TimerQueue.removeByTarget]
  nextTimerId := by
    simp only [removeService, TimerQueue.cancelForTarget,
      TimerQueue.removeByTarget]
  scheduler := by simp only [removeService]

end ActorSystem

namespace Machine

variable {machine released final : Machine}
variable {now : TimePoint} {actions later : List Action}
variable {handle : ServiceHandle}

private theorem registrations_release (actions later : List Action)
    (handle : ServiceHandle) :
    registrations (actions ++ .releaseService handle :: later) =
      registrations actions + registrations later := by
  simp [registrations]

private theorem calls_release (actions later : List Action) (handle : ServiceHandle) :
    calls (actions ++ .releaseService handle :: later) =
      calls actions + calls later := by
  simp [calls]

/-- The slot of a service that is released is removed. -/
theorem release_removes {service : ServiceSlot}
    (found : machine.system.services.lookup handle = some service) :
    (machine.release handle).system =
      machine.system.removeService handle service := by
  simp only [release, ActorSystem.releaseService, found]

/-- A service without slot and activation is a vacant mailbox. -/
theorem vacant_iff :
    Mailbox.Vacant machine.mailboxes handle ↔
      handle ∉ machine.system.services ∧ handle ∉ machine.dispatching := by
  rw [← machine.turns_key, List.mem_map, not_exists]
  constructor
  · rintro ⟨absent, idle⟩
    refine ⟨?_, fun turn ⟨member, same⟩ => idle turn member same⟩
    intro registered
    obtain ⟨service, found⟩ :=
      Option.isSome_iff_exists.mp (AList.lookup_isSome.mpr registered)
    rw [mailboxes, ActorSystem.present_box found] at absent
    cases absent
  · rintro ⟨missing, idle⟩
    refine ⟨?_, fun turn member same => idle turn ⟨member, same⟩⟩
    exact ActorSystem.absent_box (AssociationMap.lookup_none_iff.mpr missing)

/-- Until its handle is given out again, a service that is gone stays away and
its handler is not called. -/
theorem vacant_of_shuns (consistent : machine.system.Consistent)
    (vacant : Mailbox.Vacant machine.mailboxes handle)
    (followed : Transition.Execution (Transition.returning step)
      (Shuns handle) machine later final) :
    Mailbox.Vacant final.mailboxes handle ∧
      final.invoked handle = machine.invoked handle := by
  have implied : ∀ machine action state move, Shuns handle machine action →
      Licensed machine action state move → move ≠ .openBox handle := by
    intro machine action state move shuns licensed opens
    subst opens
    cases licensed with
    | routine ordinary => exact ordinary
    | opens allocated => exact shuns _ _ rfl allocated
  obtain ⟨moves, moved⟩ := follows_mailboxes implied consistent followed
  exact vacant.of_execution (fun _ opens => opens rfl) moved

/-- The sessions of a service do not survive its release. -/
theorem release_lookup {service : ServiceSlot}
    (found : machine.system.services.lookup handle = some service)
    {sessionId : SessionId} {entry : SessionEntry}
    (pending : machine.system.sessionManager.entries.lookup sessionId =
      some entry) (involved : entry.involves handle = true) :
    (machine.release handle).system.sessionManager.entries.lookup sessionId =
      none := by
  rw [release_removes found]
  by_contra remains
  obtain ⟨other, kept⟩ := Option.ne_none_iff_exists'.mp remains
  obtain ⟨same, stranger⟩ :=
    (SessionManager.lookup_cancelForHandle handle other).mp kept
  rw [pending] at same
  cases same
  rw [involved] at stranger
  cases stranger

/-- The timers of a service are not handed out after its release. -/
theorem release_silences {permitted : Machine → Action → Prop}
    (reached : Reaches Unrestricted now actions machine)
    {service : ServiceSlot}
    (found : machine.system.services.lookup handle = some service)
    (followed : Transition.Execution (Transition.returning step) permitted
      (machine.release handle) later final)
    {entry : TimerEntry} (pending : entry ∈ machine.system.timerQueue.pending)
    (targets : entry.targetHandle = handle) {firing : Firing}
    (fired : firing ∈ Transition.observations step fires
      (machine.release handle) later) : firing.entry ≠ entry := by
  obtain ⟨_, before⟩ := reaches_timers [] reached
  have known := TimerRun.new_reaches_sound before
  have sound : (machine.system.timers []).queue.Sound now := known
  have cancelled := ActorSystem.release_cancels [] found
  have gone := TimerRun.gone_of_cancelForTarget sound pending targets
    cancelled
  have soundly := TimerRun.step_sound sound cancelled
  obtain ⟨_, after⟩ := reaches_timers [] followed
  obtain ⟨_, silent⟩ := TimerRun.gone_reaches soundly gone after
  have none := List.filter_eq_nil_iff.mp silent firing fired
  exact fun same => none (decide_eq_true same)

/-- A release isolates a service for good.  With fewer than 2^64 registrations,
slots, registry and sessions never mention it again, no later registration
returns its handle, its sessions are not answered while their identifiers are
not given out again, none of its timers is turned into a message, and its
handler does not run.  The release itself touches nothing of other services. -/
theorem release_isolates (reached : Reaches Unrestricted now actions machine)
    (returned : (machine.system.releaseService handle).1 = true)
    (idle : handle ∉ machine.dispatching)
    (stepped : machine.step (.releaseService handle) = .ok released)
    (followed : Transition.Execution (Transition.returning step) Unrestricted
      released later final)
    (few : registrations (actions ++ .releaseService handle :: later) <
      2 ^ 64) :
    machine.system.SparesOthers handle released.system ∧
      final.system.Forgets handle ∧
      handle ∉ Transition.observations step registers released later ∧
      (∀ sessionId entry,
        machine.system.sessionManager.entries.lookup sessionId = some entry →
        entry.involves handle = true →
        calls (actions ++ .releaseService handle :: later) < 2 ^ 64 ∨
          sessionId ∉ Transition.observations step begins released later →
        ∀ sourceHandle payloadText,
          (final.system.respond sourceHandle sessionId payloadText).1 =
            false) ∧
      (∀ position, ∀ entry ∈ machine.system.timerQueue.buckets position,
        entry.targetHandle = handle →
        ∀ firing ∈ Transition.observations step fires released later,
          firing.entry ≠ entry) ∧
      handle ∉ final.dispatching ∧
      final.invoked handle = machine.invoked handle := by
  simp only [step, Except.ok.injEq] at stepped
  subst stepped
  obtain ⟨service, found⟩ := ActorSystem.releaseService_true_iff.mp returned
  have removed := release_removes found
  have integral := reaches_integral reached
  have after : Reaches Unrestricted now
      (actions ++ [.releaseService handle]) (machine.release handle) :=
    .snoc reached trivial rfl
  have whole := Transition.Execution.trans after followed
  rw [registrations_release] at few
  have before := reaches_numbered reached (by omega)
  have old : handle.toNat ≤ registrations actions := by
    apply before.bounded
    rw [← integral.registered]
    exact AssociationMap.mem_of_lookup found
  have numbered : (machine.release handle).system.handleRegistry.Numbered
      (registrations actions) := before.shrinks
      (machine.system.releaseService_registry handle)
  obtain ⟨shunned, _⟩ := shuns_of_few numbered old followed few
  have vacant : Mailbox.Vacant (machine.release handle).mailboxes handle := by
    rw [vacant_iff, release_dispatching, removed]
    exact ⟨fun member => (AList.mem_erase.mp member).1 rfl, idle⟩
  obtain ⟨stays, quiet⟩ := vacant_of_shuns (reaches_consistent after) vacant
    shunned
  obtain ⟨absent, resting⟩ := vacant_iff.mp stays
  refine ⟨?_, (reaches_integral whole).forgets absent, ?_, ?_, ?_, resting, ?_⟩
  · rw [removed]
    exact integral.spares handle service
  · apply shunned.observed_invariant registers fun _ events _ =>
      handle ∉ events
    · exact List.not_mem_nil
    · intro _ events current action next unseen shuns _
      rw [List.mem_append, not_or]
      exact ⟨unseen, registers_ne shuns⟩
  · intro sessionId entry pending involved rare sourceHandle payloadText
    have closed := release_lookup found pending involved
    have unbegun : sessionId ∉ Transition.observations step begins
        (machine.release handle) later := by
      rcases rare with seldom | unbegun
      · rw [calls_release] at seldom
        obtain ⟨count, bound, ticketed⟩ :=
          reaches_ticketed reached (by omega)
        have shrunk := ticketed.shrinks
          (release_shrinks machine.system handle)
        exact unbegun_of_few shrunk (ticketed.pending _ _ pending).1 followed
          (by omega)
      · exact unbegun
    have stillClosed := lookup_of_unbegun closed followed unbegun
    simp only [ActorSystem.respond, SessionManager.lookupRequester,
      stillClosed]
  · intro position entry member targets firing fired
    exact release_silences reached found followed
      (TimerQueue.mem_pending.mpr ⟨position, member⟩) targets fired
  · rw [quiet, invoked, removed]
    exact (Mailbox.deliveredTo_append _ _ _).trans (List.append_nil _)

/-- A service with a session, a timer and a message is released, and its name
registered again. -/
theorem release_isolates_renamed :
    ∃ machine released final,
      Reaches Unrestricted 0
        [.registerService [97], .registerService [98], .call 2 1 [],
          .scheduleTimeout 1 0 1 []] machine ∧
      machine.step (.releaseService 1) = .ok released ∧
      Transition.Execution (Transition.returning step) Unrestricted released
        [.registerService [97], .pumpTimers 1000000, .dispatchBatch 1 false]
        final ∧
      machine.system.SparesOthers 1 released.system ∧
      final.system.Forgets 1 ∧
      final.system.findServiceHandle [97] = some 3 ∧
      (∀ payloadText, (final.system.respond 1 1 payloadText).1 = false) ∧
      final.invoked 1 = machine.invoked 1 := by
  have ran : ∃ machine released final, Transition.runSteps step (new 0)
        [.registerService [97], .registerService [98], .call 2 1 [],
          .scheduleTimeout 1 0 1 []] = .ok machine ∧
      machine.dispatching = [] ∧
      (machine.system.releaseService 1).1 = true ∧
      machine.system.sessionManager.entries.lookup 1 =
        some { callerHandle := 2, calleeHandle := 1 } ∧
      machine.step (.releaseService 1) = .ok released ∧
      Transition.runSteps step released
        [.registerService [97], .pumpTimers 1000000,
          .dispatchBatch 1 false] = .ok final ∧
      final.system.findServiceHandle [97] = some 3 :=
    ⟨_, _, _, rfl, rfl, rfl, rfl, rfl, rfl, rfl⟩
  obtain ⟨machine, released, final, ran, nobody, returned, pending, stepped,
    went, renamed⟩ := ran
  have reached : Reaches Unrestricted 0
      [.registerService [97], .registerService [98], .call 2 1 [],
        .scheduleTimeout 1 0 1 []] machine :=
    Transition.Execution.ofRunSteps ran fun _ _ _ => trivial
  have followed : Transition.Execution (Transition.returning step)
      Unrestricted released
      [.registerService [97], .pumpTimers 1000000, .dispatchBatch 1 false]
      final :=
    Transition.Execution.ofRunSteps went fun _ _ _ => trivial
  have idle : 1 ∉ machine.dispatching := by
    rw [nobody]
    exact List.not_mem_nil
  obtain ⟨spares, forgets, _, unanswered, _, _, quiet⟩ :=
    release_isolates reached returned idle stepped followed (by decide)
  exact ⟨machine, released, final, reached, stepped, followed, spares,
    forgets, renamed,
    unanswered 1 _ pending rfl (Or.inl (by decide)) 1, quiet⟩

section Reissue

variable {first depth : Nat} {sessionId : SessionId}

/-- A service that is alone, has no messages, and no session is open. -/
structure Resting (machine : Machine) (handle : ServiceHandle) (first : Nat) :
    Prop where
  holding : machine.Holding handle 0
  counter : machine.system.sessionManager.nextSessionId = UInt64.ofNat first
  closed : ∀ sessionId,
    machine.system.sessionManager.entries.lookup sessionId = none

/-- A service that calls itself opens a session. -/
theorem Holding.callSelf (holding : machine.Holding handle depth)
    {sessions : SessionManager}
    (begun : machine.system.sessionManager.beginSession handle handle =
      some (sessionId, sessions)) :
    ∃ next, machine.step (.call handle handle []) = .ok next ∧
      next.Holding handle (depth + 1) ∧
      next.system.sessionManager = sessions := by
  obtain ⟨_, service, found, _⟩ := holding.alone.holds
  have registered : ¬(handle ∉ machine.system.services ∨
      handle ∉ machine.system.services) := by
    rw [or_self, not_not]
    exact AssociationMap.mem_of_lookup found
  have opened : ActorSystem.Alone
      { machine.system with sessionManager := sessions } handle depth :=
    ⟨holding.alone.holds, holding.alone.ready, holding.alone.flying⟩
  let request := Message.fromText .request handle handle sessionId []
  let sent := { machine.system with sessionManager := sessions }.send request
  have target : request.targetHandle = handle := rfl
  refine ⟨machine.setSystem sent.2, ?_,
    ⟨holding.stack, (opened.send target).2⟩,
    (ActorSystem.send_keeps _ _).sessionManager⟩
  simp only [step, ActorSystem.call, if_neg registered, begun, returning]
  rfl

/-- When it answers itself, the session is closed. -/
theorem Holding.respondSelf (holding : machine.Holding handle depth)
    (pending : machine.system.sessionManager.entries.lookup sessionId =
      some { callerHandle := handle, calleeHandle := handle }) :
    ∃ next, machine.step (.respond handle sessionId []) = .ok next ∧
      next.Holding handle (depth + 1) ∧
      next.system.sessionManager =
        { machine.system.sessionManager with
          entries :=
            machine.system.sessionManager.entries.erase sessionId } := by
  have requester := SessionManager.lookupRequester_some_iff.mpr pending
  let response := Message.fromText .response handle handle sessionId []
  have target : response.targetHandle = handle := rfl
  obtain ⟨sent, alone⟩ := holding.alone.send target
  have kept := (machine.system.send_keeps response).sessionManager
  have completed := SessionManager.complete_of_pending requester
  refine ⟨machine.setSystem
    { (machine.system.send response).2 with
      sessionManager := (machine.system.sessionManager.complete sessionId
        handle).2 }, ?_, ⟨holding.stack, alone.holds, alone.ready,
          alone.flying⟩, ?_⟩
  · simp only [step, ActorSystem.respond, requester]
    rw [if_neg (by rw [sent]; exact Bool.noConfusion), ← kept]
  · rw [setSystem, completed]

/-- A service calls itself, answers, and handles both messages. -/
def soliloquy (handle : ServiceHandle) (first : Nat) : List Action :=
  [.call handle handle [], .respond handle (UInt64.ofNat first) [],
    .dispatchOnce, .returns, .dispatchOnce, .returns]

/-- That leaves nothing behind but the number of the session. -/
theorem Resting.soliloquy (resting : machine.Resting handle first)
    (some : 0 < first) (below : first < 2 ^ 64) :
    ∃ next,
      Transition.runSteps step machine (soliloquy handle first) = .ok next ∧
      next.Resting handle (first + 1) := by
  have value : (UInt64.ofNat first).toNat = first :=
    UInt64.toNat_ofNat_of_lt' below
  have nonzero : UInt64.ofNat first ≠ 0 := by
    intro zero
    rw [zero, UInt64.toNat_zero] at value
    omega
  have unused : ∀ other, machine.system.sessionManager.contains other =
      false := by
    intro other
    by_contra taken
    obtain ⟨entry, found⟩ := SessionManager.pending_of_contains
      (Bool.not_eq_false _ ▸ taken)
    rw [resting.closed] at found
    cases found
  have search := ModularCounter.firstFree_of_free nonzero (unused _)
  rw [← resting.counter] at search
  obtain ⟨sessions, begun⟩ :=
    SessionManager.beginSession_of_search handle handle search
  obtain ⟨_, _, counter, entries⟩ := SessionManager.beginSession_some begun
  obtain ⟨called, call, waiting, opened⟩ := resting.holding.callSelf begun
  have pending : called.system.sessionManager.entries.lookup
      (UInt64.ofNat first) =
        .some { callerHandle := handle, calleeHandle := handle } := by
    rw [opened, entries, resting.counter, AssociationMap.lookup_insert_eq,
      if_pos rfl]
  obtain ⟨responded, respond, waits, closed⟩ := waiting.respondSelf pending
  obtain ⟨next, handled, rests, kept⟩ := waits.turns
  refine ⟨next, ?_, rests, ?_, ?_⟩
  · simp only [Machine.soliloquy, Transition.runSteps, call, respond]
    exact handled
  · rw [kept.sessionManager, closed, opened, counter, resting.counter]
    exact (UInt64.ofNat_add first 1).symm
  · intro other
    rw [kept.sessionManager, closed, opened, entries,
      AssociationMap.lookup_erase_eq, AssociationMap.lookup_insert_eq,
      resting.counter]
    split
    · rfl
    · exact resting.closed other

private theorem Resting.soliloquies (count : Nat)
    (resting : machine.Resting handle first) (some : 0 < first)
    (below : first + count ≤ 2 ^ 64) :
    ∃ next, Transition.runSteps step machine
        ((List.range' first count).flatMap (Machine.soliloquy handle)) =
          .ok next ∧
      next.Resting handle (first + count) := by
  induction count generalizing machine first with
  | zero => exact ⟨machine, rfl, resting⟩
  | succ count induction =>
      obtain ⟨middle, once, later⟩ := resting.soliloquy some (by omega)
      obtain ⟨next, ran, reached⟩ := induction later (by omega) (by omega)
      refine ⟨next, ?_, ?_⟩
      · rw [List.range'_succ, List.flatMap_cons,
          Transition.runSteps_append once]
        exact ran
      · rw [Nat.add_right_comm] at reached
        exact reached

/-- Then the identifier one is given out again. -/
theorem Resting.wraps (resting : machine.Resting handle (2 ^ 64)) :
    ∃ next, machine.step (.call handle handle []) = .ok next ∧
      next.Holding handle 1 ∧
      next.system.sessionManager.entries.lookup 1 =
        some { callerHandle := handle, calleeHandle := handle } := by
  have zero : machine.system.sessionManager.nextSessionId = 0 :=
    resting.counter
  have unused : machine.system.sessionManager.contains 1 = false := by
    by_contra taken
    obtain ⟨entry, found⟩ := SessionManager.pending_of_contains
      (Bool.not_eq_false _ ▸ taken)
    rw [resting.closed] at found
    cases found
  have search := ModularCounter.firstFree_zero unused
  rw [← zero] at search
  obtain ⟨sessions, begun⟩ :=
    SessionManager.beginSession_of_search handle handle search
  obtain ⟨_, _, _, entries⟩ := SessionManager.beginSession_some begun
  obtain ⟨next, stepped, holding, same⟩ := resting.holding.callSelf begun
  refine ⟨next, stepped, holding, ?_⟩
  rw [same, entries]
  exact (AssociationMap.lookup_insert_eq _ _ _ _).trans (if_pos rfl)

/-- Service 2 takes the entry of the released service out of the ready queue and
then talks to itself until the identifiers come around. -/
def reissuing : List Action :=
  .dispatchOnce :: ((List.range' 2 (2 ^ 64 - 2)).flatMap (soliloquy 2) ++
    [.call 2 2 []])

private theorem registrations_reissuing : registrations reissuing = 0 := by
  apply List.countP_eq_zero.mpr
  intro action member
  rcases List.mem_cons.mp member with rfl | member
  · exact Bool.false_ne_true
  · rcases List.mem_append.mp member with talk | last
    · obtain ⟨first, _, said⟩ := List.mem_flatMap.mp talk
      simp only [soliloquy, List.mem_cons, List.not_mem_nil, or_false] at said
      rcases said with rfl | rfl | rfl | rfl | rfl | rfl
      all_goals exact Bool.false_ne_true
    · rw [List.mem_singleton.mp last]
      exact Bool.false_ne_true

/-- After 2^64 calls the identifier of a session that was cancelled by a
release is given out again, and `respond` answers it.  No more than one session
is ever open. -/
theorem session_reissued :
    ∃ machine released final,
      Reaches Unrestricted 0
        [.registerService [97], .registerService [98], .call 2 1 []] machine ∧
      (machine.system.releaseService 1).1 = true ∧
      1 ∉ machine.dispatching ∧
      machine.step (.releaseService 1) = .ok released ∧
      Transition.Execution (Transition.returning step) Unrestricted released
        reissuing final ∧
      registrations
          ([.registerService [97], .registerService [98], .call 2 1 []] ++
            .releaseService 1 :: reissuing) < 2 ^ 64 ∧
      machine.system.sessionManager.entries.lookup 1 =
        some { callerHandle := 2, calleeHandle := 1 } ∧
      (final.system.respond 2 1 []).1 = true := by
  have ran : ∃ machine released started, Transition.runSteps step (new 0)
        [.registerService [97], .registerService [98], .call 2 1 []] =
          .ok machine ∧
      (machine.system.releaseService 1).1 = true ∧
      machine.dispatching = [] ∧
      machine.step (.releaseService 1) = .ok released ∧
      machine.system.sessionManager.entries.lookup 1 =
        some { callerHandle := 2, calleeHandle := 1 } ∧
      released.step .dispatchOnce = .ok started ∧
      started.Holding 2 0 ∧
      started.system.sessionManager.nextSessionId = UInt64.ofNat 2 ∧
      started.system.sessionManager.entries.keys = [] :=
    ⟨_, _, _, rfl, rfl, rfl, rfl, rfl, rfl,
      ⟨rfl, ⟨⟨by decide, _, rfl, rfl, rfl, rfl⟩, rfl, rfl⟩⟩, rfl, rfl⟩
  obtain ⟨machine, released, started, ran, returned, idle, stepped, pending,
    skipped, holding, counter, empty⟩ := ran
  have reached : Reaches Unrestricted 0
      [.registerService [97], .registerService [98], .call 2 1 []] machine :=
    Transition.Execution.ofRunSteps ran fun _ _ _ => trivial
  have resting : started.Resting 2 2 := by
    refine ⟨holding, counter, ?_⟩
    intro sessionId
    apply AssociationMap.lookup_none_iff.mpr
    intro known
    rw [AList.mem_keys, empty] at known
    cases known
  obtain ⟨middle, talked, full⟩ :=
    resting.soliloquies (2 ^ 64 - 2) (by decide) (by decide)
  obtain ⟨final, again, waits, reissued⟩ := full.wraps
  have followed : Transition.Execution (Transition.returning step) Unrestricted
      released reissuing final := by
    have first : Transition.Execution (Transition.returning step) Unrestricted
        released [.dispatchOnce] started := .single trivial skipped
    have many : Transition.Execution (Transition.returning step) Unrestricted
        started ((List.range' 2 (2 ^ 64 - 2)).flatMap (soliloquy 2)) middle :=
      Transition.Execution.ofRunSteps talked fun _ _ _ => trivial
    exact first.trans (Transition.Execution.snoc many trivial again)
  have integral := reaches_integral (Transition.Execution.trans
    (Transition.Execution.snoc reached trivial stepped) followed)
  refine ⟨machine, released, final, reached, returned, ?_, stepped, followed,
    ?_, pending, ?_⟩
  · rw [idle]
    exact List.not_mem_nil
  · rw [registrations_release, registrations_reissuing]
    decide
  · rcases integral.respond_spec 2 1 [] with
      ⟨_, _, _, sent, _⟩ | ⟨unanswerable, _⟩
    · exact sent
    · obtain ⟨_, service, found, running, _⟩ := waits.alone.holds
      exact absurd ⟨service, found, beq_iff_eq.mp running⟩
        (unanswerable 2 reissued)

end Reissue

end Machine

end Crynet
