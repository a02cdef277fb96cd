import Crynet.Actor.Calls

/-!
# At most one response to a call

Identifiers of sessions are given out one after the other, so while their
64-bit counter has not come around a session that was answered or cancelled
never comes back.  What a run says about sessions is observed step by step: the
identifiers `call` returns and the responses `respond` sends.
-/

namespace Crynet

/-- How often `call` is called. -/
def calls (actions : List Action) : Nat :=
  actions.countP fun action =>
    match action with
    | .call _ _ _ => true
    | _ => false

/-- A session given out by `call`, or a response sent by `respond`. -/
inductive SessionEvent where
  | called (sessionId : SessionId) (callerHandle calleeHandle : ServiceHandle)
  | answered (response : Message)
  deriving DecidableEq, Repr

/-- The event is a response in the session. -/
def SessionEvent.answers (sessionId : SessionId) : SessionEvent → Bool
  | .called _ _ _ => false
  | .answered response => response.sessionId == sessionId

namespace SessionManager

/-- No session is opened. -/
structure Shrinks (sessions next : SessionManager) : Prop where
  counter : next.nextSessionId = sessions.nextSessionId
  kept : ∀ sessionId entry, next.entries.lookup sessionId = some entry →
    sessions.entries.lookup sessionId = some entry

variable {sessions next final : SessionManager}

theorem Shrinks.of_eq (same : next = sessions) : sessions.Shrinks next := by
  rw [same]
  exact ⟨rfl, fun _ _ found => found⟩

theorem Shrinks.trans (first : sessions.Shrinks next)
    (second : next.Shrinks final) : sessions.Shrinks final :=
  ⟨second.counter.trans first.counter, fun sessionId entry found =>
    first.kept sessionId entry (second.kept sessionId entry found)⟩

private theorem cancelForHandle_shrinks (sessions : SessionManager)
    (handle : ServiceHandle) :
    sessions.Shrinks (sessions.cancelForHandle handle).2 :=
  ⟨rfl, fun _ entry found =>
    ((lookup_cancelForHandle handle entry).mp found).1⟩

private theorem erase_shrinks (sessions : SessionManager) (sessionId : SessionId) :
    sessions.Shrinks
      { sessions with entries := sessions.entries.erase sessionId } := by
  refine ⟨rfl, ?_⟩
  intro other entry found
  simp only [AssociationMap.lookup_erase_eq] at found
  split at found
  · cases found
  · exact found

/-- The sessions given out so far, those still pending, and the responses. -/
structure Ticketed (sessions : SessionManager) (count : Nat)
    (events : List SessionEvent) : Prop where
  counter : sessions.nextSessionId = UInt64.ofNat (count + 1)
  pending : ∀ sessionId entry,
    sessions.entries.lookup sessionId = some entry →
      sessionId.toNat ≤ count ∧
        (∀ event ∈ events, event.answers sessionId = false) ∧
        ∀ callerHandle calleeHandle,
          .called sessionId callerHandle calleeHandle ∈ events →
            entry =
              { callerHandle := callerHandle, calleeHandle := calleeHandle }
  called : ∀ sessionId callerHandle calleeHandle,
    .called sessionId callerHandle calleeHandle ∈ events →
      sessionId.toNat ≤ count
  answered : ∀ response, .answered response ∈ events →
    response.sessionId.toNat ≤ count
  once : ∀ sessionId, events.countP (SessionEvent.answers sessionId) ≤ 1
  matching : ∀ response callerHandle calleeHandle,
    .answered response ∈ events →
      .called response.sessionId callerHandle calleeHandle ∈ events →
        response.sourceHandle = calleeHandle ∧
          response.targetHandle = callerHandle

namespace Ticketed

variable {count : Nat} {events : List SessionEvent}

theorem initially : Ticketed {} 0 [] where
  counter := rfl
  pending := by
    intro sessionId entry found
    cases found
  called := by
    intro sessionId callerHandle calleeHandle member
    cases member
  answered := by
    intro response member
    cases member
  once := by
    intro sessionId
    exact Nat.zero_le 1
  matching := by
    intro response callerHandle calleeHandle member
    cases member

theorem shrinks (ticketed : sessions.Ticketed count events)
    (shrinks : sessions.Shrinks next) : next.Ticketed count events :=
  ⟨shrinks.counter.trans ticketed.counter,
    fun sessionId entry found =>
      ticketed.pending sessionId entry (shrinks.kept sessionId entry found),
    ticketed.called, ticketed.answered, ticketed.once, ticketed.matching⟩

/-- Until the counter comes around, the next session is the next number. -/
theorem begun_value (ticketed : sessions.Ticketed count events)
    (few : count + 1 < 2 ^ 64) {callerHandle calleeHandle : ServiceHandle}
    {sessionId : SessionId}
    (begun : sessions.beginSession callerHandle calleeHandle =
      some (sessionId, next)) : sessionId = UInt64.ofNat (count + 1) := by
  have search : ModularCounter.firstFree sessions.contains
      sessions.nextSessionId = some (UInt64.ofNat (count + 1)) := by
    rw [ticketed.counter]
    apply ModularCounter.firstFree_numbered few
    intro value taken
    have member : value ∈ sessions.entries := by
      simpa [contains] using taken
    obtain ⟨entry, found⟩ :=
      Option.isSome_iff_exists.mp (AList.lookup_isSome.mpr member)
    exact (ticketed.pending value entry found).1
  simp only [beginSession, search, Option.some.injEq, Prod.mk.injEq] at begun
  exact begun.1.symm

/-- A session is opened; the call returns its identifier, or fails. -/
theorem begun (ticketed : sessions.Ticketed count events)
    (few : count + 1 < 2 ^ 64) {callerHandle calleeHandle : ServiceHandle}
    {sessionId : SessionId}
    (begun : sessions.beginSession callerHandle calleeHandle =
      some (sessionId, next)) (result : List SessionEvent)
    (reported : result = [] ∨
      result = [.called sessionId callerHandle calleeHandle]) :
    next.Ticketed (count + 1) (events ++ result) := by
  have same := ticketed.begun_value few begun
  have value : sessionId.toNat = count + 1 := by
    rw [same]
    exact UInt64.toNat_ofNat_of_lt' few
  obtain ⟨_, _, counter, entries⟩ := beginSession_some begun
  have reports : ∀ event ∈ result,
      event = .called sessionId callerHandle calleeHandle := by
    intro event member
    rcases reported with none | one
    · rw [none] at member
      cases member
    · rw [one] at member
      exact List.mem_singleton.mp member
  have silent : ∀ other, result.countP (SessionEvent.answers other) = 0 := by
    intro other
    apply List.countP_eq_zero.mpr
    intro event member answers
    rw [reports event member] at answers
    cases answers
  refine ⟨?_, ?_, ?_, ?_, ?_, ?_⟩
  · rw [counter, same]
    exact (UInt64.ofNat_add (count + 1) 1).symm
  · intro other entry found
    rw [entries, AssociationMap.lookup_insert_eq] at found
    split at found
    · rename_i opened
      subst opened
      cases found
      refine ⟨value.le, ?_, ?_⟩
      · intro event member
        rcases List.mem_append.mp member with old | new
        · cases event with
          | called _ _ _ => rfl
          | answered response =>
              have bound := ticketed.answered response old
              by_contra answers
              have equal := eq_of_beq (Bool.not_eq_false _ ▸ answers)
              rw [equal] at bound
              omega
        · rw [reports event new]
          rfl
      · intro caller callee member
        rcases List.mem_append.mp member with old | new
        · have bound := ticketed.called other caller callee old
          omega
        · cases reports _ new
          rfl
    · rename_i different
      obtain ⟨bound, unanswered, agrees⟩ := ticketed.pending other entry found
      refine ⟨Nat.le_succ_of_le bound, ?_, ?_⟩
      · intro event member
        rcases List.mem_append.mp member with old | new
        · exact unanswered event old
        · rw [reports event new]
          rfl
      · intro caller callee member
        rcases List.mem_append.mp member with old | new
        · exact agrees caller callee old
        · cases reports _ new
          exact absurd rfl different
  · intro other caller callee member
    rcases List.mem_append.mp member with old | new
    · exact Nat.le_succ_of_le (ticketed.called other caller callee old)
    · cases reports _ new
      exact value.le
  · intro response member
    rcases List.mem_append.mp member with old | new
    · exact Nat.le_succ_of_le (ticketed.answered response old)
    · cases reports _ new
  · intro other
    rw [List.countP_append, silent]
    exact ticketed.once other
  · intro response caller callee answered member
    rcases List.mem_append.mp answered with oldAnswer | newAnswer
    · rcases List.mem_append.mp member with old | new
      · exact ticketed.matching response caller callee oldAnswer old
      · have bound := ticketed.answered response oldAnswer
        cases reports _ new
        omega
    · cases reports _ newAnswer

/-- A pending session is answered and closed. -/
theorem responded (ticketed : sessions.Ticketed count events)
    (response : Message)
    (pending : sessions.entries.lookup response.sessionId =
      some
        { callerHandle := response.targetHandle
          calleeHandle := response.sourceHandle }) :
    Ticketed
      { sessions with entries := sessions.entries.erase response.sessionId }
      count (events ++ [.answered response]) := by
  obtain ⟨bound, unanswered, agrees⟩ := ticketed.pending _ _ pending
  have reports : ∀ {event : SessionEvent}, event ∈ [.answered response] →
      event = .answered response := List.mem_singleton.mp
  refine ⟨ticketed.counter, ?_, ?_, ?_, ?_, ?_⟩
  · intro other entry found
    simp only [AssociationMap.lookup_erase_eq] at found
    split at found
    · cases found
    · rename_i different
      obtain ⟨otherBound, otherUnanswered, otherAgrees⟩ :=
        ticketed.pending other entry found
      refine ⟨otherBound, ?_, ?_⟩
      · intro event member
        rcases List.mem_append.mp member with old | new
        · exact otherUnanswered event old
        · rw [reports new]
          exact beq_eq_false_iff_ne.mpr fun same => different same.symm
      · intro caller callee member
        rcases List.mem_append.mp member with old | new
        · exact otherAgrees caller callee old
        · cases reports new
  · intro other caller callee member
    rcases List.mem_append.mp member with old | new
    · exact ticketed.called other caller callee old
    · cases reports new
  · intro other member
    rcases List.mem_append.mp member with old | new
    · exact ticketed.answered other old
    · cases reports new
      exact bound
  · intro other
    rw [List.countP_append, List.countP_singleton]
    by_cases same : response.sessionId = other
    · have none : events.countP (SessionEvent.answers other) = 0 := by
        apply List.countP_eq_zero.mpr
        intro event member answers
        rw [← same, unanswered event member] at answers
        cases answers
      rw [none]
      split
      · exact Nat.le_refl 1
      · exact Nat.zero_le 1
    · have silent : SessionEvent.answers other (.answered response) = false :=
        beq_eq_false_iff_ne.mpr same
      rw [silent]
      exact ticketed.once other
  · intro other caller callee answered member
    rcases List.mem_append.mp member with old | new
    · rcases List.mem_append.mp answered with oldAnswer | newAnswer
      · exact ticketed.matching other caller callee oldAnswer old
      · cases reports newAnswer
        have agreed := agrees caller callee old
        exact ⟨congrArg SessionEntry.calleeHandle agreed,
          congrArg SessionEntry.callerHandle agreed⟩
    · cases reports new

end Ticketed

end SessionManager

namespace Machine

variable {machine next : Machine}
variable {now : TimePoint} {actions : List Action}

/-- What an action says about sessions. -/
def sessionEvents (machine : Machine) : Action → List SessionEvent
  | .call sourceHandle targetHandle payloadText =>
      match machine.system.call sourceHandle targetHandle payloadText with
      | some (some sessionId, _) =>
          [.called sessionId sourceHandle targetHandle]
      | _ => []
  | .respond sourceHandle sessionId payloadText =>
      match machine.system.sessionManager.lookupRequester sessionId
          sourceHandle with
      | none => []
      | some requesterHandle =>
          if (machine.system.respond sourceHandle sessionId payloadText).1 then
            [.answered (Message.fromText .response sourceHandle
              requesterHandle sessionId payloadText)]
          else
            []
  | _ => []

theorem release_shrinks (system : ActorSystem) (handle : ServiceHandle) :
    system.sessionManager.Shrinks
      (system.releaseService handle).2.sessionManager := by
  rcases system.releaseService_cases handle with
    ⟨_, shape⟩ | ⟨_, _, shape⟩
  · rw [shape]
    exact .of_eq rfl
  · rw [shape]
    exact SessionManager.cancelForHandle_shrinks _ handle

private theorem sessions_threads : ActorSystem.Threads fun system next =>
    system.sessionManager.Shrinks next.sessionManager where
  refl := fun _ => .of_eq rfl
  trans := .trans

private theorem respond_shrinks (machine : Machine) (sourceHandle : ServiceHandle)
    (sessionId : SessionId) (payloadText : Text) :
    machine.system.sessionManager.Shrinks
      (machine.system.respond sourceHandle sessionId
        payloadText).2.sessionManager := by
  rcases machine.system.respond_cases sourceHandle sessionId payloadText with
    ⟨_, shape⟩ | ⟨requesterHandle, _, ⟨_, shape⟩ | ⟨_, shape⟩⟩
  · rw [shape]
    exact .of_eq rfl
  · rw [shape]
    exact .of_eq (machine.system.send_keeps _).sessionManager
  · rw [shape]
    exact SessionManager.erase_shrinks _ sessionId

/-- Only a call opens a session. -/
theorem step_shrinks {action : Action} (uncalled : calls [action] = 0)
    (stepped : machine.step action = .ok next) :
    machine.system.sessionManager.Shrinks next.system.sessionManager := by
  by_cases confined : action.Confined
  · exact .of_eq (step_keeps confined stepped).sessionManager
  · cases action with
    | registerService serviceName =>
        obtain ⟨_, _, performed, shape⟩ := returning_cases stepped
        subst shape
        obtain ⟨_, _, _, ⟨_, same⟩ | ⟨_, _, _, same⟩⟩ :=
          ActorSystem.registerService_cases performed
        · rw [same]
          exact .of_eq rfl
        · rw [same]
          exact .of_eq rfl
    | releaseService handle =>
        simp only [step, Except.ok.injEq] at stepped
        subst stepped
        exact release_shrinks machine.system handle
    | shutdown =>
        simp only [step, Except.ok.injEq] at stepped
        subst stepped
        exact sessions_threads.releaseEach release_shrinks _ machine
    | call sourceHandle targetHandle payloadText =>
        exact absurd uncalled Nat.one_ne_zero
    | respond sourceHandle sessionId payloadText =>
        simp only [step, Except.ok.injEq] at stepped
        subst stepped
        exact machine.respond_shrinks sourceHandle sessionId payloadText
    | scheduleTimeout targetHandle sessionId delay payloadText =>
        simp only [step, Except.ok.injEq] at stepped
        subst stepped
        exact .of_eq rfl
    | cancelTimeout timerId =>
        simp only [step, Except.ok.injEq] at stepped
        subst stepped
        exact .of_eq rfl
    | pumpTimers now =>
        obtain ⟨_, _, pumped, shape⟩ := returning_cases stepped
        subst shape
        exact .of_eq (ActorSystem.pumpTimers_frame pumped).2.1
    | _ => exact absurd trivial confined

theorem calls_snoc (actions : List Action) (action : Action) :
    calls (actions ++ [action]) = calls actions + calls [action] :=
  List.countP_append

/-- A step opens at most one session, and only by a call. -/
theorem step_ticketed {count : Nat} {events : List SessionEvent}
    (ticketed : machine.system.sessionManager.Ticketed count events)
    {action : Action} (few : count + calls [action] < 2 ^ 64)
    (stepped : machine.step action = .ok next) :
    ∃ opened ≤ calls [action],
      next.system.sessionManager.Ticketed (count + opened)
        (events ++ machine.sessionEvents action) := by
  cases action with
  | call sourceHandle targetHandle payloadText =>
      obtain ⟨result, system, called, shape⟩ := returning_cases stepped
      subst shape
      rcases ActorSystem.call_cases called with
        ⟨_, failed, same⟩ | ⟨_, sessionId, sessions, begun, reported, sent⟩
      · refine ⟨0, Nat.zero_le _, ?_⟩
        subst failed
        have silent : machine.sessionEvents
            (.call sourceHandle targetHandle payloadText) = [] := by
          simp only [sessionEvents, called]
        rw [silent, List.append_nil]
        exact ticketed.shrinks
          (.of_eq (congrArg ActorSystem.sessionManager same))
      · refine ⟨1, Nat.le_refl 1, ?_⟩
        have kept := (ActorSystem.send_keeps
          { machine.system with sessionManager := sessions }
          (Message.fromText .request sourceHandle targetHandle sessionId
            payloadText)).sessionManager
        rw [← sent] at kept
        have opened := ticketed.begun few begun
          (machine.sessionEvents (.call sourceHandle targetHandle payloadText))
        apply (opened _).shrinks (.of_eq kept)
        simp only [sessionEvents, called, reported]
        split
        · rename_i answered
          split at answered
          · cases answered
            exact Or.inr rfl
          · cases answered
        · exact Or.inl rfl
  | respond sourceHandle sessionId payloadText =>
      simp only [step, Except.ok.injEq] at stepped
      subst stepped
      refine ⟨0, Nat.zero_le _, ?_⟩
      rcases machine.system.respond_cases sourceHandle sessionId
          payloadText with
        ⟨unknown, shape⟩ | ⟨requesterHandle, pending,
          ⟨_, shape⟩ | ⟨_, shape⟩⟩
      · simp only [sessionEvents, unknown, List.append_nil, setSystem, shape]
        exact ticketed
      · simp only [sessionEvents, pending, shape, Bool.false_eq_true, if_false,
          List.append_nil, setSystem]
        exact ticketed.shrinks
          (.of_eq (machine.system.send_keeps _).sessionManager)
      · simp only [sessionEvents, pending, shape, if_true, setSystem]
        exact ticketed.responded
          (Message.fromText .response sourceHandle requesterHandle sessionId
            payloadText)
          (SessionManager.lookupRequester_some_iff.mp pending)
  | _ =>
      refine ⟨0, Nat.zero_le _, ?_⟩
      simp only [sessionEvents, List.append_nil]
      exact ticketed.shrinks (step_shrinks rfl stepped)

/-- The run lemma of sessions. -/
theorem reaches_ticketed {permitted : Machine → Action → Prop}
    (reached : Reaches permitted now actions machine)
    (few : calls actions < 2 ^ 64) :
    ∃ count ≤ calls actions,
      machine.system.sessionManager.Ticketed count
        (Transition.observations step sessionEvents (new now) actions) := by
  have all := reached.observed_invariant sessionEvents
    (fun actions events current => calls actions < 2 ^ 64 →
      ∃ count ≤ calls actions,
        current.system.sessionManager.Ticketed count events)
  apply all _ _ few
  · intro _
    exact ⟨0, Nat.le_refl 0, SessionManager.Ticketed.initially⟩
  · intro actions events current action next induction _ stepped few
    rw [calls_snoc] at few ⊢
    obtain ⟨count, bound, ticketed⟩ := induction (by omega)
    obtain ⟨opened, atMost, later⟩ :=
      step_ticketed ticketed (by omega) stepped
    exact ⟨count + opened, by omega, later⟩

/-- `respond` succeeds exactly for the callee of a pending session whose caller
runs, and then sends one response and closes the session.  So with fewer than
2^64 calls each session returned by `call` is answered at most once, by its
callee and to its caller. -/
theorem responses_once (reached : Reaches Unrestricted now actions machine) :
    (∀ sourceHandle sessionId payloadText,
      ((machine.system.respond sourceHandle sessionId payloadText).1 = true ↔
        ∃ requesterHandle,
          machine.system.sessionManager.entries.lookup sessionId =
            some
              { callerHandle := requesterHandle
                calleeHandle := sourceHandle } ∧
          machine.system.Runs requesterHandle) ∧
      ((machine.system.respond sourceHandle sessionId payloadText).1 = true →
        ∃ requesterHandle,
          machine.system.sessionManager.entries.lookup sessionId =
            some
              { callerHandle := requesterHandle
                calleeHandle := sourceHandle } ∧
          machine.system.Appends
            (machine.system.respond sourceHandle sessionId payloadText).2
            (Message.fromText .response sourceHandle requesterHandle sessionId
              payloadText) ∧
          (machine.system.respond sourceHandle sessionId
              payloadText).2.sessionManager.entries =
            machine.system.sessionManager.entries.erase sessionId) ∧
      ((machine.system.respond sourceHandle sessionId payloadText).1 = false →
        machine.system.AtMostDrops
          (machine.system.respond sourceHandle sessionId payloadText).2)) ∧
    (calls actions < 2 ^ 64 → ∀ sessionId callerHandle calleeHandle,
      .called sessionId callerHandle calleeHandle ∈
          Transition.observations step sessionEvents (new now) actions →
        (Transition.observations step sessionEvents (new now)
          actions).countP (SessionEvent.answers sessionId) ≤ 1 ∧
        ∀ response,
          .answered response ∈
              Transition.observations step sessionEvents (new now) actions →
            response.sessionId = sessionId →
              response.sourceHandle = calleeHandle ∧
                response.targetHandle = callerHandle) := by
  constructor
  · intro sourceHandle sessionId payloadText
    rcases (reaches_integral reached).respond_spec sourceHandle sessionId
        payloadText with
      ⟨requesterHandle, found, runs, sent, appended, closed⟩ |
        ⟨unanswerable, refused, drops⟩
    · refine ⟨⟨fun _ => ⟨requesterHandle, found, runs⟩, fun _ => sent⟩,
        fun _ => ⟨requesterHandle, found, appended, closed⟩, ?_⟩
      intro refused
      rw [sent] at refused
      cases refused
    · rw [refused]
      refine ⟨⟨nofun, ?_⟩, nofun, fun _ => drops⟩
      rintro ⟨requesterHandle, found, runs⟩
      exact absurd runs (unanswerable requesterHandle found)
  · intro few sessionId callerHandle calleeHandle called
    obtain ⟨count, _, ticketed⟩ := reaches_ticketed reached few
    refine ⟨ticketed.once sessionId, ?_⟩
    intro response answered same
    subst same
    exact ticketed.matching response callerHandle calleeHandle answered called

/-- A call, a forged response to it, the response, and the response again. -/
theorem responses_once_forged :
    ∃ machine, Reaches Unrestricted 0
        [.registerService [97], .registerService [98], .call 1 2 [],
          .respond 1 1 [], .respond 2 1 [7], .respond 2 1 [7]] machine ∧
      Transition.observations step sessionEvents (new 0)
          [.registerService [97], .registerService [98], .call 1 2 [],
            .respond 1 1 [], .respond 2 1 [7], .respond 2 1 [7]] =
        [.called 1 1 2,
          .answered (Message.fromText .response 2 1 1 [7])] ∧
      ¬∃ requesterHandle,
        machine.system.sessionManager.entries.lookup 1 =
          some { callerHandle := requesterHandle, calleeHandle := 2 } ∧
        machine.system.Runs requesterHandle := by
  have ran : ∃ machine, Transition.runSteps step (new 0)
      [.registerService [97], .registerService [98], .call 1 2 [],
        .respond 1 1 [], .respond 2 1 [7], .respond 2 1 [7]] = .ok machine ∧
      (machine.system.respond 2 1 []).1 = false :=
    ⟨_, rfl, rfl⟩
  obtain ⟨machine, ran, refused⟩ := ran
  have reached : Reaches Unrestricted 0
      [.registerService [97], .registerService [98], .call 1 2 [],
        .respond 1 1 [], .respond 2 1 [7], .respond 2 1 [7]] machine :=
    Transition.Execution.ofRunSteps ran fun _ _ _ => trivial
  refine ⟨machine, reached, rfl, ?_⟩
  rw [← ((responses_once reached).1 2 1 []).1, refused]
  exact Bool.false_ne_true

end Machine

end Crynet
