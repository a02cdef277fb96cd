import Crynet.Actor.Message
import Crynet.Foundation.AssociationMap
import Crynet.Foundation.ModularCounter

/-!
# Pending sessions

A session is opened by a call, closed by the matching response, and cancelled
when either of its two services is released.
-/

namespace Crynet

structure SessionEntry where
  callerHandle : ServiceHandle := 0
  calleeHandle : ServiceHandle := 0
  deriving DecidableEq, Repr

/-- Whether a session involves a service as caller or callee. -/
def SessionEntry.involves (entry : SessionEntry) (handle : ServiceHandle) :
    Bool :=
  entry.callerHandle == handle || entry.calleeHandle == handle

structure SessionManager where
  nextSessionId : SessionId := 1
  entries : AList (fun _ : SessionId => SessionEntry) := ∅

namespace SessionManager

def contains (sessions : SessionManager) (sessionId : SessionId) : Bool :=
  decide (sessionId ∈ sessions.entries)

/-- `SessionManager::begin`; no value when the skipping loop never ends. -/
def beginSession (sessions : SessionManager)
    (callerHandle calleeHandle : ServiceHandle) :
    Option (SessionId × SessionManager) :=
  match ModularCounter.firstFree sessions.contains sessions.nextSessionId with
  | none => none
  | some sessionId =>
      some (sessionId,
        { nextSessionId := sessionId + 1
          entries := AssociationMap.emplace sessions.entries sessionId
            { callerHandle := callerHandle, calleeHandle := calleeHandle } })

def lookupRequester (sessions : SessionManager) (sessionId : SessionId)
    (responderHandle : ServiceHandle) : Option ServiceHandle :=
  match sessions.entries.lookup sessionId with
  | none => none
  | some entry =>
      if entry.calleeHandle ≠ responderHandle then none
      else some entry.callerHandle

def complete (sessions : SessionManager) (sessionId : SessionId)
    (responderHandle : ServiceHandle) : Bool × SessionManager :=
  match sessions.entries.lookup sessionId with
  | none => (false, sessions)
  | some entry =>
      if entry.calleeHandle ≠ responderHandle then (false, sessions)
      else (true, { sessions with entries := sessions.entries.erase sessionId })

def size (sessions : SessionManager) : Nat :=
  sessions.entries.entries.length

/-- Identifiers of the pending sessions that involve a service. -/
def involving (sessions : SessionManager) (handle : ServiceHandle) :
    List SessionId :=
  (sessions.entries.entries.filter fun entry =>
    entry.2.involves handle).map Sigma.fst

def cancelForHandle (sessions : SessionManager) (handle : ServiceHandle) :
    Nat × SessionManager :=
  ((sessions.involving handle).length,
    { sessions with
      entries := (sessions.involving handle).foldl
        (fun remaining sessionId => remaining.erase sessionId)
        sessions.entries })

variable {sessions next : SessionManager}
variable {callerHandle calleeHandle responderHandle : ServiceHandle}
variable {sessionId : SessionId}

/-- A new session takes an identifier that no pending session has. -/
theorem beginSession_some
    (begun : sessions.beginSession callerHandle calleeHandle =
      some (sessionId, next)) :
    sessionId ≠ 0 ∧ sessions.entries.lookup sessionId = none ∧
      next.nextSessionId = sessionId + 1 ∧
      next.entries = sessions.entries.insert sessionId
        { callerHandle := callerHandle, calleeHandle := calleeHandle } := by
  unfold beginSession at begun
  cases search : ModularCounter.firstFree sessions.contains
      sessions.nextSessionId with
  | none => simp [search] at begun
  | some found =>
      simp only [search, Option.some.injEq, Prod.mk.injEq] at begun
      obtain ⟨rfl, rfl⟩ := begun
      obtain ⟨nonzero, free⟩ := ModularCounter.firstFree_some search
      have fresh : found ∉ sessions.entries := by
        simpa [contains] using free
      exact ⟨nonzero, AssociationMap.lookup_none_iff.mpr fresh, rfl,
        AssociationMap.emplace_of_notMem fresh _⟩

theorem beginSession_of_search
    (callerHandle calleeHandle : ServiceHandle)
    (search : ModularCounter.firstFree sessions.contains
      sessions.nextSessionId = some sessionId) :
    ∃ next, sessions.beginSession callerHandle calleeHandle =
      some (sessionId, next) := by
  simp only [beginSession, search]
  exact ⟨_, rfl⟩

theorem pending_of_contains (taken : sessions.contains sessionId = true) :
    ∃ entry, sessions.entries.lookup sessionId = some entry := by
  apply Option.isSome_iff_exists.mp
  rw [AList.lookup_isSome]
  simpa [contains] using taken

theorem lookupRequester_some_iff {requesterHandle : ServiceHandle} :
    sessions.lookupRequester sessionId responderHandle =
        some requesterHandle ↔
      sessions.entries.lookup sessionId =
        some
          { callerHandle := requesterHandle
            calleeHandle := responderHandle } := by
  unfold lookupRequester
  cases found : sessions.entries.lookup sessionId with
  | none => simp
  | some entry =>
      obtain ⟨caller, callee⟩ := entry
      by_cases same : callee = responderHandle
      · simp [same]
      · simp [same]

/-- Only the callee of a pending session closes it. -/
theorem complete_of_pending {requesterHandle : ServiceHandle}
    (pending : sessions.lookupRequester sessionId responderHandle =
      some requesterHandle) :
    sessions.complete sessionId responderHandle =
      (true, { sessions with entries := sessions.entries.erase sessionId }) := by
  have found := lookupRequester_some_iff.mp pending
  simp [complete, found]

private theorem mem_involving {handle : ServiceHandle} :
    sessionId ∈ sessions.involving handle ↔
      ∃ entry, sessions.entries.lookup sessionId = some entry ∧
        entry.involves handle = true := by
  simp only [involving, List.mem_map, List.mem_filter]
  constructor
  · rintro ⟨⟨other, entry⟩, ⟨member, involved⟩, same⟩
    subst same
    exact ⟨entry, AssociationMap.mem_entries_iff.mp member, involved⟩
  · rintro ⟨entry, found, involved⟩
    exact ⟨⟨sessionId, entry⟩,
      ⟨AssociationMap.mem_entries_iff.mpr found, involved⟩, rfl⟩

/-- Cancelling for a service removes its sessions and no others. -/
theorem lookup_cancelForHandle (handle : ServiceHandle)
    (entry : SessionEntry) :
    (sessions.cancelForHandle handle).2.entries.lookup sessionId =
        some entry ↔
      sessions.entries.lookup sessionId = some entry ∧
        entry.involves handle = false := by
  simp only [cancelForHandle, AssociationMap.lookup_foldl_erase,
    mem_involving]
  cases found : sessions.entries.lookup sessionId with
  | none => simp
  | some other =>
      by_cases involved : other.involves handle = true
      · simp only [Option.some.injEq, exists_eq_left', involved, if_true]
        constructor
        · intro absurdity
          cases absurdity
        · rintro ⟨same, free⟩
          rw [← same, involved] at free
          cases free
      · simp only [Option.some.injEq, exists_eq_left', involved]
        constructor
        · intro same
          cases same
          exact ⟨rfl, Bool.eq_false_iff.mpr involved⟩
        · rintro ⟨same, _⟩
          rw [same]
          rfl

theorem involves_iff {entry : SessionEntry} {handle : ServiceHandle} :
    entry.involves handle = true ↔
      entry.callerHandle = handle ∨ entry.calleeHandle = handle := by
  simp [SessionEntry.involves]

end SessionManager

end Crynet
