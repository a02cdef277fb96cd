import Crynet.Actor.HandleRegistry
import Crynet.Actor.SessionManager

/-!
# Identifiers at any position of their counters

The two allocators start from wherever their counter stands, which may be the
zero it wraps to or the middle of a run of occupied values.  As long as one
non-zero value is left, the skipping loop ends, and what it stops at is free;
so registering a handle or opening a session never meets an existing key.
-/

namespace Crynet

namespace HandleRegistry

variable {registry : HandleRegistry}

/-- Some non-zero handle is not registered. -/
def Roomy (registry : HandleRegistry) : Prop :=
  ∃ handle : ServiceHandle, handle ≠ 0 ∧ handle ∉ registry.handleToName

/-- Allocation answers exactly where its loop stops. -/
theorem allocate_some_iff
    {handle : ServiceHandle} {next : HandleRegistry} :
    registry.allocate = some (handle, next) ↔
      ModularCounter.Skips registry.contains registry.nextHandle handle ∧
        next = { registry with nextHandle := handle + 1 } := by
  rw [← ModularCounter.firstFree_some_iff]
  unfold allocate
  cases search : ModularCounter.firstFree registry.contains
      registry.nextHandle with
  | none => simp
  | some found =>
      simp only [Option.some.injEq, Prod.mk.injEq]
      constructor
      · rintro ⟨rfl, rfl⟩
        exact ⟨rfl, rfl⟩
      · rintro ⟨rfl, rfl⟩
        exact ⟨rfl, rfl⟩

private theorem allocate_exists (roomy : registry.Roomy) :
    ∃ handle next, registry.allocate = some (handle, next) := by
  obtain ⟨spare, nonzero, unregistered⟩ := roomy
  have free : registry.contains spare = false := by
    simp [contains, unregistered]
  obtain ⟨handle, search⟩ :=
    ModularCounter.firstFree_exists registry.nextHandle nonzero free
  refine ⟨handle, { registry with nextHandle := handle + 1 }, ?_⟩
  simp only [allocate, search]

end HandleRegistry

namespace SessionManager

variable {sessions : SessionManager}

/-- Some non-zero identifier is not pending. -/
def Roomy (sessions : SessionManager) : Prop :=
  ∃ sessionId : SessionId, sessionId ≠ 0 ∧ sessionId ∉ sessions.entries

private theorem beginSession_exists (roomy : sessions.Roomy)
    (callerHandle calleeHandle : ServiceHandle) :
    ∃ sessionId next,
      ModularCounter.Skips sessions.contains sessions.nextSessionId
          sessionId ∧
        sessions.beginSession callerHandle calleeHandle =
          some (sessionId, next) := by
  obtain ⟨spare, nonzero, idle⟩ := roomy
  have free : sessions.contains spare = false := by
    simp [contains, idle]
  obtain ⟨sessionId, search⟩ :=
    ModularCounter.firstFree_exists sessions.nextSessionId nonzero free
  obtain ⟨next, begun⟩ :=
    beginSession_of_search callerHandle calleeHandle search
  exact ⟨sessionId, next, ModularCounter.firstFree_some_iff.mp search, begun⟩

end SessionManager

/-- From any position of the counter, the skipping loop ends at an identifier
that is not in use, and taking it disturbs nothing else. -/
theorem identifiers_fresh :
    (∀ registry : HandleRegistry, registry.Roomy →
      ∃ handle,
        ModularCounter.Skips registry.contains registry.nextHandle handle ∧
          registry.allocate = some (handle,
            { registry with nextHandle := handle + 1 }) ∧
          handle ≠ 0 ∧ handle ∉ registry.handleToName) ∧
    (∀ (sessions : SessionManager) (callerHandle calleeHandle : ServiceHandle),
      sessions.Roomy →
      ∃ sessionId next,
        ModularCounter.Skips sessions.contains sessions.nextSessionId
            sessionId ∧
          sessions.beginSession callerHandle calleeHandle =
            some (sessionId, next) ∧
          sessionId ≠ 0 ∧ sessionId ∉ sessions.entries ∧
          next.nextSessionId = sessionId + 1 ∧
          next.size = sessions.size + 1 ∧
          next.entries.lookup sessionId = some
            { callerHandle := callerHandle, calleeHandle := calleeHandle } ∧
          ∀ other, other ≠ sessionId →
            next.entries.lookup other = sessions.entries.lookup other) := by
  constructor
  · intro registry roomy
    obtain ⟨handle, next, allocated⟩ :=
      HandleRegistry.allocate_exists roomy
    obtain ⟨skips, rfl⟩ := HandleRegistry.allocate_some_iff.mp allocated
    obtain ⟨nonzero, unregistered, _⟩ :=
      HandleRegistry.allocate_some allocated
    exact ⟨handle, skips, allocated, nonzero, unregistered⟩
  · intro sessions callerHandle calleeHandle roomy
    obtain ⟨sessionId, next, skips, begun⟩ :=
      SessionManager.beginSession_exists roomy callerHandle calleeHandle
    obtain ⟨nonzero, fresh, counter, entries⟩ :=
      SessionManager.beginSession_some begun
    have unused : sessionId ∉ sessions.entries :=
      AssociationMap.lookup_none_iff.mp fresh
    have added : next.size = sessions.size + 1 := by
      simp only [SessionManager.size, entries, AList.entries_insert_of_notMem unused,
        List.length_cons]
    refine ⟨sessionId, next, skips, begun, nonzero, unused, counter, added,
      ?_, ?_⟩
    · rw [entries, AList.lookup_insert]
    · intro other different
      rw [entries, AList.lookup_insert_ne different]

/-- A counter before zero, with the last value and the first in use. -/
theorem identifiers_fresh_wrapped :
    (∃ handle next,
      HandleRegistry.allocate
          { nextHandle := 18446744073709551615
            handleToName := ((∅ : AList fun _ : ServiceHandle => Text).insert
              (18446744073709551615 : ServiceHandle) ([] : Text)).insert 1 [] } = some (handle, next) ∧
        handle ≠ 0) ∧
    ∃ sessionId next,
      SessionManager.beginSession
          { nextSessionId := 0
            entries := (∅ : AList fun _ : SessionId => SessionEntry).insert 1
              { callerHandle := 1, calleeHandle := 2 } } 3 4 =
          some (sessionId, next) ∧
        next.size = 2 := by
  constructor
  · obtain ⟨handle, _, allocated, nonzero, _⟩ := identifiers_fresh.1
      { nextHandle := 18446744073709551615
        handleToName := ((∅ : AList fun _ : ServiceHandle => Text).insert
          (18446744073709551615 : ServiceHandle) ([] : Text)).insert 1 [] }
      ⟨2, by decide, by decide⟩
    exact ⟨handle, _, allocated, nonzero⟩
  · obtain ⟨sessionId, next, _, begun, _, _, _, added, _⟩ :=
      identifiers_fresh.2
        { nextSessionId := 0
          entries := (∅ : AList fun _ : SessionId => SessionEntry).insert 1
            { callerHandle := 1, calleeHandle := 2 } } 3 4
        ⟨2, by decide, by decide⟩
    exact ⟨sessionId, next, begun, added⟩

end Crynet
