import Crynet.Skynet.Ownership

/-!
# What the other threads rely on

A step of one thread may change what the frames of the others know of the node.
It does not: a context that is referenced keeps its handle and its queue, a
queue in somebody's hands stays, and a handle that was given out is not taken
by anyone else while its creator waits.
-/

namespace Crynet.Skynet

namespace Node

section Lookups

variable (node : Node)

@[simp, grind =] theorem lookup_setContext (context other : ContextRef)
    (stored : SkynetContext) :
    (node.setContext context stored).contexts.lookup other =
      if other = context then some stored else node.contexts.lookup other :=
  AssociationMap.lookup_insert_eq _ _ _ _

@[simp, grind =] theorem setContext_queues (context : ContextRef)
    (stored : SkynetContext) :
    (node.setContext context stored).queues = node.queues := rfl

@[simp, grind =] theorem setContext_handles (context : ContextRef)
    (stored : SkynetContext) :
    (node.setContext context stored).handles = node.handles := rfl

@[simp, grind =] theorem setContext_globalQueue (context : ContextRef)
    (stored : SkynetContext) :
    (node.setContext context stored).globalQueue = node.globalQueue := rfl

@[simp, grind =] theorem setContext_nextContext (context : ContextRef)
    (stored : SkynetContext) :
    (node.setContext context stored).nextContext = node.nextContext := rfl

@[simp, grind =] theorem setContext_nextQueue (context : ContextRef)
    (stored : SkynetContext) :
    (node.setContext context stored).nextQueue = node.nextQueue := rfl

@[simp, grind =] theorem lookup_setQueue (queue other : QueueRef)
    (stored : MessageQueue) :
    (node.setQueue queue stored).queues.lookup other =
      if other = queue then some stored else node.queues.lookup other :=
  AssociationMap.lookup_insert_eq _ _ _ _

@[simp, grind =] theorem setQueue_contexts (queue : QueueRef)
    (stored : MessageQueue) :
    (node.setQueue queue stored).contexts = node.contexts := rfl

@[simp, grind =] theorem setQueue_handles (queue : QueueRef)
    (stored : MessageQueue) :
    (node.setQueue queue stored).handles = node.handles := rfl

@[simp, grind =] theorem setQueue_globalQueue (queue : QueueRef)
    (stored : MessageQueue) :
    (node.setQueue queue stored).globalQueue = node.globalQueue := rfl

@[simp, grind =] theorem setQueue_nextContext (queue : QueueRef)
    (stored : MessageQueue) :
    (node.setQueue queue stored).nextContext = node.nextContext := rfl

@[simp, grind =] theorem setQueue_nextQueue (queue : QueueRef)
    (stored : MessageQueue) :
    (node.setQueue queue stored).nextQueue = node.nextQueue := rfl

theorem contextHandle_of_lookup {node : Node} {context : ContextRef}
    {stored : SkynetContext}
    (found : node.contexts.lookup context = some stored) :
    node.contextHandle context = .ok stored.handle := by
  simp only [contextHandle, found]

theorem lookup_of_contextHandle {node : Node} {context : ContextRef}
    {handle : UInt32} (read : node.contextHandle context = .ok handle) :
    ∃ stored, node.contexts.lookup context = some stored ∧
      stored.handle = handle := by
  unfold contextHandle at read
  split at read
  · rename_i stored found
    exact ⟨stored, found, Except.ok.inj read⟩
  · simp at read

end Lookups

/-- What the frames that hold the given tokens rely on. -/
structure Evolves (node next : Node) (others : Token → Nat) : Prop where
  referenced : ∀ context stored, 0 < others (.reference context) →
    node.contexts.lookup context = some stored →
      ∃ later, next.contexts.lookup context = some later ∧
        (∀ queue, stored.queue = some queue → later.queue = some queue) ∧
        (stored.init = true → later.init = true)
  created : ∀ context stored, 0 < others (.creating context) →
    node.contexts.lookup context = some stored →
      ∃ later, next.contexts.lookup context = some later ∧
        later.handle = stored.handle ∧ later.queue = stored.queue
  queues : ∀ queue mq,
    0 < others (.mailbox queue) ∨ 0 < others (.kept queue) →
    node.queues.lookup queue = some mq →
      ∃ later, next.queues.lookup queue = some later ∧
        later.handle = mq.handle ∧
        (mq.released = true → later.released = true)
  unregistered : ∀ context, 0 < others (.creating context) →
    ¬node.handles.Registered context → ¬next.handles.Registered context
  waiting : ∀ context handle, 0 < others (.creating context) →
    node.Waiting context handle → next.Unused handle ∧
      next.handles.slot
        (HandleStorage.hash next.handles.slotSize handle) = some context
  handled : ∀ context handle, 0 < others (.creating context) →
    node.Handled context handle →
      ∀ queue mq, next.queues.lookup queue = some mq → mq.handle ≠ handle

/-- Every other frame still fits. -/
theorem Evolves.fits {node next : Node} {others : Token → Nat}
    (evolves : Evolves node next others) {frame : Frame}
    (carried : ∀ token ∈ frame.carries, 0 < others token)
    (fits : node.Fits frame) : next.Fits frame := by
  have keepsHas : ∀ context queue, 0 < others (.reference context) →
      node.Has context queue → next.Has context queue := by
    rintro context queue holds ⟨stored, found, own⟩
    obtain ⟨later, laterFound, same, _⟩ :=
      evolves.referenced context stored holds found
    exact ⟨later, laterFound, same queue own⟩
  have keepsTurn : ∀ turn : Turn, 0 < others (.reference turn.context) →
      (∃ stored, node.contexts.lookup turn.context = some stored ∧
        stored.queue = some turn.queue ∧ stored.init = true) →
      ∃ stored, next.contexts.lookup turn.context = some stored ∧
        stored.queue = some turn.queue ∧ stored.init = true := by
    rintro turn holds ⟨stored, found, own, started⟩
    obtain ⟨later, laterFound, same, still⟩ :=
      evolves.referenced _ stored holds found
    exact ⟨later, laterFound, same _ own, still started⟩
  have keepsQueue : ∀ queue handle,
      0 < others (.mailbox queue) ∨ 0 < others (.kept queue) →
      (∃ mq, node.queues.lookup queue = some mq ∧ mq.handle = handle) →
      ∃ mq, next.queues.lookup queue = some mq ∧ mq.handle = handle := by
    rintro queue handle holds ⟨mq, found, known⟩
    obtain ⟨later, laterFound, same, _⟩ :=
      evolves.queues queue mq holds found
    exact ⟨later, laterFound, by rw [same, known]⟩
  cases frame with
  | pushQueue context message =>
      obtain ⟨queue, has⟩ := fits
      exact ⟨queue, keepsHas context queue (carried _ (by simp [Frame.carries]))
        has⟩
  | registerHandle context =>
      obtain ⟨unregistered, stored, found, zero, none⟩ := fits
      obtain ⟨later, laterFound, sameHandle, sameQueue⟩ :=
        evolves.created context stored
          (carried _ (by simp [Frame.carries])) found
      refine ⟨evolves.unregistered context
        (carried _ (by simp [Frame.carries])) unregistered, later, laterFound,
        by rw [sameHandle, zero], by rw [sameQueue, none]⟩
  | storeHandle context handle =>
      obtain ⟨unused, seated⟩ := evolves.waiting context handle
        (carried _ (by simp [Frame.carries])) fits
      obtain ⟨nonzero, ⟨stored, found, zero, none⟩, _, _⟩ := fits
      obtain ⟨later, laterFound, sameHandle, sameQueue⟩ :=
        evolves.created context stored
          (carried _ (by simp [Frame.carries])) found
      exact ⟨nonzero, ⟨later, laterFound, by rw [sameHandle, zero],
        by rw [sameQueue, none]⟩, seated, unused⟩
  | createQueue context handle =>
      have unused := evolves.handled context handle
        (carried _ (by simp [Frame.carries])) fits
      obtain ⟨nonzero, ⟨stored, found, known, none⟩, _⟩ := fits
      obtain ⟨later, laterFound, sameHandle, sameQueue⟩ :=
        evolves.created context stored
          (carried _ (by simp [Frame.carries])) found
      exact ⟨nonzero, ⟨later, laterFound, by rw [sameHandle, known],
        by rw [sameQueue, none]⟩, unused⟩
  | contextInc context queue | moduleInit context queue
  | setInit context queue | launch context queue
  | initFailed context queue =>
      exact keepsHas context queue (carried _ (by simp [Frame.carries])) fits
  | initRetire handle queue =>
      exact keepsQueue queue handle
        (Or.inr (carried _ (by simp [Frame.carries]))) fits
  | mqRelease queue handle =>
      exact keepsQueue queue handle
        (Or.inl (carried _ (by simp [Frame.carries]))) fits
  | dispatchPop turn | dispatchLength turn message
  | dispatchCall turn message | callback turn | dispatchNext turn
  | dispatchEnd turn | dispatchPushBack turn next =>
      exact keepsTurn turn (carried _ (by simp [Frame.carries])) fits
  | dropQueue queue handle =>
      obtain ⟨mq, found, known, released⟩ := fits
      obtain ⟨later, laterFound, same, still⟩ := evolves.queues queue mq
        (Or.inl (carried _ (by simp [Frame.carries]))) found
      exact ⟨later, laterFound, by rw [same, known], still released⟩
  | freeQueue queue =>
      obtain ⟨mq, found, released⟩ := fits
      obtain ⟨later, laterFound, _, still⟩ := evolves.queues queue mq
        (Or.inl (carried _ (by simp [Frame.carries]))) found
      exact ⟨later, laterFound, still released⟩
  | pushGrab handle message | handleRetire handle | endlessGrab handle =>
      exact fits
  | _ => trivial

/-- A step that changes no handle, adds only contexts that have none and lets go
of those that have one. -/
structure Gentle (node next : Node) : Prop where
  contexts : ∀ context stored, node.contexts.lookup context = some stored →
    ∃ later, next.contexts.lookup context = some later ∧
      later.handle = stored.handle ∧ later.queue = stored.queue ∧
      (stored.init = true → later.init = true)
  older : ∀ context later, next.contexts.lookup context = some later →
    later.handle ≠ 0 → ∃ stored, node.contexts.lookup context = some stored ∧
      stored.handle = later.handle
  queues : ∀ queue mq, node.queues.lookup queue = some mq →
    ∃ later, next.queues.lookup queue = some later ∧
      later.handle = mq.handle ∧ (mq.released = true → later.released = true)
  olderQueues : ∀ queue later, next.queues.lookup queue = some later →
    ∃ mq, node.queues.lookup queue = some mq ∧ mq.handle = later.handle
  slotSize : next.handles.slotSize = node.handles.slotSize
  registered : ∀ index context, next.handles.slot index = some context →
    node.handles.slot index = some context
  seats : ∀ index context, node.handles.slot index = some context →
    node.contextHandle context = .ok 0 →
      next.handles.slot index = some context

theorem Gentle.trans {node next last : Node} (first : Gentle node next)
    (second : Gentle next last) : Gentle node last := by
  constructor
  · intro context stored found
    obtain ⟨later, laterFound, handle, queue, init⟩ :=
      first.contexts context stored found
    obtain ⟨latest, latestFound, again, sameQueue, still⟩ :=
      second.contexts context later laterFound
    exact ⟨latest, latestFound, again.trans handle, sameQueue.trans queue,
      fun started => still (init started)⟩
  · intro context latest found nonzero
    obtain ⟨later, laterFound, handle⟩ :=
      second.older context latest found nonzero
    obtain ⟨stored, storedFound, same⟩ :=
      first.older context later laterFound (by rwa [handle])
    exact ⟨stored, storedFound, same.trans handle⟩
  · intro queue mq found
    obtain ⟨later, laterFound, handle, released⟩ := first.queues queue mq found
    obtain ⟨latest, latestFound, again, still⟩ :=
      second.queues queue later laterFound
    exact ⟨latest, latestFound, again.trans handle,
      fun mark => still (released mark)⟩
  · intro queue latest found
    obtain ⟨later, laterFound, handle⟩ := second.olderQueues queue latest found
    obtain ⟨mq, present, same⟩ := first.olderQueues queue later laterFound
    exact ⟨mq, present, same.trans handle⟩
  · exact second.slotSize.trans first.slotSize
  · intro index context occupied
    exact first.registered index context
      (second.registered index context occupied)
  · intro index context occupied zero
    apply second.seats index context
    · exact first.seats index context occupied zero
    · obtain ⟨stored, found, unset⟩ := lookup_of_contextHandle zero
      obtain ⟨later, laterFound, same, _⟩ := first.contexts context stored found
      rw [contextHandle_of_lookup laterFound, same, unset]

theorem Gentle.evolves {node next : Node} (gentle : Gentle node next)
    (others : Token → Nat) : Evolves node next others := by
  constructor
  · intro context stored _ found
    obtain ⟨later, laterFound, _, queue, init⟩ :=
      gentle.contexts context stored found
    exact ⟨later, laterFound, fun own known => by rw [queue, known], init⟩
  · intro context stored _ found
    obtain ⟨later, laterFound, handle, queue, _⟩ :=
      gentle.contexts context stored found
    exact ⟨later, laterFound, handle, queue⟩
  · intro queue mq _ found
    exact gentle.queues queue mq found
  · rintro context _ unregistered ⟨index, occupied⟩
    exact unregistered ⟨index, gentle.registered index context occupied⟩
  · intro context handle _ waiting
    obtain ⟨nonzero, ⟨stored, found, zero, _⟩, seated, unused⟩ := waiting
    refine ⟨⟨?_, ?_⟩, ?_⟩
    · intro other later laterFound equal
      obtain ⟨older, olderFound, same⟩ :=
        gentle.older other later laterFound (by rwa [equal])
      exact unused.contexts other older olderFound (same.trans equal)
    · intro queue later laterFound
      obtain ⟨older, olderFound, same⟩ :=
        gentle.olderQueues queue later laterFound
      rw [← same]
      exact unused.queues queue older olderFound
    · rw [gentle.slotSize]
      apply gentle.seats _ _ seated
      rw [contextHandle_of_lookup found, zero]
  · intro context handle _ handled queue later laterFound
    obtain ⟨older, olderFound, same⟩ :=
      gentle.olderQueues queue later laterFound
    rw [← same]
    exact handled.unused queue older olderFound

end Node

end Crynet.Skynet
