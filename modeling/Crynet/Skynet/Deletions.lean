import Crynet.Skynet.Startings

/-!
# The balance when services end

A context leaves the handle table, and when its last reference is given up its
queue is marked, the context is freed, and the queue is freed by whoever finds
it marked.
-/

namespace Crynet.Skynet

open CallStacks

namespace Node

variable {node next : Node} {others : Token → Nat} {tokens : List Token}
variable {context : ContextRef} {stored : SkynetContext}
variable {queue : QueueRef} {mq marked : MessageQueue} {handle : UInt32}

section Leave

variable {handles : HandleStorage ContextRef}
variable (leaves : HandleStorage.Leaves node.handles context handle handles)

include leaves

/-- The context has one holder more among the frames and the table no more. -/
theorem ContextsBalanced.leave
    (balanced : node.ContextsBalanced (load others tokens))
    (inside : node.handles.Registered context) :
    ({ node with handles := handles } : Node).ContextsBalanced
      (load others (.reference context :: tokens)) := by
  have registered : ∀ other, handles.Registered other ↔
      node.handles.Registered other ∧ other ≠ context :=
    fun other => leaves.registered
  refine ⟨?_, ?_, ?_, balanced.fresh⟩
  · intro other missing
    obtain ⟨reference, creating, deleting, outside⟩ :=
      balanced.absent other missing
    have different : other ≠ context := by
      rintro rfl
      exact outside inside
    simp only [load_cons, reduceCtorEq, if_false, Token.reference.injEq,
      different.symm]
    refine ⟨by omega, by omega, by omega, ?_⟩
    intro still
    exact outside ((registered other).mp still).1
  · intro other current present
    obtain ⟨ref, deleted⟩ := balanced.counted other current present
    refine ⟨?_, by simpa [load_cons] using deleted⟩
    by_cases same : other = context
    · rw [same] at ref ⊢
      right
      refine ⟨fun still => ((registered context).mp still).2 rfl, ?_⟩
      rcases ref with ⟨_, count⟩ | ⟨outside, _⟩
      · simp only [load_cons, if_true, reduceCtorEq, if_false]
        omega
      · exact absurd inside outside
    · simp only [load_cons, reduceCtorEq, if_false, Token.reference.injEq,
        Ne.symm same]
      rcases ref with ⟨still, count⟩ | ⟨outside, count⟩
      · exact Or.inl ⟨(registered other).mpr ⟨still, same⟩, by omega⟩
      · refine Or.inr ⟨?_, by omega⟩
        intro still
        exact outside ((registered other).mp still).1
  · intro other
    simpa [load_cons] using balanced.creating other

/-- Nobody waits for the seat of a context that has a handle. -/
theorem Gentle.of_leaves (known : node.contextHandle context = .ok handle)
    (nonzero : handle ≠ 0) : Gentle node { node with handles := handles } := by
  refine ⟨fun _ current found => ⟨current, found, rfl, rfl, id⟩,
    fun _ later found _ => ⟨later, found, rfl⟩,
    fun _ found present => ⟨found, present, rfl, id⟩,
    fun _ later present => ⟨later, present, rfl⟩, leaves.size, ?_, ?_⟩
  · intro index other occupied
    have different : other ≠ context := by
      rintro rfl
      exact leaves.gone index occupied
    exact (leaves.stays index other different).mp occupied
  · intro index other occupied zero
    have different : other ≠ context := by
      rintro rfl
      exact nonzero (Except.ok.inj (known.symm.trans zero))
    exact (leaves.stays index other different).mpr occupied

end Leave

/-- The reference of the table goes to the frame that took the context out. -/
theorem Balanced.leave {handles : HandleStorage ContextRef}
    (balanced : node.Balanced (load others tokens))
    (leaves : HandleStorage.Leaves node.handles context handle handles)
    (known : node.contextHandle context = .ok handle)
    (nonzero : handle ≠ 0) (inside : node.handles.Registered context) :
    ({ node with handles := handles } : Node).Balanced
        (load others (.reference context :: tokens)) ∧
      Gentle node { node with handles := handles } := by
  refine ⟨⟨balanced.contexts.leave leaves inside, ?_, ?_,
    ⟨leaves.placed balanced.agree.placed, ?_, balanced.agree.distinct,
      balanced.agree.nonzero, balanced.agree.queueOf, ?_⟩⟩,
    Gentle.of_leaves leaves known nonzero⟩
  · exact balanced.queues.congr rfl rfl rfl (fun other => by simp [load_cons])
  · refine balanced.owned.withHandles ?_ ?_
    · intro other
      simp [load_cons]
    · intro other
      simp [load_cons]
  · rw [leaves.size]
    exact balanced.agree.several
  · intro other current own present unstarted still attached
    have kept := balanced.agree.starting other current own present unstarted
      (leaves.registered.mp still).1 attached
    simpa [load_cons] using kept

section Mark

/-- What `skynet_mq_mark_release` does to the node. -/
structure MarksQueue (node : Node) (queue : QueueRef)
    (mq marked : MessageQueue) (next : Node) : Prop where
  handle : marked.handle = mq.handle
  live : mq.released = false
  released : marked.released = true
  flag : marked.inGlobal = mq.inGlobal
  contexts : next.contexts = node.contexts
  queues : ∀ other, next.queues.lookup other =
    if other = queue then some marked else node.queues.lookup other
  handles : next.handles = node.handles
  nextContext : next.nextContext = node.nextContext
  nextQueue : next.nextQueue = node.nextQueue
  globalQueue : next.globalQueue =
    if mq.inGlobal then node.globalQueue else node.globalQueue ++ [queue]

variable (marks : node.MarksQueue queue mq marked next)
variable (found : node.contexts.lookup context = some stored)
variable (attached : stored.queue = some queue)
variable (present : node.queues.lookup queue = some mq)

include marks

include present in
theorem MarksQueue.older {own : QueueRef} {later : MessageQueue}
    (there : next.queues.lookup own = some later) :
    ∃ earlier, node.queues.lookup own = some earlier ∧
      earlier.handle = later.handle := by
  rw [marks.queues] at there
  split at there
  · rename_i same
    obtain rfl := Option.some.inj there
    exact ⟨mq, by rw [same, present], marks.handle.symm⟩
  · exact ⟨later, there, rfl⟩

include found in
/-- The holder of the last reference goes from deleting to freeing. -/
theorem MarksQueue.contextsBalanced
    (balanced : node.ContextsBalanced
      (load others (.deleting context :: tokens))) :
    next.ContextsBalanced (load others (.freeing context :: tokens)) := by
  constructor
  · intro other missing
    rw [marks.contexts] at missing
    rw [marks.handles]
    have none := balanced.absent other missing
    have different : other ≠ context := by
      rintro rfl
      rw [found] at missing
      simp at missing
    simpa [load_cons, different.symm] using none
  · intro other current there
    rw [marks.contexts] at there
    obtain ⟨ref, deleted⟩ := balanced.counted other current there
    constructor
    · rw [marks.handles]
      simpa [load_cons] using ref
    · simp only [load_cons, reduceCtorEq, if_false, Token.deleting.injEq,
        Token.freeing.injEq] at deleted ⊢
      omega
  · intro other
    simpa [load_cons] using balanced.creating other
  · intro other past
    rw [marks.contexts]
    exact balanced.fresh other (marks.nextContext ▸ past)

include present in
/-- A queue that was in nobody's hands is linked. -/
theorem MarksQueue.queuesBalanced
    (balanced : node.QueuesBalanced
      (load others (.deleting context :: tokens))) :
    next.QueuesBalanced (load others (.freeing context :: tokens)) := by
  have count := balanced.inHands queue mq present
  simp only [load_cons, reduceCtorEq, if_false, hands, marks.live,
    Bool.false_eq_true, or_false] at count
  refine balanced.change present marks.queues marks.nextQueue ?_ ?_ ?_
  · intro other different
    refine ⟨by simp [load_cons], by simp [load_cons], ?_⟩
    rw [marks.globalQueue]
    split
    · rfl
    · simp [different.symm]
  · rw [hands, if_pos (Or.inr marks.released), marks.globalQueue]
    simp only [load_cons, reduceCtorEq, if_false]
    split
    · rename_i inGlobal
      rw [if_pos inGlobal] at count
      exact count
    · rename_i idle
      rw [if_neg idle] at count
      simp only [List.count_append, List.count_singleton_self]
      omega
  · intro kept
    rw [marks.flag]
    apply balanced.keptMarked queue mq present
    simpa [load_cons] using kept

include found attached in
/-- A released queue has no owner any more, and the others keep theirs. -/
theorem MarksQueue.queuesOwned
    (owned : node.QueuesOwned (load others (.deleting context :: tokens))) :
    next.QueuesOwned (load others (.freeing context :: tokens)) := by
  constructor
  · intro other current own there known alive
    rw [marks.contexts] at there
    have different : other ≠ context := by
      rintro rfl
      simp [load_cons] at alive
    have apart : own ≠ queue := by
      rintro rfl
      exact different
        (owned.distinct other context current stored own there found known
          attached)
    rw [marks.queues, if_neg apart]
    apply owned.owned other current own there known
    simpa [load_cons, different.symm] using alive
  · intro first second current another own there other attachedFirst
      attachedSecond
    rw [marks.contexts] at there other
    exact owned.distinct first second current another own there other
      attachedFirst attachedSecond
  · intro own later there kept
    rw [marks.queues] at there
    split at there
    · obtain rfl := Option.some.inj there
      rw [marks.released] at kept
      simp at kept
    · rename_i apart
      obtain ⟨owner, current, here, known, alive⟩ :=
        owned.owner own later there kept
      have different : owner ≠ context := by
        rintro rfl
        obtain rfl := Option.some.inj (found.symm.trans here)
        exact apart (Option.some.inj (known.symm.trans attached))
      refine ⟨owner, current, by rw [marks.contexts, here], known, ?_⟩
      simpa [load_cons, different.symm] using alive
  · intro other current there unset
    rw [marks.contexts] at there
    simpa [load_cons] using owned.unowned other current there unset
  · intro other current own there known
    rw [marks.contexts] at there
    rw [marks.nextQueue]
    exact owned.bounded other current own there known

include present in
theorem MarksQueue.handlesAgree
    (agree : node.HandlesAgree (load others (.deleting context :: tokens))) :
    next.HandlesAgree (load others (.freeing context :: tokens)) := by
  have sameHandles : next.contextHandle = node.contextHandle := by
    funext other
    rw [contextHandle, contextHandle, marks.contexts]
  constructor
  · rw [sameHandles, marks.handles]
    exact agree.placed
  · rw [marks.handles]
    exact agree.several
  · intro first second current another there other equal nonzero
    rw [marks.contexts] at there other
    exact agree.distinct first second current another there other equal nonzero
  · intro own later there
    obtain ⟨earlier, here, same⟩ := marks.older present there
    rw [← same]
    exact agree.nonzero own earlier here
  · intro own later other current there here equal
    obtain ⟨earlier, before, same⟩ := marks.older present there
    rw [marks.contexts] at here
    exact agree.queueOf own earlier other current before here
      (equal.trans same.symm)
  · intro other current own there unstarted registered known
    rw [marks.contexts] at there
    rw [marks.handles] at registered
    simpa [load_cons] using agree.starting other current own there unstarted
      registered known

include present in
theorem MarksQueue.gentle : Gentle node next := by
  constructor
  · intro other current there
    exact ⟨current, by rw [marks.contexts, there], rfl, rfl, id⟩
  · intro other later there _
    rw [marks.contexts] at there
    exact ⟨later, there, rfl⟩
  · intro own current there
    rw [marks.queues]
    split
    · rename_i same
      rw [same] at there
      obtain rfl := Option.some.inj (present.symm.trans there)
      exact ⟨marked, rfl, marks.handle, fun _ => marks.released⟩
    · exact ⟨current, there, rfl, id⟩
  · intro own later there
    exact marks.older present there
  · rw [marks.handles]
  · intro index other occupied
    rwa [marks.handles] at occupied
  · intro index other occupied _
    rwa [marks.handles]

include found attached present in
/-- The last holder marks the queue, which then is in somebody's hands. -/
theorem MarksQueue.balanced
    (balanced : node.Balanced (load others (.deleting context :: tokens))) :
    next.Balanced (load others (.freeing context :: tokens)) :=
  ⟨marks.contextsBalanced found balanced.contexts,
    marks.queuesBalanced present balanced.queues,
    marks.queuesOwned found attached balanced.owned,
    marks.handlesAgree present balanced.agree⟩

end Mark

section Frees

@[grind =] theorem lookup_eraseContext (context other : ContextRef) :
    (node.contexts.erase context).lookup other =
      if other = context then none else node.contexts.lookup other :=
  AssociationMap.lookup_erase_eq _ _ _

@[grind =] theorem lookup_eraseQueue (queue other : QueueRef) :
    (node.queues.erase queue).lookup other =
      if other = queue then none else node.queues.lookup other :=
  AssociationMap.lookup_erase_eq _ _ _

section FreeContext

/-- What `skynet_free` of a context does to the node. -/
structure FreesContext (node : Node) (context : ContextRef) (next : Node) :
    Prop where
  contexts : next.contexts = node.contexts.erase context
  queues : next.queues = node.queues
  handles : next.handles = node.handles
  globalQueue : next.globalQueue = node.globalQueue
  nextContext : next.nextContext = node.nextContext
  nextQueue : next.nextQueue = node.nextQueue

variable (frees : node.FreesContext context next)

include frees

theorem FreesContext.older {other : ContextRef} {current : SkynetContext}
    (there : next.contexts.lookup other = some current) :
    other ≠ context ∧ node.contexts.lookup other = some current := by
  rw [frees.contexts, lookup_eraseContext] at there
  split at there
  · simp at there
  · rename_i different
    exact ⟨different, there⟩

private theorem FreesContext.newer {other : ContextRef} {current : SkynetContext}
    (different : other ≠ context)
    (there : node.contexts.lookup other = some current) :
    next.contexts.lookup other = some current := by
  rw [frees.contexts, lookup_eraseContext, if_neg different]
  exact there

theorem FreesContext.contextsBalanced
    (balanced : node.ContextsBalanced (load others (.freeing context :: tokens)))
    (single : load others tokens (.deleting context) +
      load others tokens (.freeing context) = 0)
    (unheld : ¬node.Holds (load others (.freeing context :: tokens)) context) :
    next.ContextsBalanced (load others tokens) := by
  constructor
  · intro other missing
    rw [frees.handles]
    by_cases same : other = context
    · rw [same]
      refine ⟨?_, ?_, single, fun inside => unheld (Or.inr (Or.inr inside))⟩
      · by_contra holds
        exact unheld (Or.inl (by simp only [load_cons]; omega))
      · by_contra holds
        exact unheld (Or.inr (Or.inl (by simp only [load_cons]; omega)))
    · rw [frees.contexts, lookup_eraseContext, if_neg same] at missing
      simpa [load_cons, Ne.symm same] using balanced.absent other missing
  · intro other current there
    obtain ⟨different, there⟩ := frees.older there
    obtain ⟨ref, deleted⟩ := balanced.counted other current there
    constructor
    · rw [frees.handles]
      simpa [load_cons] using ref
    · simpa [load_cons, different.symm] using deleted
  · intro other
    simpa [load_cons] using balanced.creating other
  · intro other past
    rw [frees.nextContext] at past
    rw [frees.contexts, lookup_eraseContext, balanced.fresh other past, ite_self]

/-- The queue of the context is released, and the others keep their owners. -/
theorem FreesContext.queuesOwned
    (owned : node.QueuesOwned (load others (.freeing context :: tokens))) :
    next.QueuesOwned (load others tokens) := by
  constructor
  · intro other current own there known alive
    obtain ⟨different, there⟩ := frees.older there
    rw [frees.queues]
    apply owned.owned other current own there known
    simpa [load_cons, different.symm] using alive
  · intro first second current another own there other known again
    exact owned.distinct first second current another own (frees.older there).2
      (frees.older other).2 known again
  · intro own mq there kept
    rw [frees.queues] at there
    obtain ⟨owner, current, here, known, alive⟩ := owned.owner own mq there kept
    have different : owner ≠ context := by
      rintro rfl
      simp [load_cons] at alive
    refine ⟨owner, current, frees.newer different here, known, ?_⟩
    simpa [load_cons, different.symm] using alive
  · intro other current there unset
    simpa [load_cons] using
      owned.unowned other current (frees.older there).2 unset
  · intro other current own there known
    rw [frees.nextQueue]
    exact owned.bounded other current own (frees.older there).2 known

theorem FreesContext.handlesAgree
    (agree : node.HandlesAgree (load others (.freeing context :: tokens)))
    (outside : ¬node.handles.Registered context) :
    next.HandlesAgree (load others tokens) := by
  constructor
  · rw [frees.handles]
    refine ⟨agree.placed.inside, agree.placed.single, ?_⟩
    intro index other occupied
    have different : other ≠ context := by
      rintro rfl
      exact outside ⟨index, occupied⟩
    obtain ⟨given, read, seat⟩ := agree.placed.reads index other occupied
    refine ⟨given, ?_, seat⟩
    rw [← read, contextHandle, contextHandle, frees.contexts,
      lookup_eraseContext, if_neg different]
  · rw [frees.handles]
    exact agree.several
  · intro first second current another there other equal nonzero
    exact agree.distinct first second current another (frees.older there).2
      (frees.older other).2 equal nonzero
  · rw [frees.queues]
    exact agree.nonzero
  · intro own mq other current there here equal
    rw [frees.queues] at there
    exact agree.queueOf own mq other current there (frees.older here).2 equal
  · intro other current own there unstarted registered known
    rw [frees.handles] at registered
    simpa [load_cons] using agree.starting other current own
      (frees.older there).2 unstarted registered known

/-- The other frames have nothing to do with the context. -/
theorem FreesContext.evolves
    (unheld : ¬node.Holds (load others (.freeing context :: tokens)) context) :
    Evolves node next others := by
  have apart : ∀ other, others (.reference other) ≠ 0 ∨
      others (.creating other) ≠ 0 → other ≠ context := by
    rintro other holds rfl
    apply unheld
    have first := le_load others (.freeing other :: tokens) (.reference other)
    have second := le_load others (.freeing other :: tokens) (.creating other)
    rcases holds with holds | holds
    · exact Or.inl (by omega)
    · exact Or.inr (Or.inl (by omega))
  constructor
  · intro other current holds there
    exact ⟨current, frees.newer (apart other (Or.inl (by omega))) there,
      fun _ known => known, id⟩
  · intro other current creates there
    exact ⟨current, frees.newer (apart other (Or.inr (by omega))) there, rfl,
      rfl⟩
  · intro own mq _ there
    exact ⟨mq, by rw [frees.queues, there], rfl, id⟩
  · intro other _ outside
    rw [frees.handles]
    exact outside
  · intro other given _ waiting
    rw [frees.handles]
    refine ⟨⟨?_, ?_⟩, waiting.seated⟩
    · intro third current there
      exact waiting.unused.contexts third current (frees.older there).2
    · rw [frees.queues]
      exact waiting.unused.queues
  · intro other given _ handled
    rw [frees.queues]
    exact handled.unused

end FreeContext

/-- Nobody misses a context that is freed. -/
theorem Balanced.freeContext
    (balanced : node.Balanced (load others (.freeing context :: tokens))) :
    ({ node with contexts := node.contexts.erase context } : Node).Balanced
        (load others tokens) ∧
      Evolves node { node with contexts := node.contexts.erase context }
        others := by
  obtain ⟨stored, found, _, single, unheld⟩ :=
    @Balanced.deleting node context _ balanced (by simp [load_cons])
  simp only [load_cons, reduceCtorEq, if_false, if_true] at single
  have frees : node.FreesContext context
      { node with contexts := node.contexts.erase context } :=
    ⟨rfl, rfl, rfl, rfl, rfl, rfl⟩
  have outside : ¬node.handles.Registered context :=
    fun inside => unheld (Or.inr (Or.inr inside))
  refine ⟨⟨frees.contextsBalanced balanced.contexts (by omega) unheld, ?_,
    frees.queuesOwned balanced.owned,
    frees.handlesAgree balanced.agree outside⟩, frees.evolves unheld⟩
  exact balanced.queues.congr frees.queues frees.globalQueue frees.nextQueue
    (fun other => by simp [load_cons])

section FreeQueue

/-- What `_release` of a queue does to the node. -/
structure FreesQueue (node : Node) (queue : QueueRef) (next : Node) :
    Prop where
  contexts : next.contexts = node.contexts
  queues : next.queues = node.queues.erase queue
  handles : next.handles = node.handles
  globalQueue : next.globalQueue = node.globalQueue
  nextContext : next.nextContext = node.nextContext
  nextQueue : next.nextQueue = node.nextQueue

variable (frees : node.FreesQueue queue next)

include frees

theorem FreesQueue.older {own : QueueRef} {current : MessageQueue}
    (there : next.queues.lookup own = some current) :
    own ≠ queue ∧ node.queues.lookup own = some current := by
  rw [frees.queues, lookup_eraseQueue] at there
  split at there
  · simp at there
  · rename_i different
    exact ⟨different, there⟩

private theorem FreesQueue.newer {own : QueueRef} {current : MessageQueue}
    (different : own ≠ queue)
    (there : node.queues.lookup own = some current) :
    next.queues.lookup own = some current := by
  rw [frees.queues, lookup_eraseQueue, if_neg different]
  exact there

theorem FreesQueue.queuesBalanced
    (balanced : node.QueuesBalanced (load others (.mailbox queue :: tokens)))
    (single : load others tokens (.mailbox queue) +
      load others tokens (.kept queue) + node.globalQueue.count queue = 0) :
    next.QueuesBalanced (load others tokens) := by
  constructor
  · intro other missing
    rw [frees.globalQueue]
    by_cases same : other = queue
    · rw [same]
      exact single
    · rw [frees.queues, lookup_eraseQueue, if_neg same] at missing
      simpa [load_cons, Ne.symm same] using balanced.absent other missing
  · intro other current there
    obtain ⟨different, there⟩ := frees.older there
    rw [frees.globalQueue]
    simpa [load_cons, different.symm] using
      balanced.inHands other current there
  · intro other current there kept
    apply balanced.keptMarked other current (frees.older there).2
    simpa [load_cons] using kept
  · intro other past
    rw [frees.nextQueue] at past
    rw [frees.queues, lookup_eraseQueue, balanced.fresh other past, ite_self]

/-- A released queue belongs to no context. -/
theorem FreesQueue.queuesOwned
    (owned : node.QueuesOwned (load others (.mailbox queue :: tokens)))
    (found : node.queues.lookup queue = some mq)
    (released : mq.released = true) :
    next.QueuesOwned (load others tokens) := by
  constructor
  · intro context stored own there known alive
    rw [frees.contexts] at there
    obtain ⟨current, here, live, same⟩ :=
      owned.owned context stored own there known
        (by simpa [load_cons] using alive)
    refine ⟨current, frees.newer ?_ here, live, same⟩
    rintro rfl
    obtain rfl := Option.some.inj (found.symm.trans here)
    rw [released] at live
    simp at live
  · rw [frees.contexts]
    exact owned.distinct
  · intro own current there live
    obtain ⟨owner, stored, here, known, alive⟩ :=
      owned.owner own current (frees.older there).2 live
    exact ⟨owner, stored, by rw [frees.contexts, here], known,
      by simpa [load_cons] using alive⟩
  · intro context stored there unset
    rw [frees.contexts] at there
    simpa [load_cons] using owned.unowned context stored there unset
  · rw [frees.contexts, frees.nextQueue]
    exact owned.bounded

theorem FreesQueue.handlesAgree
    (agree : node.HandlesAgree (load others (.mailbox queue :: tokens))) :
    next.HandlesAgree (load others tokens) := by
  have sameHandles : next.contextHandle = node.contextHandle := by
    funext other
    rw [contextHandle, contextHandle, frees.contexts]
  constructor
  · rw [sameHandles, frees.handles]
    exact agree.placed
  · rw [frees.handles]
    exact agree.several
  · rw [frees.contexts]
    exact agree.distinct
  · intro own current there
    exact agree.nonzero own current (frees.older there).2
  · intro own current context stored there here equal
    rw [frees.contexts] at here
    exact agree.queueOf own current context stored (frees.older there).2 here
      equal
  · intro context stored own there unstarted registered known
    rw [frees.contexts] at there
    rw [frees.handles] at registered
    simpa [load_cons] using agree.starting context stored own there unstarted
      registered known

/-- The other frames have nothing to do with the queue. -/
theorem FreesQueue.evolves
    (apart : ∀ own, 0 < others (.mailbox own) ∨ 0 < others (.kept own) →
      own ≠ queue) : Evolves node next others := by
  constructor
  · intro context stored _ there
    exact ⟨stored, by rw [frees.contexts, there], fun _ known => known, id⟩
  · intro context stored _ there
    exact ⟨stored, by rw [frees.contexts, there], rfl, rfl⟩
  · intro own current holds there
    exact ⟨current, frees.newer (apart own holds) there, rfl, id⟩
  · intro other _ outside
    rw [frees.handles]
    exact outside
  · intro context given _ waiting
    rw [frees.handles]
    refine ⟨⟨?_, ?_⟩, waiting.seated⟩
    · rw [frees.contexts]
      exact waiting.unused.contexts
    · intro own current there
      exact waiting.unused.queues own current (frees.older there).2
  · intro context given _ handled own current there
    exact handled.unused own current (frees.older there).2

end FreeQueue

/-- Nobody misses a queue that is freed. -/
theorem Balanced.freeQueue
    (balanced : node.Balanced (load others (.mailbox queue :: tokens)))
    (found : node.queues.lookup queue = some mq)
    (released : mq.released = true) :
    queue ∉ node.globalQueue ∧
      ({ node with queues := node.queues.erase queue } : Node).Balanced
        (load others tokens) ∧
      Evolves node { node with queues := node.queues.erase queue } others := by
  have single := balanced.queues.inHands queue mq found
  rw [hands, if_pos (Or.inr released)] at single
  simp only [load_cons, reduceCtorEq, if_false, if_true] at single
  have frees : node.FreesQueue queue
      { node with queues := node.queues.erase queue } :=
    ⟨rfl, rfl, rfl, rfl, rfl, rfl⟩
  refine ⟨List.count_eq_zero.mp (by omega), ⟨?_,
    frees.queuesBalanced balanced.queues (by omega),
    frees.queuesOwned balanced.owned found released,
    frees.handlesAgree balanced.agree⟩, frees.evolves ?_⟩
  · exact balanced.contexts.congr frees.contexts frees.handles
      frees.nextContext (fun other => by simp [load_cons])
  · rintro own holds rfl
    have first := le_load others tokens (.mailbox own)
    have second := le_load others tokens (.kept own)
    omega

end Frees

end Node

end Crynet.Skynet
