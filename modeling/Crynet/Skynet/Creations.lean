import Crynet.Skynet.BalancedSteps

/-!
# The balance while a context is created

The steps of `skynet_context_new` that give a context its memory, its handle, its
queue and its mark.  Each is also a step that the frames of other threads can
rely on, since at most one of them creates a given context.
-/

namespace Crynet.Skynet

open CallStacks

namespace Node

variable {node : Node} {others : Token → Nat} {tokens : List Token}
variable {context : ContextRef} {stored created : SkynetContext}
variable {queue : QueueRef} {handle : UInt32}

/-- Counters and the history are in no balance. -/
theorem Balanced.silent {next : Node} {held : Token → Nat}
    (balanced : node.Balanced held) (contexts : next.contexts = node.contexts)
    (queues : next.queues = node.queues)
    (handles : next.handles = node.handles)
    (globalQueue : next.globalQueue = node.globalQueue)
    (nextContext : next.nextContext = node.nextContext)
    (nextQueue : next.nextQueue = node.nextQueue) :
    next.Balanced held ∧ Gentle node next := by
  have same : SameLabels node next :=
    SameLabels.of_contexts contexts (fun _ => by rw [queues]) handles nextQueue
  exact ⟨⟨balanced.contexts.congr contexts handles nextContext
      (fun _ => ⟨rfl, rfl, rfl, rfl⟩),
    balanced.queues.congr queues globalQueue nextQueue (fun _ => ⟨rfl, rfl⟩),
    balanced.owned.congr same (fun _ => rfl) (fun _ => Nat.le_refl _),
    balanced.agree.congr same (fun _ => Nat.le_refl _)⟩, same.gentle⟩

theorem contextHandle_setContext_of_ne {other : ContextRef}
    (different : other ≠ context) :
    (node.setContext context stored).contextHandle other =
      node.contextHandle other := by
  simp only [contextHandle, lookup_setContext, if_neg different]

section Allocate

/-- What the memory for a new context does to the node. -/
structure Allocates (node : Node) (created : SkynetContext) (next : Node) :
    Prop where
  zero : created.handle = 0
  two : created.ref = 2
  empty : created.queue = none
  contexts : ∀ other, next.contexts.lookup other =
    if other = node.nextContext then some created
    else node.contexts.lookup other
  queues : next.queues = node.queues
  handles : next.handles = node.handles
  globalQueue : next.globalQueue = node.globalQueue
  nextContext : next.nextContext = node.nextContext + 1
  nextQueue : next.nextQueue = node.nextQueue

variable {next : Node} (allocates : node.Allocates created next)
variable (missing : node.contexts.lookup node.nextContext = none)

include allocates

theorem Allocates.contextCases {other : ContextRef} {current : SkynetContext}
    (present : next.contexts.lookup other = some current) :
    (other = node.nextContext ∧ current = created) ∨
    (other ≠ node.nextContext ∧ node.contexts.lookup other = some current) := by
  rw [allocates.contexts] at present
  split at present
  · rename_i same
    exact Or.inl ⟨same, (Option.some.inj present).symm⟩
  · rename_i different
    exact Or.inr ⟨different, present⟩

/-- The new context has no queue yet. -/
theorem Allocates.ofQueue {other : ContextRef} {current : SkynetContext}
    {own : QueueRef} (present : next.contexts.lookup other = some current)
    (known : current.queue = some own) :
    node.contexts.lookup other = some current := by
  rcases allocates.contextCases present with ⟨_, rfl⟩ | ⟨_, older⟩
  · rw [allocates.empty] at known
    simp at known
  · exact older

include missing in
theorem Allocates.kept {other : ContextRef} {current : SkynetContext}
    (found : node.contexts.lookup other = some current) :
    next.contexts.lookup other = some current := by
  rw [allocates.contexts, if_neg]
  · exact found
  · rintro rfl
    rw [missing] at found
    simp at found

/-- The creator holds both references to the context. -/
theorem Allocates.contextsBalanced
    (balanced : node.ContextsBalanced (load others tokens)) :
    next.ContextsBalanced (load others (.creating node.nextContext ::
      .reference node.nextContext :: tokens)) := by
  have missing := balanced.fresh node.nextContext (Nat.le_refl _)
  obtain ⟨reference, creating, deleting, unregistered⟩ :=
    balanced.absent _ missing
  constructor
  · intro other absent
    rw [allocates.contexts] at absent
    split at absent
    · simp at absent
    · rename_i different
      rw [allocates.handles]
      simpa [load_cons, Ne.symm different] using balanced.absent other absent
  · intro other current present
    rcases allocates.contextCases present with ⟨same, rfl⟩ | ⟨different, older⟩
    · rw [same]
      constructor
      · right
        rw [allocates.handles]
        refine ⟨unregistered, ?_⟩
        simp only [load_cons, if_true, reduceCtorEq, if_false, reference,
          creating, allocates.two]
        rfl
      · right
        have two := allocates.two
        simp only [load_cons, reduceCtorEq, if_false]
        exact ⟨by omega, by omega⟩
    · obtain ⟨ref, deleted⟩ := balanced.counted other current older
      constructor
      · rw [allocates.handles]
        simpa [load_cons, Ne.symm different] using ref
      · simpa [load_cons] using deleted
  · intro other
    by_cases same : other = node.nextContext
    · rw [same]
      simp [load_cons, creating]
    · simpa [load_cons, Ne.symm same] using balanced.creating other
  · intro other above
    rw [allocates.nextContext] at above
    rw [allocates.contexts, if_neg (Nat.ne_of_gt above)]
    exact balanced.fresh other (Nat.le_of_succ_le above)

include missing in
theorem Allocates.queuesOwned (owned : node.QueuesOwned (load others tokens)) :
    next.QueuesOwned (load others (.creating node.nextContext ::
      .reference node.nextContext :: tokens)) := by
  constructor
  · intro other current own present known alive
    rw [allocates.queues]
    exact owned.owned other current own (allocates.ofQueue present known) known
      (by simpa [load_cons] using alive)
  · intro first second current another own present other known again
    exact owned.distinct first second current another own
      (allocates.ofQueue present known) (allocates.ofQueue other again) known
      again
  · intro own mq present kept
    rw [allocates.queues] at present
    obtain ⟨owner, current, found, known, alive⟩ :=
      owned.owner own mq present kept
    exact ⟨owner, current, allocates.kept missing found, known,
      by simpa [load_cons] using alive⟩
  · intro other current present unset
    rcases allocates.contextCases present with ⟨same, _⟩ | ⟨_, older⟩
    · rw [same]
      simp [load_cons]
    · have positive := owned.unowned other current older unset
      simp only [load_cons]
      omega
  · intro other current own present known
    rw [allocates.nextQueue]
    exact owned.bounded other current own (allocates.ofQueue present known)
      known

/-- A context without a handle is under no handle. -/
theorem Allocates.handlesAgree
    (agree : node.HandlesAgree (load others tokens))
    (unregistered : ¬node.handles.Registered node.nextContext) :
    next.HandlesAgree (load others (.creating node.nextContext ::
      .reference node.nextContext :: tokens)) := by
  have zero := allocates.zero
  constructor
  · rw [allocates.handles]
    refine ⟨agree.placed.inside, agree.placed.single, ?_⟩
    intro index other occupied
    have different : other ≠ node.nextContext := by
      rintro rfl
      exact unregistered ⟨index, occupied⟩
    have same : next.contextHandle other = node.contextHandle other := by
      rw [contextHandle, contextHandle, allocates.contexts, if_neg different]
    rw [same]
    exact agree.placed.reads index other occupied
  · rw [allocates.handles]
    exact agree.several
  · intro first second current another present other equal nonzero
    rcases allocates.contextCases present with ⟨_, rfl⟩ | ⟨_, present⟩
    · exact absurd zero nonzero
    · rcases allocates.contextCases other with ⟨_, rfl⟩ | ⟨_, other⟩
      · rw [zero] at equal
        exact absurd equal nonzero
      · exact agree.distinct first second current another present other equal
          nonzero
  · rw [allocates.queues]
    exact agree.nonzero
  · intro own mq other current present found equal
    rw [allocates.queues] at present
    rcases allocates.contextCases found with ⟨_, rfl⟩ | ⟨_, older⟩
    · rw [zero] at equal
      exact absurd equal.symm (agree.nonzero own mq present)
    · exact agree.queueOf own mq other current present older equal
  · intro other current own present unstarted registered known
    rw [allocates.handles] at registered
    simpa [load_cons] using agree.starting other current own
      (allocates.ofQueue present known) unstarted registered known

include missing in
theorem Allocates.gentle : Gentle node next := by
  constructor
  · intro context stored found
    exact ⟨stored, allocates.kept missing found, rfl, rfl, id⟩
  · intro context later found nonzero
    rcases allocates.contextCases found with ⟨_, rfl⟩ | ⟨_, older⟩
    · exact absurd allocates.zero nonzero
    · exact ⟨later, older, rfl⟩
  · intro own mq found
    exact ⟨mq, by rw [allocates.queues, found], rfl, id⟩
  · intro own later found
    rw [allocates.queues] at found
    exact ⟨later, found, rfl⟩
  · rw [allocates.handles]
  · intro index context occupied
    rwa [allocates.handles] at occupied
  · intro index context occupied _
    rwa [allocates.handles]

end Allocate

/-- Memory for a new context. -/
theorem Balanced.allocate (balanced : node.Balanced (load others tokens))
    (zero : created.handle = 0) (two : created.ref = 2)
    (none : created.queue = none) :
    ({ node.setContext node.nextContext created with
        nextContext := node.nextContext + 1 } : Node).Balanced
      (load others (.creating node.nextContext ::
        .reference node.nextContext :: tokens)) ∧
      Gentle node { node.setContext node.nextContext created with
        nextContext := node.nextContext + 1 } := by
  have missing := balanced.contexts.fresh node.nextContext (Nat.le_refl _)
  have outside := (balanced.contexts.absent _ missing).2.2.2
  have allocates : node.Allocates created
      { node.setContext node.nextContext created with
        nextContext := node.nextContext + 1 } :=
    ⟨zero, two, none, fun other => lookup_setContext node _ other _, rfl, rfl,
      rfl, rfl, rfl⟩
  refine ⟨⟨allocates.contextsBalanced balanced.contexts, ?_,
    allocates.queuesOwned missing balanced.owned,
    allocates.handlesAgree balanced.agree outside⟩, allocates.gentle missing⟩
  exact balanced.queues.congr allocates.queues allocates.globalQueue
    allocates.nextQueue (fun other => by simp [load_cons])

section Handles

variable {handles : HandleStorage ContextRef}

/-- Who owns which queue does not depend on the handle table. -/
theorem QueuesOwned.withHandles {held later : Token → Nat}
    (owned : node.QueuesOwned held)
    (freeing : ∀ context, later (.freeing context) = held (.freeing context))
    (creating : ∀ context, held (.creating context) ≤ later (.creating context)) :
    ({ node with handles := handles } : Node).QueuesOwned later := by
  have same := owned.congr (SameLabels.refl node) freeing creating
  exact ⟨same.owned, same.distinct, same.owner, same.unowned, same.bounded⟩

/-- The creator gives one of its references to the table. -/
theorem ContextsBalanced.enter
    (balanced : node.ContextsBalanced
      (load others (.creating context :: .reference context :: tokens)))
    (found : node.contexts.lookup context = some stored)
    (unregistered : ¬node.handles.Registered context)
    (enters : HandleStorage.Enters node.contextHandle node.handles context
      handle handles) :
    ({ node with handles := handles } : Node).ContextsBalanced
      (load others (.creating context :: tokens)) := by
  have registered : ∀ other, handles.Registered other ↔
      other = context ∨ node.handles.Registered other := enters.others
  refine ⟨?_, ?_, ?_, balanced.fresh⟩
  · intro other missing
    have different : other ≠ context := by
      rintro rfl
      have impossible := missing.symm.trans found
      simp at impossible
    obtain ⟨reference, creating, deleting, outside⟩ :=
      balanced.absent other missing
    simp only [load_cons, reduceCtorEq, if_false, Token.creating.injEq,
      Token.reference.injEq, different.symm] at reference creating deleting ⊢
    refine ⟨by omega, by omega, by omega, ?_⟩
    intro inside
    rcases (registered other).mp inside with same | inside
    · exact different same
    · exact outside inside
  · intro other current present
    obtain ⟨ref, deleted⟩ := balanced.counted other current present
    refine ⟨?_, by simpa [load_cons] using deleted⟩
    by_cases same : other = context
    · rw [same] at ref ⊢
      left
      refine ⟨(registered context).mpr (Or.inl rfl), ?_⟩
      rcases ref with ⟨inside, _⟩ | ⟨_, count⟩
      · exact absurd inside unregistered
      · simp only [load_cons, if_true, reduceCtorEq, if_false] at count ⊢
        omega
    · simp only [load_cons, reduceCtorEq, if_false, Token.creating.injEq,
        Token.reference.injEq, Ne.symm same] at ref ⊢
      rcases ref with ⟨inside, count⟩ | ⟨outside, count⟩
      · exact Or.inl ⟨(registered other).mpr (Or.inr inside), by omega⟩
      · refine Or.inr ⟨?_, by omega⟩
        intro inside
        exact outside (((registered other).mp inside).resolve_left same)
  · intro other
    simpa [load_cons] using balanced.creating other

/-- The one reference that is not counted by a frame is that of the table. -/
theorem Balanced.enter
    (balanced : node.Balanced
      (load others (.creating context :: .reference context :: tokens)))
    (fits : node.Fits (.registerHandle context))
    (enters : HandleStorage.Enters node.contextHandle node.handles context
      handle handles)
    (size : node.handles.slotSize ≤ handles.slotSize) :
    ({ node with handles := handles } : Node).Balanced
      (load others (.creating context :: tokens)) := by
  obtain ⟨unregistered, stored, found, zero, none⟩ := fits
  refine ⟨balanced.contexts.enter found unregistered enters, ?_, ?_,
    ⟨enters.placed, Nat.le_trans balanced.agree.several size,
      balanced.agree.distinct, balanced.agree.nonzero, balanced.agree.queueOf,
      ?_⟩⟩
  · exact balanced.queues.congr rfl rfl rfl (fun other => by simp [load_cons])
  · refine balanced.owned.withHandles ?_ ?_
    · intro other
      simp [load_cons]
    · intro other
      simp [load_cons]
  · intro other current queue present unstarted inside own
    have elsewhere : other ≠ context := by
      rintro rfl
      obtain rfl := Option.some.inj (present.symm.trans found)
      rw [none] at own
      simp at own
    have older := ((enters.others other).mp inside).resolve_left elsewhere
    have kept := balanced.agree.starting other current queue present unstarted
      older own
    simpa [load_cons] using kept

/-- At most one frame creates a context. -/
theorem Balanced.creator
    (balanced : node.Balanced (load others (.creating context :: tokens)))
    {other : ContextRef} (creates : 0 < others (.creating other)) :
    other ≠ context := by
  rintro rfl
  have single := balanced.contexts.creating other
  have below := le_load others tokens (.creating other)
  simp only [load_cons, if_true] at single
  omega

theorem Balanced.enter_evolves
    (balanced : node.Balanced (load others (.creating context :: tokens)))
    (enters : HandleStorage.Enters node.contextHandle node.handles context
      handle handles) :
    Evolves node { node with handles := handles } others := by
  constructor
  · intro other stored _ found
    exact ⟨stored, found, fun _ own => own, id⟩
  · intro other stored _ found
    exact ⟨stored, found, rfl, rfl⟩
  · intro queue mq _ found
    exact ⟨mq, found, rfl, id⟩
  · intro other creates outside inside
    rcases (enters.others other).mp inside with same | inside
    · exact balanced.creator creates same
    · exact outside inside
  · intro other given _ waiting
    obtain ⟨_, ⟨stored, found, zero, _⟩, seated, unused⟩ := waiting
    refine ⟨⟨unused.contexts, unused.queues⟩, ?_⟩
    apply enters.waiting other given _ seated
    rw [contextHandle_of_lookup found, zero]
  · intro other given _ handled
    exact handled.unused

/-- The handle that a creation was given is its own. -/
theorem Balanced.enter_waiting
    (fits : node.Fits (.registerHandle context))
    (enters : HandleStorage.Enters node.contextHandle node.handles context
      handle handles)
    (unused : node.Unused handle) :
    ({ node with handles := handles } : Node).Waiting context handle :=
  ⟨enters.nonzero, fits.2, enters.seated, unused.contexts, unused.queues⟩

end Handles

end Node

end Crynet.Skynet
