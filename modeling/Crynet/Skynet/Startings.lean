import Crynet.Skynet.Creations

/-!
# The balance until a service starts

A new context stores its handle, gets its queue and, once initialised, hands the
queue over to the global queue.
-/

namespace Crynet.Skynet

open CallStacks

namespace Node

variable {node : Node} {others : Token → Nat} {tokens : List Token}
variable {context : ContextRef} {stored : SkynetContext}
variable {queue : QueueRef} {handle : UInt32}

section StoreHandle

variable (waiting : node.Waiting context handle)
variable (found : node.contexts.lookup context = some stored)

include waiting found

theorem Waiting.blank : stored.handle = 0 ∧ stored.queue = none := by
  obtain ⟨current, present, zero, none⟩ := waiting.stored
  obtain rfl := Option.some.inj (found.symm.trans present)
  exact ⟨zero, none⟩

private theorem Waiting.storeCases {other : ContextRef} {current : SkynetContext}
    (present : (node.setContext context
      { stored with handle := handle }).contexts.lookup other = some current) :
    (other = context ∧ current.handle = handle ∧ current.queue = none) ∨
      (other ≠ context ∧ node.contexts.lookup other = some current) := by
  rw [lookup_setContext] at present
  split at present
  · rename_i same
    obtain rfl := Option.some.inj present
    exact Or.inl ⟨same, rfl, (waiting.blank found).2⟩
  · rename_i different
    exact Or.inr ⟨different, present⟩

/-- The waiting context has no queue yet. -/
theorem Waiting.storeOlder {other : ContextRef} {current : SkynetContext}
    {own : QueueRef}
    (present : (node.setContext context
      { stored with handle := handle }).contexts.lookup other = some current)
    (known : current.queue = some own) :
    node.contexts.lookup other = some current := by
  rcases waiting.storeCases found present with ⟨_, _, unset⟩ | ⟨_, older⟩
  · rw [unset] at known
    simp at known
  · exact older

private theorem Waiting.storeOwned {held : Token → Nat}
    (owned : node.QueuesOwned held) :
    (node.setContext context { stored with handle := handle }).QueuesOwned
      held := by
  have empty := (waiting.blank found).2
  constructor
  · intro other current own present known alive
    exact owned.owned other current own (waiting.storeOlder found present known)
      known alive
  · intro first second current another own present other known again
    exact owned.distinct first second current another own
      (waiting.storeOlder found present known)
      (waiting.storeOlder found other again) known again
  · intro own mq present kept
    obtain ⟨owner, current, older, known, alive⟩ :=
      owned.owner own mq present kept
    refine ⟨owner, current, ?_, known, alive⟩
    rw [lookup_setContext, if_neg]
    · exact older
    · rintro rfl
      obtain rfl := Option.some.inj (found.symm.trans older)
      rw [empty] at known
      simp at known
  · intro other current present unset
    rcases waiting.storeCases found present with ⟨rfl, _⟩ | ⟨_, older⟩
    · exact owned.unowned other stored found empty
    · exact owned.unowned other current older unset
  · intro other current own present known
    exact owned.bounded other current own
      (waiting.storeOlder found present known) known

/-- The table has the context where its handle belongs, and nothing else is
under the handle. -/
theorem Waiting.storeAgree {held : Token → Nat}
    (agree : node.HandlesAgree held) :
    (node.setContext context { stored with handle := handle }).HandlesAgree
      held := by
  refine ⟨⟨agree.placed.inside, agree.placed.single, ?_⟩, agree.several, ?_,
    agree.nonzero, ?_, ?_⟩
  · intro index other occupied
    by_cases same : other = context
    · rw [same] at occupied ⊢
      refine ⟨handle, ?_, ?_⟩
      · rw [contextHandle, lookup_setContext, if_pos rfl]
      · intro _
        exact (agree.placed.single index _ context occupied
          waiting.seated).symm
    · rw [contextHandle_setContext_of_ne same]
      exact agree.placed.reads index other occupied
  · intro first second current another present other equal nonzero
    rcases waiting.storeCases found present with ⟨here, known, _⟩ | ⟨_, older⟩
    · rcases waiting.storeCases found other with ⟨there, _⟩ | ⟨_, elder⟩
      · rw [here, there]
      · exact absurd (equal.symm.trans known)
          (waiting.unused.contexts second another elder)
    · rcases waiting.storeCases found other with ⟨_, known, _⟩ | ⟨_, elder⟩
      · exact absurd (equal.trans known)
          (waiting.unused.contexts first current older)
      · exact agree.distinct first second current another older elder equal
          nonzero
  · intro own mq other current present there equal
    rcases waiting.storeCases found there with ⟨_, known, _⟩ | ⟨_, older⟩
    · exact absurd (equal.symm.trans known)
        (waiting.unused.queues own mq present)
    · exact agree.queueOf own mq other current present older equal
  · intro other current own present unstarted registered known
    exact agree.starting other current own
      (waiting.storeOlder found present known) unstarted registered known

/-- The handle is stored where the table expects it. -/
theorem Waiting.store (balanced : node.Balanced (load others tokens)) :
    (node.setContext context { stored with handle := handle }).Balanced
      (load others tokens) := by
  obtain ⟨ref, deleted⟩ := balanced.contexts.counted context stored found
  refine ⟨?_, ?_, waiting.storeOwned found balanced.owned,
    waiting.storeAgree found balanced.agree⟩
  · exact balanced.contexts.change found
      (fun other => lookup_setContext node context other _) rfl rfl
      (fun _ _ => ⟨rfl, rfl, rfl, rfl⟩) ⟨ref, deleted⟩
      (balanced.contexts.creating context)
  · exact balanced.queues.congr rfl rfl rfl (fun _ => ⟨rfl, rfl⟩)

theorem Waiting.store_evolves
    (balanced : node.Balanced (load others (.creating context :: tokens))) :
    Evolves node (node.setContext context { stored with handle := handle })
      others := by
  obtain ⟨zero, empty⟩ := waiting.blank found
  have elsewhere : ∀ other, other ≠ context →
      (node.setContext context { stored with handle := handle }).contexts.lookup
        other = node.contexts.lookup other := by
    intro other different
    rw [lookup_setContext, if_neg different]
  constructor
  · intro other current _ present
    by_cases same : other = context
    · rw [same] at present ⊢
      obtain rfl := Option.some.inj (found.symm.trans present)
      refine ⟨{ stored with handle := handle }, ?_, fun own known => known, id⟩
      rw [lookup_setContext, if_pos rfl]
    · exact ⟨current, by rw [elsewhere other same, present],
        fun _ known => known, id⟩
  · intro other current creates present
    have different := balanced.creator creates
    exact ⟨current, by rw [elsewhere other different, present], rfl, rfl⟩
  · intro own mq _ present
    exact ⟨mq, present, rfl, id⟩
  · intro other _ outside
    exact outside
  · intro other given creates further
    have different := balanced.creator creates
    refine ⟨⟨?_, further.unused.queues⟩, further.seated⟩
    intro third current present
    rw [lookup_setContext] at present
    split at present
    · obtain rfl := Option.some.inj present
      intro same
      have seats := further.seated
      rw [← same, waiting.seated] at seats
      exact different (Option.some.inj seats).symm
    · exact further.unused.contexts third current present
  · intro other given _ handled
    exact handled.unused

theorem Waiting.handled :
    (node.setContext context { stored with handle := handle }).Handled context
      handle := by
  obtain ⟨zero, empty⟩ := waiting.blank found
  refine ⟨waiting.nonzero, ⟨{ stored with handle := handle }, ?_, rfl, empty⟩,
    waiting.unused.queues⟩
  rw [lookup_setContext, if_pos rfl]

end StoreHandle

section CreateQueue

/-- What `skynet_mq_create` in `skynet_context_new` does to the node. -/
structure OpensQueue (node : Node) (context : ContextRef)
    (stored : SkynetContext) (handle : UInt32) (next : Node) : Prop where
  contexts : ∀ other, next.contexts.lookup other =
    if other = context then some { stored with queue := some node.nextQueue }
    else node.contexts.lookup other
  queues : ∀ other, next.queues.lookup other =
    if other = node.nextQueue then some (MessageQueue.create handle)
    else node.queues.lookup other
  handles : next.handles = node.handles
  globalQueue : next.globalQueue = node.globalQueue
  nextContext : next.nextContext = node.nextContext
  nextQueue : next.nextQueue = node.nextQueue + 1

variable {next : Node}
variable (opens : node.OpensQueue context stored handle next)
variable (handled : node.Handled context handle)
variable (found : node.contexts.lookup context = some stored)

include handled found in
theorem Handled.known : stored.handle = handle ∧ stored.queue = none := by
  obtain ⟨current, present, known, empty⟩ := handled.stored
  obtain rfl := Option.some.inj (found.symm.trans present)
  exact ⟨known, empty⟩

include opens in
theorem OpensQueue.contextCases {other : ContextRef} {current : SkynetContext}
    (present : next.contexts.lookup other = some current) :
    (other = context ∧
      current = { stored with queue := some node.nextQueue }) ∨
    (other ≠ context ∧ node.contexts.lookup other = some current) := by
  rw [opens.contexts] at present
  split at present
  · rename_i same
    exact Or.inl ⟨same, (Option.some.inj present).symm⟩
  · rename_i different
    exact Or.inr ⟨different, present⟩

include opens in
private theorem OpensQueue.queueCases {own : QueueRef} {mq : MessageQueue}
    (present : next.queues.lookup own = some mq) :
    (own = node.nextQueue ∧ mq = MessageQueue.create handle) ∨
    (own ≠ node.nextQueue ∧ node.queues.lookup own = some mq) := by
  rw [opens.queues] at present
  split at present
  · rename_i same
    exact Or.inl ⟨same, (Option.some.inj present).symm⟩
  · rename_i different
    exact Or.inr ⟨different, present⟩

include opens found in
private theorem OpensQueue.gentleContext {other : ContextRef}
    {current : SkynetContext}
    (present : node.contexts.lookup other = some current) :
    ∃ later, next.contexts.lookup other = some later ∧
      later.handle = current.handle ∧ later.init = current.init ∧
      (other ≠ context → later = current) := by
  by_cases same : other = context
  · rw [same] at present ⊢
    obtain rfl := Option.some.inj (found.symm.trans present)
    exact ⟨{ stored with queue := some node.nextQueue },
      by rw [opens.contexts, if_pos rfl], rfl, rfl,
      fun different => absurd rfl different⟩
  · exact ⟨current, by rw [opens.contexts, if_neg same, present], rfl, rfl,
      fun _ => rfl⟩

include opens found in
/-- The creator, which held the handle, now holds a reference. -/
theorem OpensQueue.contextsBalanced
    (balanced : node.ContextsBalanced
      (load others (.creating context :: tokens))) :
    next.ContextsBalanced (load others
      (.reference context :: .kept node.nextQueue :: tokens)) := by
  obtain ⟨ref, deleted⟩ := balanced.counted context stored found
  have creations := balanced.creating context
  simp only [load_cons, reduceCtorEq, if_false, if_true] at ref deleted
  simp only [load_cons, if_true] at creations
  refine balanced.change found opens.contexts opens.handles opens.nextContext
    ?_ ⟨?_, ?_⟩ ?_
  · intro other different
    simp [load_cons, different.symm]
  · rw [opens.handles]
    simp only [load_cons, reduceCtorEq, if_false, if_true]
    rcases ref with ⟨inside, count⟩ | ⟨outside, count⟩
    · exact Or.inl ⟨inside, by omega⟩
    · exact Or.inr ⟨outside, by omega⟩
  · simpa only [load_cons, reduceCtorEq, if_false] using deleted
  · simp only [load_cons, reduceCtorEq, if_false]
    omega

include opens in
/-- The creator keeps the new queue, which is marked but not linked. -/
theorem OpensQueue.queuesBalanced
    (balanced : node.QueuesBalanced
      (load others (.creating context :: tokens))) :
    next.QueuesBalanced (load others
      (.reference context :: .kept node.nextQueue :: tokens)) := by
  have unheld := balanced.absent _
    (balanced.fresh node.nextQueue (Nat.le_refl _))
  simp only [load_cons, reduceCtorEq, if_false] at unheld
  have inGlobal : (MessageQueue.create handle).inGlobal = true := rfl
  constructor
  · intro own absent
    rw [opens.queues] at absent
    split at absent
    · simp at absent
    · rename_i different
      rw [opens.globalQueue]
      simpa [load_cons, Ne.symm different] using balanced.absent own absent
  · intro own mq present
    rw [opens.globalQueue]
    rcases opens.queueCases present with ⟨rfl, rfl⟩ | ⟨different, present⟩
    · simp only [load_cons, reduceCtorEq, if_false, if_true, hands, inGlobal,
        true_or]
      omega
    · simpa [load_cons, Ne.symm different] using
        balanced.inHands own mq present
  · intro own mq present kept
    rcases opens.queueCases present with ⟨rfl, rfl⟩ | ⟨different, present⟩
    · exact inGlobal
    · exact balanced.keptMarked own mq present
        (by simpa [load_cons, Ne.symm different] using kept)
  · intro own past
    rw [opens.nextQueue] at past
    rw [opens.queues, if_neg (Nat.ne_of_gt past)]
    exact balanced.fresh own (Nat.le_of_succ_le past)

include opens handled found in
/-- The new queue belongs to its context only. -/
theorem OpensQueue.queuesOwned
    (owned : node.QueuesOwned (load others (.creating context :: tokens)))
    (missing : node.queues.lookup node.nextQueue = none)
    (unfreed : load others (.creating context :: tokens)
      (.freeing context) = 0) :
    next.QueuesOwned (load others
      (.reference context :: .kept node.nextQueue :: tokens)) := by
  obtain ⟨known, empty⟩ := handled.known found
  constructor
  · intro other current own present attached alive
    rcases opens.contextCases present with ⟨rfl, rfl⟩ | ⟨different, present⟩
    · obtain rfl := Option.some.inj attached
      refine ⟨MessageQueue.create handle, ?_, rfl, known.symm⟩
      rw [opens.queues, if_pos rfl]
    · obtain ⟨mq, there, kept, same⟩ := owned.owned other current own
        present attached (by simpa [load_cons] using alive)
      refine ⟨mq, ?_, kept, same⟩
      rw [opens.queues, if_neg]
      · exact there
      · rintro rfl
        rw [missing] at there
        simp at there
  · intro first second current another own present other attached again
    rcases opens.contextCases present with ⟨here, rfl⟩ | ⟨_, present⟩
    · rcases opens.contextCases other with ⟨there, _⟩ | ⟨_, other⟩
      · rw [here, there]
      · obtain rfl := Option.some.inj attached
        exact absurd (owned.bounded second another _ other again)
          (Nat.lt_irrefl _)
    · rcases opens.contextCases other with ⟨_, rfl⟩ | ⟨_, other⟩
      · obtain rfl := Option.some.inj again
        exact absurd (owned.bounded first current _ present attached)
          (Nat.lt_irrefl _)
      · exact owned.distinct first second current another own present other
          attached again
  · intro own mq present kept
    rcases opens.queueCases present with ⟨rfl, rfl⟩ | ⟨_, present⟩
    · refine ⟨context, { stored with queue := some node.nextQueue }, ?_, rfl,
        by simpa [load_cons] using unfreed⟩
      rw [opens.contexts, if_pos rfl]
    · obtain ⟨owner, current, there, attached, alive⟩ :=
        owned.owner own mq present kept
      refine ⟨owner, current, ?_, attached, by simpa [load_cons] using alive⟩
      rw [opens.contexts, if_neg]
      · exact there
      · rintro rfl
        obtain rfl := Option.some.inj (found.symm.trans there)
        rw [empty] at attached
        simp at attached
  · intro other current present unset
    rcases opens.contextCases present with ⟨_, rfl⟩ | ⟨different, present⟩
    · simp at unset
    · simpa [load_cons, Ne.symm different] using
        owned.unowned other current present unset
  · intro other current own present attached
    rw [opens.nextQueue]
    rcases opens.contextCases present with ⟨_, rfl⟩ | ⟨_, present⟩
    · obtain rfl := Option.some.inj attached
      exact Nat.lt_succ_self _
    · exact Nat.lt_succ_of_lt
        (owned.bounded other current own present attached)

include opens found in
private theorem OpensQueue.contextHandle_eq :
    next.contextHandle = node.contextHandle := by
  funext other
  rw [contextHandle, contextHandle, opens.contexts]
  by_cases here : other = context
  · rw [if_pos here, here, found]
  · rw [if_neg here]

include opens handled found in
/-- The new queue is the one under its handle. -/
theorem OpensQueue.handlesAgree
    (agree : node.HandlesAgree (load others (.creating context :: tokens))) :
    next.HandlesAgree (load others
      (.reference context :: .kept node.nextQueue :: tokens)) := by
  have known := (handled.known found).1
  constructor
  · rw [opens.contextHandle_eq found, opens.handles]
    exact agree.placed
  · rw [opens.handles]
    exact agree.several
  · intro first second current another present other equal nonzero
    rcases opens.contextCases present with ⟨rfl, rfl⟩ | ⟨_, present⟩
    · rcases opens.contextCases other with ⟨rfl, _⟩ | ⟨_, other⟩
      · rfl
      · exact agree.distinct first second stored another found other equal
          nonzero
    · rcases opens.contextCases other with ⟨rfl, rfl⟩ | ⟨_, other⟩
      · exact agree.distinct first second current stored present found equal
          nonzero
      · exact agree.distinct first second current another present other equal
          nonzero
  · intro own mq present
    rcases opens.queueCases present with ⟨_, rfl⟩ | ⟨_, present⟩
    · exact handled.nonzero
    · exact agree.nonzero own mq present
  · intro own mq other current present there equal
    rcases opens.queueCases present with ⟨rfl, rfl⟩ | ⟨_, present⟩
    · rcases opens.contextCases there with ⟨_, rfl⟩ | ⟨different, there⟩
      · rfl
      · have same := agree.distinct other context current stored there found
          (equal.trans known.symm) (by rw [equal]; exact handled.nonzero)
        exact absurd same different
    · rcases opens.contextCases there with ⟨_, rfl⟩ | ⟨_, there⟩
      · exact absurd (equal.symm.trans known) (handled.unused own mq present)
      · exact agree.queueOf own mq other current present there equal
  · intro other current own present unstarted registered attached
    rcases opens.contextCases present with ⟨_, rfl⟩ | ⟨_, present⟩
    · obtain rfl := Option.some.inj attached
      simp [load_cons]
    · rw [opens.handles] at registered
      have kept := agree.starting other current own present unstarted
        registered attached
      simp only [load_cons, reduceCtorEq, if_false] at kept ⊢
      omega

include opens handled found in
/-- The new queue belongs to its context, and its creator keeps it. -/
theorem OpensQueue.balanced
    (balanced : node.Balanced (load others (.creating context :: tokens))) :
    next.Balanced (load others
      (.reference context :: .kept node.nextQueue :: tokens)) := by
  have missing := balanced.queues.fresh node.nextQueue (Nat.le_refl _)
  have unfreed := (balanced.alive found
    (Or.inr (Or.inl (by simp [load_cons])))).2.2
  exact ⟨opens.contextsBalanced found balanced.contexts,
    opens.queuesBalanced balanced.queues,
    opens.queuesOwned handled found balanced.owned missing unfreed,
    opens.handlesAgree handled found balanced.agree⟩

include opens handled found in
theorem OpensQueue.evolves
    (balanced : node.Balanced (load others (.creating context :: tokens))) :
    Evolves node next others := by
  obtain ⟨known, empty⟩ := handled.known found
  constructor
  · intro other current _ present
    obtain ⟨later, there, _, init, same⟩ :=
      opens.gentleContext found present
    refine ⟨later, there, ?_, fun started => init.trans started⟩
    intro own attached
    by_cases here : other = context
    · rw [here] at present
      obtain rfl := Option.some.inj (found.symm.trans present)
      rw [empty] at attached
      simp at attached
    · rw [same here, attached]
  · intro other current creates present
    obtain ⟨later, there, _, _, same⟩ := opens.gentleContext found present
    obtain rfl := same (balanced.creator creates)
    exact ⟨later, there, rfl, rfl⟩
  · intro own mq _ present
    refine ⟨mq, ?_, rfl, id⟩
    rw [opens.queues, if_neg]
    · exact present
    · rintro rfl
      rw [balanced.queues.fresh _ (Nat.le_refl _)] at present
      simp at present
  · intro other _ outside inside
    rw [opens.handles] at inside
    exact outside inside
  · intro other given _ waiting
    refine ⟨⟨?_, ?_⟩, by rw [opens.handles]; exact waiting.seated⟩
    · intro third current present
      rcases opens.contextCases present with ⟨_, rfl⟩ | ⟨_, present⟩
      · exact waiting.unused.contexts context stored found
      · exact waiting.unused.contexts third current present
    · intro own mq present
      rcases opens.queueCases present with ⟨_, rfl⟩ | ⟨_, present⟩
      · have apart := waiting.unused.contexts context stored found
        rwa [known] at apart
      · exact waiting.unused.queues own mq present
  · intro other given creates further own mq present
    rcases opens.queueCases present with ⟨_, rfl⟩ | ⟨_, present⟩
    · obtain ⟨nonzero, ⟨current, there, otherKnown, _⟩, _⟩ := further
      intro same
      have createdHandle : handle = given := same
      have equal : stored.handle = current.handle := by
        rw [known, otherKnown, createdHandle]
      have one := balanced.agree.distinct context other stored current found
        there equal (by rw [known]; exact handled.nonzero)
      exact balanced.creator creates one.symm
    · exact further.unused own mq present

include opens in
theorem OpensQueue.has : next.Has context node.nextQueue := by
  refine ⟨{ stored with queue := some node.nextQueue }, ?_, rfl⟩
  rw [opens.contexts, if_pos rfl]

end CreateQueue

section Start

/-- A queue that its creator kept is in hand once its context has started. -/
theorem Balanced.handOver
    (balanced : node.Balanced (load others (.kept queue :: tokens)))
    (started : ∀ context stored, node.contexts.lookup context = some stored →
      stored.queue = some queue → node.handles.Registered context →
        stored.init = true) :
    node.Balanced (load others (.mailbox queue :: tokens)) := by
  have carried : ∀ token, token ≠ .kept queue → token ≠ .mailbox queue →
      load others (.mailbox queue :: tokens) token =
        load others (.kept queue :: tokens) token := by
    intro token first second
    simp [load_cons, Ne.symm first, Ne.symm second]
  refine ⟨?_, ⟨?_, ?_, ?_, balanced.queues.fresh⟩, ?_, ?_⟩
  · refine balanced.contexts.congr rfl rfl rfl ?_
    intro context
    exact ⟨carried _ (by simp) (by simp), carried _ (by simp) (by simp),
      carried _ (by simp) (by simp), carried _ (by simp) (by simp)⟩
  · intro other missing
    have none := balanced.queues.absent other missing
    simp only [load_cons, reduceCtorEq, if_false, Token.mailbox.injEq,
      Token.kept.injEq] at none ⊢
    omega
  · intro other mq present
    have count := balanced.queues.inHands other mq present
    simp only [load_cons, reduceCtorEq, if_false, Token.mailbox.injEq,
      Token.kept.injEq] at count ⊢
    omega
  · intro other mq present kept
    apply balanced.queues.keptMarked other mq present
    simp only [load_cons, reduceCtorEq, if_false] at kept ⊢
    omega
  · refine balanced.owned.congr (SameLabels.refl node) ?_ ?_
    · intro context
      exact carried _ (by simp) (by simp)
    · intro context
      rw [carried _ (by simp) (by simp)]
  · refine ⟨balanced.agree.placed, balanced.agree.several,
      balanced.agree.distinct, balanced.agree.nonzero,
      balanced.agree.queueOf, ?_⟩
    intro context stored own present unstarted registered attached
    have kept := balanced.agree.starting context stored own present unstarted
      registered attached
    by_cases same : own = queue
    · rw [same] at attached
      have init := started context stored present attached registered
      rw [unstarted] at init
      simp at init
    · rw [carried _ (by simp [same]) (by simp)]
      exact kept

/-- A service has been initialised, and the creator lets go of the queue. -/
theorem Balanced.setInit
    (balanced : node.Balanced
      (load others (.reference context :: .kept queue :: tokens)))
    (found : node.contexts.lookup context = some stored)
    (attached : stored.queue = some queue) :
    (node.setContext context { stored with init := true }).Balanced
        (load others (.reference context :: .mailbox queue :: tokens)) ∧
      Gentle node (node.setContext context { stored with init := true }) := by
  have same : SameLabels node
      (node.setContext context { stored with init := true }) :=
    SameLabels.of_setContext found rfl (fun _ => rfl)
  refine ⟨?_, same.gentle⟩
  have started := balanced.setContext found
    (@rfl _ (contextLabel { stored with init := true })) (fun _ => rfl) rfl
  rw [load_perm others (List.Perm.swap _ _ tokens)] at started ⊢
  apply started.handOver
  intro other current present own registered
  rw [lookup_setContext] at present
  split at present
  · obtain rfl := Option.some.inj present
    rfl
  · rename_i different
    exact absurd (balanced.owned.distinct other context current stored queue
      present found own attached) different

end Start

end Node

end Crynet.Skynet
