import Crynet.Skynet.Evolution

/-!
# Steps that keep the balance

How each kind of change to the memory of a node moves the balance: a reference
is taken or given up, a queue is linked into the global queue or taken out of
it, a mark is set or cleared.  What a change does not touch carries over by one
rule for each part of the balance.
-/

namespace Crynet.Skynet

open CallStacks

namespace Node

variable {node next : Node} {held later : Token → Nat}

/-- What identifies a context: its handle and its queue. -/
def contextLabel (stored : SkynetContext) : UInt32 × Option QueueRef :=
  (stored.handle, stored.queue)

/-- What identifies a queue: its handle and whether it is to be released. -/
def queueLabel (mq : MessageQueue) : UInt32 × Bool :=
  (mq.handle, mq.released)

/-- Two nodes with the same contexts, queues and handles, whatever their counts,
flags and messages. -/
structure SameLabels (node next : Node) : Prop where
  contexts : ∀ context,
    (next.contexts.lookup context).map contextLabel =
      (node.contexts.lookup context).map contextLabel
  inits : ∀ context stored changed,
    node.contexts.lookup context = some stored →
    next.contexts.lookup context = some changed →
      stored.init = true → changed.init = true
  queues : ∀ queue, (next.queues.lookup queue).map queueLabel =
    (node.queues.lookup queue).map queueLabel
  handles : next.handles = node.handles
  nextQueue : next.nextQueue = node.nextQueue

namespace SameLabels

theorem refl (node : Node) : SameLabels node node := by
  refine ⟨fun _ => rfl, ?_, fun _ => rfl, rfl, rfl⟩
  intro context stored changed found again init
  obtain rfl := Option.some.inj (found.symm.trans again)
  exact init

theorem of_contexts (contexts : next.contexts = node.contexts)
    (queues : ∀ queue, (next.queues.lookup queue).map queueLabel =
      (node.queues.lookup queue).map queueLabel)
    (handles : next.handles = node.handles)
    (nextQueue : next.nextQueue = node.nextQueue) : SameLabels node next := by
  refine ⟨fun _ => by rw [contexts], ?_, queues, handles, nextQueue⟩
  rw [contexts]
  exact (refl node).inits

/-- Every context was there before. -/
theorem context (same : SameLabels node next) {context : ContextRef}
    {stored : SkynetContext}
    (found : next.contexts.lookup context = some stored) :
    ∃ older, node.contexts.lookup context = some older ∧
      older.handle = stored.handle ∧ older.queue = stored.queue ∧
      (older.init = true → stored.init = true) := by
  have equal := same.contexts context
  rw [found, Option.map_some] at equal
  obtain ⟨older, olderFound, labels⟩ := Option.map_eq_some_iff.mp equal.symm
  simp only [contextLabel, Prod.mk.injEq] at labels
  exact ⟨older, olderFound, labels.1, labels.2,
    same.inits context older stored olderFound found⟩

/-- Every context is still there. -/
theorem contextKept (same : SameLabels node next) {context : ContextRef}
    {stored : SkynetContext}
    (found : node.contexts.lookup context = some stored) :
    ∃ changed, next.contexts.lookup context = some changed ∧
      changed.handle = stored.handle ∧ changed.queue = stored.queue ∧
      (stored.init = true → changed.init = true) := by
  have equal := same.contexts context
  rw [found, Option.map_some] at equal
  obtain ⟨changed, present, labels⟩ := Option.map_eq_some_iff.mp equal
  simp only [contextLabel, Prod.mk.injEq] at labels
  exact ⟨changed, present, labels.1, labels.2,
    same.inits context stored changed found present⟩

/-- Every queue was there before. -/
theorem queue (same : SameLabels node next) {queue : QueueRef}
    {mq : MessageQueue} (found : next.queues.lookup queue = some mq) :
    ∃ older, node.queues.lookup queue = some older ∧
      older.handle = mq.handle ∧ older.released = mq.released := by
  have equal := same.queues queue
  rw [found, Option.map_some] at equal
  obtain ⟨older, olderFound, labels⟩ := Option.map_eq_some_iff.mp equal.symm
  simp only [queueLabel, Prod.mk.injEq] at labels
  exact ⟨older, olderFound, labels⟩

/-- Every queue is still there. -/
theorem queueKept (same : SameLabels node next) {queue : QueueRef}
    {mq : MessageQueue} (found : node.queues.lookup queue = some mq) :
    ∃ changed, next.queues.lookup queue = some changed ∧
      changed.handle = mq.handle ∧ changed.released = mq.released := by
  have equal := same.queues queue
  rw [found, Option.map_some] at equal
  obtain ⟨changed, present, labels⟩ := Option.map_eq_some_iff.mp equal
  simp only [queueLabel, Prod.mk.injEq] at labels
  exact ⟨changed, present, labels⟩

theorem contextHandle (same : SameLabels node next) :
    next.contextHandle = node.contextHandle := by
  funext context
  cases found : next.contexts.lookup context with
  | none =>
      have equal := same.contexts context
      rw [found, Option.map_none] at equal
      have older := Option.map_eq_none_iff.mp equal.symm
      simp only [Node.contextHandle, found, older]
  | some stored =>
      obtain ⟨older, olderFound, handle, _⟩ := same.context found
      simp only [Node.contextHandle, found, olderFound, handle]

theorem gentle (same : SameLabels node next) : Gentle node next := by
  refine ⟨?_, ?_, ?_, ?_, by rw [same.handles], ?_, ?_⟩
  · intro context stored found
    exact same.contextKept found
  · intro context later found _
    obtain ⟨older, olderFound, handle, _⟩ := same.context found
    exact ⟨older, olderFound, handle⟩
  · intro queue mq found
    obtain ⟨later, laterFound, handle, released⟩ := same.queueKept found
    exact ⟨later, laterFound, handle, fun mark => by rw [released, mark]⟩
  · intro queue later found
    obtain ⟨older, olderFound, handle, _⟩ := same.queue found
    exact ⟨older, olderFound, handle⟩
  · intro index context occupied
    rwa [same.handles] at occupied
  · intro index context occupied _
    rwa [same.handles]

end SameLabels

section Unchanged

theorem ContextsBalanced.congr (balanced : node.ContextsBalanced held)
    (contexts : next.contexts = node.contexts)
    (handles : next.handles = node.handles)
    (counter : next.nextContext = node.nextContext)
    (tokens : ∀ context,
      later (.reference context) = held (.reference context) ∧
      later (.deleting context) = held (.deleting context) ∧
      later (.freeing context) = held (.freeing context) ∧
      later (.creating context) = held (.creating context)) :
    next.ContextsBalanced later := by
  obtain ⟨absent, counted, creating, fresh⟩ := balanced
  constructor
  · intro context missing
    obtain ⟨reference, deleting, freed, created⟩ := tokens context
    rw [contexts] at missing
    rw [reference, deleting, freed, created, handles]
    exact absent context missing
  · intro context stored found
    obtain ⟨reference, deleting, freed, created⟩ := tokens context
    rw [contexts] at found
    obtain ⟨ref, deleted⟩ := counted context stored found
    constructor
    · rwa [reference, created, handles]
    · rwa [deleting, freed]
  · intro context
    obtain ⟨_, _, _, created⟩ := tokens context
    rw [created]
    exact creating context
  · intro context above
    rw [contexts]
    exact fresh context (counter ▸ above)

theorem QueuesBalanced.congr (balanced : node.QueuesBalanced held)
    (queues : next.queues = node.queues)
    (globalQueue : next.globalQueue = node.globalQueue)
    (counter : next.nextQueue = node.nextQueue)
    (tokens : ∀ queue, later (.mailbox queue) = held (.mailbox queue) ∧
      later (.kept queue) = held (.kept queue)) :
    next.QueuesBalanced later := by
  obtain ⟨absent, inHands, keptMarked, fresh⟩ := balanced
  constructor
  · intro queue missing
    rw [queues] at missing
    rw [(tokens queue).1, (tokens queue).2, globalQueue]
    exact absent queue missing
  · intro queue mq found
    rw [queues] at found
    rw [(tokens queue).1, (tokens queue).2, globalQueue]
    exact inHands queue mq found
  · intro queue mq found held
    rw [queues] at found
    rw [(tokens queue).2] at held
    exact keptMarked queue mq found held
  · intro queue above
    rw [queues]
    exact fresh queue (counter ▸ above)

theorem QueuesOwned.congr (owned : node.QueuesOwned held)
    (same : SameLabels node next)
    (freeing : ∀ context, later (.freeing context) = held (.freeing context))
    (creating : ∀ context, held (.creating context) ≤ later (.creating context)) :
    next.QueuesOwned later := by
  obtain ⟨owned, distinct, owner, unowned, bounded⟩ := owned
  constructor
  · intro context stored queue found own alive
    obtain ⟨older, olderFound, handle, olderOwn, _⟩ := same.context found
    rw [freeing] at alive
    obtain ⟨mq, present, kept, known⟩ :=
      owned context older queue olderFound (olderOwn.trans own) alive
    obtain ⟨current, currentFound, sameHandle, released⟩ :=
      same.queueKept present
    exact ⟨current, currentFound, released.trans kept,
      sameHandle.trans (known.trans handle)⟩
  · intro context other stored otherStored queue found otherFound own otherOwn
    obtain ⟨older, olderFound, _, olderOwn, _⟩ := same.context found
    obtain ⟨second, secondFound, _, secondOwn, _⟩ := same.context otherFound
    exact distinct context other older second queue olderFound secondFound
      (olderOwn.trans own) (secondOwn.trans otherOwn)
  · intro queue mq found kept
    obtain ⟨older, olderFound, _, released⟩ := same.queue found
    obtain ⟨context, stored, present, own, alive⟩ :=
      owner queue older olderFound (released.trans kept)
    obtain ⟨current, currentFound, _, sameOwn, _⟩ := same.contextKept present
    exact ⟨context, current, currentFound, sameOwn.trans own, by
      rw [freeing, alive]⟩
  · intro context stored found none
    obtain ⟨older, olderFound, _, olderOwn, _⟩ := same.context found
    exact Nat.lt_of_lt_of_le
      (unowned context older olderFound (olderOwn.trans none))
      (creating context)
  · intro context stored queue found own
    obtain ⟨older, olderFound, _, olderOwn, _⟩ := same.context found
    rw [same.nextQueue]
    exact bounded context older queue olderFound (olderOwn.trans own)

theorem HandlesAgree.congr (agree : node.HandlesAgree held)
    (same : SameLabels node next)
    (kept : ∀ queue, held (.kept queue) ≤ later (.kept queue)) :
    next.HandlesAgree later := by
  obtain ⟨placed, several, distinct, nonzero, queueOf, starting⟩ := agree
  constructor
  · rw [same.contextHandle, same.handles]
    exact placed
  · rw [same.handles]
    exact several
  · intro context other stored otherStored found otherFound equal nonzero
    obtain ⟨older, olderFound, handle, _⟩ := same.context found
    obtain ⟨second, secondFound, secondHandle, _⟩ := same.context otherFound
    exact distinct context other older second olderFound secondFound
      (by rw [handle, secondHandle, equal]) (by rwa [handle])
  · intro queue mq found
    obtain ⟨older, olderFound, handle, _⟩ := same.queue found
    rw [← handle]
    exact nonzero queue older olderFound
  · intro queue mq context stored found contextFound equal
    obtain ⟨older, olderFound, handle, _⟩ := same.queue found
    obtain ⟨second, secondFound, secondHandle, own, _⟩ :=
      same.context contextFound
    rw [← own]
    exact queueOf queue older context second olderFound secondFound
      (by rw [secondHandle, handle, equal])
  · intro context stored queue found unstarted registered own
    obtain ⟨older, olderFound, _, olderOwn, init⟩ := same.context found
    rw [same.handles] at registered
    have olderUnstarted : older.init = false := by
      cases started : older.init with
      | false => rfl
      | true => rw [init started] at unstarted; exact unstarted
    exact Nat.lt_of_lt_of_le
      (starting context older queue olderFound olderUnstarted registered
        (olderOwn.trans own))
      (kept queue)

end Unchanged

section Changed

variable {context : ContextRef} {stored changed : SkynetContext}
variable {queue : QueueRef} {mq marked : MessageQueue}

/-- The contexts are balanced again when the one that changed is. -/
theorem ContextsBalanced.change (balanced : node.ContextsBalanced held)
    (found : node.contexts.lookup context = some stored)
    (contexts : ∀ other, next.contexts.lookup other =
      if other = context then some changed else node.contexts.lookup other)
    (handles : next.handles = node.handles)
    (counter : next.nextContext = node.nextContext)
    (elsewhere : ∀ other, other ≠ context →
      later (.reference other) = held (.reference other) ∧
      later (.deleting other) = held (.deleting other) ∧
      later (.freeing other) = held (.freeing other) ∧
      later (.creating other) = held (.creating other))
    (here : next.Counted later context changed)
    (creating : later (.creating context) ≤ 1) :
    next.ContextsBalanced later := by
  constructor
  · intro other missing
    rw [contexts] at missing
    split at missing
    · simp at missing
    · rename_i different
      obtain ⟨reference, deleting, freed, created⟩ := elsewhere other different
      rw [reference, deleting, freed, created, handles]
      exact balanced.absent other missing
  · intro other current present
    rw [contexts] at present
    split at present
    · rename_i same
      obtain rfl := Option.some.inj present
      rw [same]
      exact here
    · rename_i different
      obtain ⟨reference, deleting, freed, created⟩ := elsewhere other different
      obtain ⟨ref, deleted⟩ := balanced.counted other current present
      constructor
      · rwa [reference, created, handles]
      · rwa [deleting, freed]
  · intro other
    by_cases same : other = context
    · rw [same]
      exact creating
    · obtain ⟨_, _, _, created⟩ := elsewhere other same
      rw [created]
      exact balanced.creating other
  · intro other above
    have missing := balanced.fresh other (counter ▸ above)
    rw [contexts, if_neg]
    · exact missing
    · rintro rfl
      rw [found] at missing
      simp at missing

/-- The queues are balanced again when the one that changed is. -/
theorem QueuesBalanced.change (balanced : node.QueuesBalanced held)
    (found : node.queues.lookup queue = some mq)
    (queues : ∀ other, next.queues.lookup other =
      if other = queue then some marked else node.queues.lookup other)
    (counter : next.nextQueue = node.nextQueue)
    (elsewhere : ∀ other, other ≠ queue →
      later (.mailbox other) = held (.mailbox other) ∧
      later (.kept other) = held (.kept other) ∧
      next.globalQueue.count other = node.globalQueue.count other)
    (here : later (.mailbox queue) + later (.kept queue) +
      next.globalQueue.count queue = hands marked)
    (keptHere : 0 < later (.kept queue) → marked.inGlobal = true) :
    next.QueuesBalanced later := by
  constructor
  · intro other missing
    rw [queues] at missing
    split at missing
    · simp at missing
    · rename_i different
      obtain ⟨mailbox, kept, listed⟩ := elsewhere other different
      rw [mailbox, kept, listed]
      exact balanced.absent other missing
  · intro other current present
    rw [queues] at present
    split at present
    · rename_i same
      obtain rfl := Option.some.inj present
      rw [same]
      exact here
    · rename_i different
      obtain ⟨mailbox, kept, listed⟩ := elsewhere other different
      rw [mailbox, kept, listed]
      exact balanced.inHands other current present
  · intro other current present carried
    rw [queues] at present
    split at present
    · rename_i same
      obtain rfl := Option.some.inj present
      exact keptHere (same ▸ carried)
    · rename_i different
      rw [(elsewhere other different).2.1] at carried
      exact balanced.keptMarked other current present carried
  · intro other above
    have missing := balanced.fresh other (counter ▸ above)
    rw [queues, if_neg]
    · exact missing
    · rintro rfl
      rw [found] at missing
      simp at missing

theorem SameLabels.of_setContext
    (found : node.contexts.lookup context = some stored)
    (label : contextLabel changed = contextLabel stored)
    (init : stored.init = true → changed.init = true) :
    SameLabels node (node.setContext context changed) := by
  refine ⟨?_, ?_, fun _ => rfl, rfl, rfl⟩
  · intro other
    rw [lookup_setContext]
    split
    · rename_i same
      rw [same, found, Option.map_some, Option.map_some, label]
    · rfl
  · intro other current later present there
    rw [lookup_setContext] at there
    split at there
    · rename_i same
      rw [same] at present
      obtain rfl := Option.some.inj (found.symm.trans present)
      obtain rfl := Option.some.inj there
      exact init
    · obtain rfl := Option.some.inj (present.symm.trans there)
      exact id

end Changed

end Node

end Crynet.Skynet
