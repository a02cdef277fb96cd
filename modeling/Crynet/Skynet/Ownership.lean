import Crynet.Skynet.HandleTable
import Crynet.Skynet.SkynetServer

/-!
# Who owns what in skynet

The references, the queues and the unfinished creations that the frames of all
threads hold, as tokens, and what the memory of a node must agree with them: a
reference count is the number of holders, a queue that is marked is in the
global queue or in one pair of hands, a queue outlives its context, and a handle
leads from a queue to the context it belongs to.
-/

namespace Crynet.Skynet

open CallStacks

inductive Token where
  | reference (context : ContextRef)
  | deleting (context : ContextRef)
  | freeing (context : ContextRef)
  | creating (context : ContextRef)
  | mailbox (queue : QueueRef)
  | kept (queue : QueueRef)
  deriving DecidableEq, Repr

/-- What a frame holds. -/
def Frame.carries : Frame → List Token
  | .pushQueue context _ => [.reference context]
  | .contextRelease context => [.reference context]
  | .instanceRelease context => [.deleting context]
  | .markRelease context => [.deleting context]
  | .freeContext context => [.freeing context]
  | .endlessSet context => [.reference context]
  | .registerHandle context => [.creating context, .reference context]
  | .storeHandle context _ => [.creating context]
  | .createQueue context _ => [.creating context]
  | .contextInc context queue => [.reference context, .kept queue]
  | .moduleInit context queue => [.reference context, .kept queue]
  | .setInit context queue => [.reference context, .kept queue]
  | .launch context queue => [.reference context, .mailbox queue]
  | .initFailed context queue => [.reference context, .kept queue]
  | .initRetire _ queue => [.kept queue]
  | .worker _ (some queue) => [.mailbox queue]
  | .dispatchGrab _ queue => [.mailbox queue]
  | .dispatchPop turn => [.reference turn.context, .mailbox turn.queue]
  | .dispatchLength turn _ => [.reference turn.context, .mailbox turn.queue]
  | .dispatchCall turn _ => [.reference turn.context, .mailbox turn.queue]
  | .callback turn => [.reference turn.context, .mailbox turn.queue]
  | .dispatchNext turn => [.reference turn.context, .mailbox turn.queue]
  | .dispatchEnd turn => [.reference turn.context, .mailbox turn.queue]
  | .dispatchPushBack turn next =>
      [.reference turn.context, .mailbox turn.queue, .mailbox next]
  | .mqRelease queue _ => [.mailbox queue]
  | .dropQueue queue _ => [.mailbox queue]
  | .freeQueue queue => [.mailbox queue]
  | _ => []

namespace Node

/-- The count of a context is the number of its holders, the handle table among
them, and the one who took it to zero deletes it. -/
structure Counted (node : Node) (held : Token → Nat) (context : ContextRef)
    (stored : SkynetContext) : Prop where
  ref : (node.handles.Registered context ∧ stored.ref =
      held (.reference context) + held (.creating context) + 1) ∨
    (¬node.handles.Registered context ∧ stored.ref =
      held (.reference context) + held (.creating context))
  deleted : (stored.ref = 0 ∧
      held (.deleting context) + held (.freeing context) = 1) ∨
    (0 < stored.ref ∧
      held (.deleting context) + held (.freeing context) = 0)

/-- Contexts and their holders. -/
structure ContextsBalanced (node : Node) (held : Token → Nat) : Prop where
  absent : ∀ context, node.contexts.lookup context = none →
    held (.reference context) = 0 ∧ held (.creating context) = 0 ∧
      held (.deleting context) + held (.freeing context) = 0 ∧
      ¬node.handles.Registered context
  counted : ∀ context stored, node.contexts.lookup context = some stored →
    node.Counted held context stored
  creating : ∀ context, held (.creating context) ≤ 1
  fresh : ∀ context, node.nextContext ≤ context →
    node.contexts.lookup context = none

/-- How many hands, the global queue among them, a queue should be in. -/
def hands (mq : MessageQueue) : Nat :=
  if mq.inGlobal = true ∨ mq.released = true then 1 else 0

/-- Queues and the hands they are in. -/
structure QueuesBalanced (node : Node) (held : Token → Nat) : Prop where
  absent : ∀ queue, node.queues.lookup queue = none →
    held (.mailbox queue) + held (.kept queue) +
      node.globalQueue.count queue = 0
  inHands : ∀ queue mq, node.queues.lookup queue = some mq →
    held (.mailbox queue) + held (.kept queue) +
      node.globalQueue.count queue = hands mq
  keptMarked : ∀ queue mq, node.queues.lookup queue = some mq →
    0 < held (.kept queue) → mq.inGlobal = true
  fresh : ∀ queue, node.nextQueue ≤ queue → node.queues.lookup queue = none

/-- Every context has its own queue, which lives until the context is gone. -/
structure QueuesOwned (node : Node) (held : Token → Nat) : Prop where
  owned : ∀ context stored queue,
    node.contexts.lookup context = some stored → stored.queue = some queue →
    held (.freeing context) = 0 →
      ∃ mq, node.queues.lookup queue = some mq ∧ mq.released = false ∧
        mq.handle = stored.handle
  distinct : ∀ context other stored otherStored queue,
    node.contexts.lookup context = some stored →
    node.contexts.lookup other = some otherStored →
    stored.queue = some queue → otherStored.queue = some queue →
      context = other
  owner : ∀ queue mq, node.queues.lookup queue = some mq →
    mq.released = false →
      ∃ context stored, node.contexts.lookup context = some stored ∧
        stored.queue = some queue ∧ held (.freeing context) = 0
  unowned : ∀ context stored, node.contexts.lookup context = some stored →
    stored.queue = none → 0 < held (.creating context)
  bounded : ∀ context stored queue,
    node.contexts.lookup context = some stored → stored.queue = some queue →
      queue < node.nextQueue

/-- Handles lead to their contexts and queues. -/
structure HandlesAgree (node : Node) (held : Token → Nat) : Prop where
  placed : HandleStorage.Placed node.contextHandle node.handles
  several : 4 ≤ node.handles.slotSize
  distinct : ∀ context other stored otherStored,
    node.contexts.lookup context = some stored →
    node.contexts.lookup other = some otherStored →
    stored.handle = otherStored.handle → stored.handle ≠ 0 →
      context = other
  nonzero : ∀ queue mq, node.queues.lookup queue = some mq → mq.handle ≠ 0
  queueOf : ∀ queue mq context stored,
    node.queues.lookup queue = some mq →
    node.contexts.lookup context = some stored →
    stored.handle = mq.handle → stored.queue = some queue
  starting : ∀ context stored queue,
    node.contexts.lookup context = some stored → stored.init = false →
    node.handles.Registered context → stored.queue = some queue →
      0 < held (.kept queue)

/-- The memory of a node agrees with what the frames of its threads hold. -/
structure Balanced (node : Node) (held : Token → Nat) : Prop where
  contexts : node.ContextsBalanced held
  queues : node.QueuesBalanced held
  owned : node.QueuesOwned held
  agree : node.HandlesAgree held

/-- The context is there and has its queue. -/
def Has (node : Node) (context : ContextRef) (queue : QueueRef) : Prop :=
  ∃ stored, node.contexts.lookup context = some stored ∧
    stored.queue = some queue

/-- A handle that nothing is known under. -/
structure Unused (node : Node) (handle : UInt32) : Prop where
  contexts : ∀ context stored, node.contexts.lookup context = some stored →
    stored.handle ≠ handle
  queues : ∀ queue mq, node.queues.lookup queue = some mq →
    mq.handle ≠ handle

/-- A creation that has registered its context but not stored the handle. -/
structure Waiting (node : Node) (context : ContextRef) (handle : UInt32) :
    Prop where
  nonzero : handle ≠ 0
  stored : ∃ stored, node.contexts.lookup context = some stored ∧
    stored.handle = 0 ∧ stored.queue = none
  seated : node.handles.slot
    (HandleStorage.hash node.handles.slotSize handle) = some context
  unused : node.Unused handle

/-- A creation that has stored the handle but not created the queue. -/
structure Handled (node : Node) (context : ContextRef) (handle : UInt32) :
    Prop where
  nonzero : handle ≠ 0
  stored : ∃ stored, node.contexts.lookup context = some stored ∧
    stored.handle = handle ∧ stored.queue = none
  unused : ∀ queue mq, node.queues.lookup queue = some mq →
    mq.handle ≠ handle

/-- What a frame knows of the node. -/
def Fits (node : Node) : Frame → Prop
  | .pushQueue context _ => ∃ queue, node.Has context queue
  | .registerHandle context =>
      ¬node.handles.Registered context ∧
        ∃ stored, node.contexts.lookup context = some stored ∧
          stored.handle = 0 ∧ stored.queue = none
  | .storeHandle context handle => node.Waiting context handle
  | .createQueue context handle => node.Handled context handle
  | .contextInc context queue => node.Has context queue
  | .moduleInit context queue => node.Has context queue
  | .setInit context queue => node.Has context queue
  | .launch context queue => node.Has context queue
  | .initFailed context queue => node.Has context queue
  | .initRetire handle queue =>
      ∃ mq, node.queues.lookup queue = some mq ∧ mq.handle = handle
  | .dispatchPop turn | .dispatchLength turn _ | .dispatchCall turn _
  | .callback turn | .dispatchNext turn | .dispatchEnd turn
  | .dispatchPushBack turn _ =>
      ∃ stored, node.contexts.lookup turn.context = some stored ∧
        stored.queue = some turn.queue ∧ stored.init = true
  | .mqRelease queue handle =>
      ∃ mq, node.queues.lookup queue = some mq ∧ mq.handle = handle
  | .dropQueue queue handle =>
      ∃ mq, node.queues.lookup queue = some mq ∧ mq.handle = handle ∧
        mq.released = true
  | .freeQueue queue =>
      ∃ mq, node.queues.lookup queue = some mq ∧ mq.released = true
  | .handleRetire handle => handle ≠ 0
  | .pushGrab handle _ => handle ≠ 0
  | .endlessGrab handle => handle ≠ 0
  | _ => True

end Node

namespace Runtime

/-- The runtime is as it should be. -/
abbrev Sound (runtime : Runtime) : Prop :=
  CallStacks.Sound Frame.carries Node.Balanced Node.Fits runtime

end Runtime

end Crynet.Skynet
