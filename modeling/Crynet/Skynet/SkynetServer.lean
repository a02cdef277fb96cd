import Crynet.Foundation.AssociationMap
import Crynet.Foundation.CallStacks
import Crynet.Skynet.SkynetHandle
import Crynet.Skynet.SkynetMq

/-!
# The services of skynet and the threads that run them

The shared state of a node and the call stacks of its threads.  Every frame
stands before one atomic action of the source: a section under a lock, an atomic
counter, or a store that another thread may read.  Code outside the runtime (the
callback of a service, its initialisation and release, the timer, socket and
monitor threads) calls the runtime in any order.  A context or a queue that is
not allocated cannot be read, and a failed assertion stops the step.

The messages `skynet_error` sends to the logger are calls like any other,
messages to other nodes are not modelled, and the counts of references, contexts
and messages are numbers without a bound.
-/

namespace Crynet.Skynet

abbrev ContextRef := Nat
abbrev QueueRef := Nat

/-- `struct skynet_context`; the queue is not there until it is created. -/
structure SkynetContext where
  handle : UInt32
  ref : Int
  queue : Option QueueRef
  cb : Bool
  init : Bool
  endless : Bool
  messageCount : Nat
  deriving DecidableEq, Repr

/-- What happened to the messages, which no step reads. -/
inductive Event where
  | pushed (queue : QueueRef) (message : SkynetMessage)
  | called (queue : QueueRef) (message : SkynetMessage)
  | ignored (queue : QueueRef) (message : SkynetMessage)
  | dropped (queue : QueueRef) (message : SkynetMessage)
  deriving DecidableEq, Repr

/-- The memory and the globals of a node. -/
structure Node where
  contexts : AList (fun _ : ContextRef => SkynetContext)
  queues : AList (fun _ : QueueRef => MessageQueue)
  handles : HandleStorage ContextRef
  globalQueue : List QueueRef
  total : Int
  nextContext : ContextRef
  nextQueue : QueueRef
  history : List Event

/-- The locals of one `skynet_context_message_dispatch`. -/
structure Turn where
  weight : Int
  queue : QueueRef
  context : ContextRef
  index : Nat
  count : Nat
  deriving DecidableEq, Repr

inductive Frame where
  | pushGrab (handle : UInt32) (message : SkynetMessage)
  | pushQueue (context : ContextRef) (message : SkynetMessage)
  | contextRelease (context : ContextRef)
  | instanceRelease (context : ContextRef)
  | markRelease (context : ContextRef)
  | freeContext (context : ContextRef)
  | contextDec
  | handleRetire (handle : UInt32)
  | retireAll (index : Nat) (found : Nat)
  | endlessGrab (handle : UInt32)
  | endlessSet (context : ContextRef)
  | registerHandle (context : ContextRef)
  | storeHandle (context : ContextRef) (handle : UInt32)
  | createQueue (context : ContextRef) (handle : UInt32)
  | contextInc (context : ContextRef) (queue : QueueRef)
  | moduleInit (context : ContextRef) (queue : QueueRef)
  | setInit (context : ContextRef) (queue : QueueRef)
  | launch (context : ContextRef) (queue : QueueRef)
  | initFailed (context : ContextRef) (queue : QueueRef)
  | initRetire (handle : UInt32) (queue : QueueRef)
  | worker (weight : Int) (queue : Option QueueRef)
  | dispatchGrab (weight : Int) (queue : QueueRef)
  | dispatchPop (turn : Turn)
  | dispatchLength (turn : Turn) (message : SkynetMessage)
  | dispatchCall (turn : Turn) (message : SkynetMessage)
  | callback (turn : Turn)
  | dispatchNext (turn : Turn)
  | dispatchEnd (turn : Turn)
  | dispatchPushBack (turn : Turn) (next : QueueRef)
  | mqRelease (queue : QueueRef) (handle : UInt32)
  | dropQueue (queue : QueueRef) (handle : UInt32)
  | freeQueue (queue : QueueRef)
  | external
  deriving DecidableEq, Repr

abbrev ptypeError : UInt64 := 7
abbrev messageTypeShift : UInt64 := 56

namespace Node

/-- A node after the `skynet_*_init` functions. -/
def init (harbor : UInt32) : Node :=
  { contexts := ∅
    queues := ∅
    handles := HandleStorage.init harbor
    globalQueue := []
    total := 0
    nextContext := 0
    nextQueue := 0
    history := [] }

def context (node : Node) (context : ContextRef) :
    Except Fault SkynetContext :=
  match node.contexts.lookup context with
  | some found => .ok found
  | none => .error .dangling

def queue (node : Node) (queue : QueueRef) : Except Fault MessageQueue :=
  match node.queues.lookup queue with
  | some found => .ok found
  | none => .error .dangling

/-- `skynet_context_handle`. -/
def contextHandle (node : Node) (context : ContextRef) :
    Except Fault UInt32 :=
  match node.contexts.lookup context with
  | some found => .ok found.handle
  | none => .error .dangling

def setContext (node : Node) (context : ContextRef) (stored : SkynetContext) :
    Node :=
  { node with contexts := node.contexts.insert context stored }

def setQueue (node : Node) (queue : QueueRef) (stored : MessageQueue) : Node :=
  { node with queues := node.queues.insert queue stored }

def record (node : Node) (event : Event) : Node :=
  { node with history := node.history ++ [event] }

/-- `skynet_globalmq_push`.  A queue that is already linked breaks the
assertion, or, as the tail, would be linked to itself. -/
def globalmqPush (node : Node) (queue : QueueRef) : Except Fault Node := do
  let _ ← node.queue queue
  let _ ← node.queue (node.globalQueue.getLast?.getD queue)
  if queue ∈ node.globalQueue then
    .error .assertion
  else
    .ok { node with globalQueue := node.globalQueue ++ [queue] }

/-- `skynet_globalmq_pop`. -/
def globalmqPop (node : Node) : Except Fault (Option QueueRef × Node) :=
  match node.globalQueue with
  | [] => .ok (none, node)
  | first :: rest => do
      let _ ← node.queue first
      .ok (some first, { node with globalQueue := rest })

/-- `skynet_handle_grab`. -/
def handleGrab (node : Node) (handle : UInt32) :
    Except Fault (Option ContextRef × Node) := do
  let found ← node.handles.lookup node.contextHandle handle
  match found with
  | none => .ok (none, node)
  | some context =>
      let stored ← node.context context
      .ok (some context,
        node.setContext context { stored with ref := stored.ref + 1 })

/-- The queue of a context, which must have been created. -/
def contextQueue (node : Node) (context : ContextRef) :
    Except Fault QueueRef := do
  let stored ← node.context context
  match stored.queue with
  | some queue => .ok queue
  | none => .error .dangling

/-- `skynet_mq_push`. -/
def mqPush (node : Node) (queue : QueueRef) (message : SkynetMessage) :
    Except Fault Node := do
  let mq ← node.queue queue
  if fits : mq.Overflows then
    .error .overflow
  else
    let pushed := mq.push message fits
    let node := (node.setQueue queue pushed.1).record (.pushed queue message)
    if pushed.2 then node.globalmqPush queue else .ok node

/-- `skynet_mq_mark_release`. -/
def mqMarkRelease (node : Node) (queue : QueueRef) : Except Fault Node := do
  let mq ← node.queue queue
  if mq.released then
    .error .assertion
  else
    let marked := mq.markRelease
    let node := node.setQueue queue marked.1
    if marked.2 then node.globalmqPush queue else .ok node

/-- `skynet_harbor_message_isremote`, for the harbor of this node. -/
def isRemote (node : Node) (handle : UInt32) : Bool :=
  let harbor := handle &&& ~~~handleMask
  harbor ≠ node.handles.harbor && harbor ≠ 0

/-- The call that `drop_message` makes for a dropped message: an error to its
source, if that is a service of this node. -/
def dropMessage (node : Node) (handle : UInt32) (message : SkynetMessage) :
    List Frame :=
  if message.source = 0 ∨ node.isRemote message.source = true then
    []
  else
    [.pushGrab message.source
      { source := handle
        session := message.session
        data := none
        sz := ptypeError <<< messageTypeShift }]

end Node

namespace Frame

/-- The frames of code outside the runtime, which may call it. -/
def callsRuntime : Frame → Bool
  | .instanceRelease _ => true
  | .moduleInit _ _ => true
  | .callback _ => true
  | .external => true
  | _ => false

/-- The context that such code may set the callback of. -/
def ownContext : Frame → Option ContextRef
  | .moduleInit context _ => some context
  | .callback turn => some turn.context
  | _ => none

/-- What follows when such code returns; for an initialisation, whether it
returned 0. -/
def returns (succeeded : Bool) : Frame → Except Fault (List Frame)
  | .instanceRelease context => .ok [.markRelease context]
  | .moduleInit context queue =>
      if succeeded then .ok [.setInit context queue]
      else .ok [.initFailed context queue]
  | .callback turn => .ok [.dispatchNext turn]
  | _ => .error .disabled

end Frame

/-- The calls of code outside the runtime. -/
inductive Call where
  | contextPush (handle : UInt32) (message : SkynetMessage)
  | handleRetire (handle : UInt32)
  | retireAll
  | contextNew
  | contextEndless (handle : UInt32)
  | namehandle (handle : UInt32) (name : List UInt8)
  | callback (present : Bool)
  deriving DecidableEq, Repr

namespace Node

/-- The beginning of a call by a frame, and the frame it puts on top.  A message
to handle 0 or to another node is not sent here, and the commands that kill
replace handle 0 by the caller's own. -/
def startCall (node : Node) (caller : Frame) :
    Call → Except Fault (Node × List Frame)
  | .contextPush handle message =>
      if handle = 0 ∨ node.isRemote handle = true then .ok (node, [])
      else .ok (node, [.pushGrab handle message])
  | .handleRetire handle =>
      if handle = 0 then .error .disabled
      else .ok (node, [.handleRetire handle])
  | .retireAll => .ok (node, [.retireAll 0 0])
  | .contextNew =>
      let created : SkynetContext :=
        { handle := 0, ref := 2, queue := none, cb := false, init := false,
          endless := false, messageCount := 0 }
      .ok ({ node.setContext node.nextContext created with
              nextContext := node.nextContext + 1 },
        [.registerHandle node.nextContext])
  | .contextEndless handle =>
      if handle = 0 then .error .disabled
      else .ok (node, [.endlessGrab handle])
  | .namehandle handle name => do
      let named ← node.handles.namehandle handle name
      .ok ({ node with handles := named.2 }, [])
  | .callback present =>
      match caller.ownContext with
      | none => .error .disabled
      | some context => do
          let stored ← node.context context
          .ok (node.setContext context { stored with cb := present }, [])

/-- `skynet_context_release` and `delete_context`. -/
def advanceRelease (node : Node) : Frame → Except Fault (Node × List Frame)
  | .contextRelease context => do
      let stored ← node.context context
      let node := node.setContext context { stored with ref := stored.ref - 1 }
      if stored.ref = 1 then .ok (node, [.instanceRelease context])
      else .ok (node, [])
  | .markRelease context => do
      let queue ← node.contextQueue context
      let node ← node.mqMarkRelease queue
      .ok (node, [.freeContext context])
  | .freeContext context => do
      let _ ← node.context context
      .ok ({ node with contexts := node.contexts.erase context },
        [.contextDec])
  | .contextDec => .ok ({ node with total := node.total - 1 }, [])
  | _ => .error .disabled

/-- `skynet_context_push`, `skynet_handle_retire`, `skynet_handle_retireall` and
`skynet_context_endless`. -/
def advanceHandle (node : Node) : Frame → Except Fault (Node × List Frame)
  | .pushGrab handle message => do
      let grabbed ← node.handleGrab handle
      match grabbed.1 with
      | none => .ok (grabbed.2, [])
      | some context => .ok (grabbed.2, [.pushQueue context message])
  | .pushQueue context message => do
      let queue ← node.contextQueue context
      let node ← node.mqPush queue message
      .ok (node, [.contextRelease context])
  | .handleRetire handle => do
      let retired ← node.handles.retire node.contextHandle handle
      let node := { node with handles := retired.2 }
      match retired.1 with
      | none => .ok (node, [])
      | some context => .ok (node, [.contextRelease context])
  | .retireAll index found =>
      if index < node.handles.slotSize then
        match node.handles.slot index with
        | none => .ok (node, [.retireAll (index + 1) found])
        | some context => do
            let handle ← node.contextHandle context
            if handle = 0 then .ok (node, [.retireAll (index + 1) (found + 1)])
            else .ok (node,
              [.handleRetire handle, .retireAll (index + 1) (found + 1)])
      else if found = 0 then .ok (node, [])
      else .ok (node, [.retireAll 0 0])
  | .endlessGrab handle => do
      let grabbed ← node.handleGrab handle
      match grabbed.1 with
      | none => .ok (grabbed.2, [])
      | some context => .ok (grabbed.2, [.endlessSet context])
  | .endlessSet context => do
      let stored ← node.context context
      .ok (node.setContext context { stored with endless := true },
        [.contextRelease context])
  | _ => .error .disabled

/-- `skynet_context_new`, from the registration on. -/
def advanceNew (node : Node) : Frame → Except Fault (Node × List Frame)
  | .registerHandle context => do
      let entered ← node.handles.register node.contextHandle context
      .ok ({ node with handles := entered.2 },
        [.storeHandle context entered.1])
  | .storeHandle context handle => do
      let stored ← node.context context
      .ok (node.setContext context { stored with handle := handle },
        [.createQueue context handle])
  | .createQueue context handle => do
      let stored ← node.context context
      let created := node.setQueue node.nextQueue (MessageQueue.create handle)
      .ok ({ created.setContext context
              { stored with queue := some node.nextQueue } with
              nextQueue := node.nextQueue + 1 },
        [.contextInc context node.nextQueue])
  | .contextInc context queue =>
      .ok ({ node with total := node.total + 1 },
        [.moduleInit context queue])
  | .setInit context queue => do
      let stored ← node.context context
      .ok (node.setContext context { stored with init := true },
        [.launch context queue])
  | .launch context queue => do
      let node ← node.globalmqPush queue
      .ok (node, [.contextRelease context])
  | .initFailed context queue => do
      let handle ← node.contextHandle context
      .ok (node, [.contextRelease context, .initRetire handle queue])
  | .initRetire handle queue => do
      let retired ← node.handles.retire node.contextHandle handle
      let node := { node with handles := retired.2 }
      match retired.1 with
      | none => .ok (node, [.mqRelease queue handle])
      | some context =>
          .ok (node, [.contextRelease context, .mqRelease queue handle])
  | _ => .error .disabled

/-- The loop of a worker and `skynet_context_message_dispatch`. -/
def advanceDispatch (node : Node) : Frame → Except Fault (Node × List Frame)
  | .worker weight (some queue) => .ok (node, [.dispatchGrab weight queue])
  | .worker weight none => do
      let popped ← node.globalmqPop
      .ok (popped.2, [.worker weight popped.1])
  | .dispatchGrab weight queue => do
      let mq ← node.queue queue
      let grabbed ← node.handleGrab mq.handle
      match grabbed.1 with
      | none =>
          .ok (grabbed.2, [.mqRelease queue mq.handle, .worker weight none])
      | some context =>
          .ok (grabbed.2, [.dispatchPop ⟨weight, queue, context, 0, 1⟩])
  | .dispatchPop turn => do
      let mq ← node.queue turn.queue
      let node := node.setQueue turn.queue mq.pop.2
      match mq.pop.1 with
      | none =>
          .ok (node, [.contextRelease turn.context, .worker turn.weight none])
      | some message =>
          if turn.index = 0 ∧ 0 ≤ turn.weight then
            .ok (node, [.dispatchLength turn message])
          else
            .ok (node, [.dispatchCall turn message])
  | .dispatchLength turn message => do
      let mq ← node.queue turn.queue
      let turn := { turn with count := mq.length >>> turn.weight.toNat }
      .ok (node, [.dispatchCall turn message])
  | .dispatchCall turn message => do
      let mq ← node.queue turn.queue
      let node := node.setQueue turn.queue mq.takeOverload.2
      let stored ← node.context turn.context
      if stored.cb then
        if stored.init then
          let node := node.setContext turn.context
            { stored with messageCount := stored.messageCount + 1 }
          .ok (node.record (.called turn.queue message), [.callback turn])
        else
          .error .assertion
      else
        .ok (node.record (.ignored turn.queue message), [.dispatchNext turn])
  | .dispatchNext turn =>
      if turn.index + 1 < turn.count then
        .ok (node, [.dispatchPop { turn with index := turn.index + 1 }])
      else
        .ok (node, [.dispatchEnd turn])
  | .dispatchEnd turn => do
      let stored ← node.context turn.context
      if stored.queue = some turn.queue then
        let popped ← node.globalmqPop
        match popped.1 with
        | none =>
            .ok (popped.2, [.contextRelease turn.context,
              .worker turn.weight (some turn.queue)])
        | some next => .ok (popped.2, [.dispatchPushBack turn next])
      else
        .error .assertion
  | .dispatchPushBack turn next => do
      let node ← node.globalmqPush turn.queue
      .ok (node, [.contextRelease turn.context,
        .worker turn.weight (some next)])
  | _ => .error .disabled

/-- `skynet_mq_release`, `_drop_queue` and `_release`. -/
def advanceDrop (node : Node) : Frame → Except Fault (Node × List Frame)
  | .mqRelease queue handle => do
      let mq ← node.queue queue
      if mq.released then
        .ok (node, [.dropQueue queue handle])
      else
        let node ← node.globalmqPush queue
        .ok (node, [])
  | .dropQueue queue handle => do
      let mq ← node.queue queue
      let node := node.setQueue queue mq.pop.2
      match mq.pop.1 with
      | none => .ok (node, [.freeQueue queue])
      | some message =>
          if handle = 0 then .error .assertion
          else .ok (node.record (.dropped queue message),
            node.dropMessage handle message ++ [.dropQueue queue handle])
  | .freeQueue queue => do
      let _ ← node.queue queue
      if queue ∈ node.globalQueue then .error .assertion
      else .ok ({ node with queues := node.queues.erase queue }, [])
  | _ => .error .disabled

/-- One atomic action of a frame, and the frames that take its place. -/
def advance (node : Node) (frame : Frame) :
    Except Fault (Node × List Frame) :=
  match frame with
  | .contextRelease _ | .markRelease _ | .freeContext _ | .contextDec =>
      node.advanceRelease frame
  | .pushGrab _ _ | .pushQueue _ _ | .handleRetire _ | .retireAll _ _
  | .endlessGrab _ | .endlessSet _ =>
      node.advanceHandle frame
  | .registerHandle _ | .storeHandle _ _ | .createQueue _ _ | .contextInc _ _
  | .setInit _ _ | .launch _ _ | .initFailed _ _ | .initRetire _ _ =>
      node.advanceNew frame
  | .worker _ _ | .dispatchGrab _ _ | .dispatchPop _ | .dispatchLength _ _
  | .dispatchCall _ _ | .dispatchNext _ | .dispatchEnd _
  | .dispatchPushBack _ _ =>
      node.advanceDispatch frame
  | .mqRelease _ _ | .dropQueue _ _ | .freeQueue _ => node.advanceDrop frame
  | .instanceRelease _ | .moduleInit _ _ | .callback _ | .external =>
      .error .disabled

end Node

/-- A node with its threads. -/
abbrev Runtime := CallStacks.Machine Node Frame

/-- One step of one thread: the action of its topmost frame, or a call or the
return of code outside the runtime. -/
inductive Action where
  | advance (thread : Nat)
  | call (thread : Nat) (call : Call)
  | finish (thread : Nat) (succeeded : Bool)
  deriving DecidableEq, Repr

def Action.thread : Action → Nat
  | .advance thread => thread
  | .call thread _ => thread
  | .finish thread _ => thread

namespace Runtime

/-- Threads with nothing but their own loops. -/
def start (harbor : UInt32) (workers : List Int) (others : Nat) : Runtime :=
  { shared := Node.init harbor
    threads := workers.map (fun weight => [.worker weight none]) ++
      List.replicate others [.external] }

/-- The step of one thread, given what its topmost frame does. -/
def stepThread (runtime : Runtime) (thread : Nat)
    (act : Frame → Except Fault (Node × List Frame)) :
    Except Fault Runtime :=
  match runtime.threads[thread]? with
  | some (top :: rest) => do
      let moved ← act top
      .ok ⟨moved.1, runtime.threads.set thread (moved.2 ++ rest)⟩
  | _ => .error .disabled

/-- What an action does to the topmost frame of its thread. -/
def act (node : Node) : Action → Frame → Except Fault (Node × List Frame)
  | .advance _, top => node.advance top
  | .call _ call, top =>
      if top.callsRuntime then do
        let started ← node.startCall top call
        .ok (started.1, started.2 ++ [top])
      else
        .error .disabled
  | .finish _ succeeded, top => do
      let frames ← top.returns succeeded
      .ok (node, frames)

def step (runtime : Runtime) (action : Action) : Except Fault Runtime :=
  runtime.stepThread action.thread (act runtime.shared action)

end Runtime

end Crynet.Skynet
