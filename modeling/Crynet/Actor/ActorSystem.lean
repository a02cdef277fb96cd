import Crynet.Actor.HandleRegistry
import Crynet.Actor.MessageQueue
import Crynet.Actor.SessionManager
import Crynet.Foundation.Mailbox.Moves
import Crynet.Metrics.MetricsSystem
import Crynet.Scheduler.WorkerScheduler
import Crynet.Timer.TimerQueue

/-!
# The actor system

Connects registration, delivery, sessions and timeouts.  The operations here
run to completion without calling a handler; the dispatch operations, which do
call one, are the steps of a machine in another module.  A slot therefore holds
no handler: what a handler does is what happens to the machine meanwhile.

The history is not in the source and nothing reads it.  It records what the
metrics counters only count.
-/

namespace Crynet

structure ServiceSlot where
  context : ServiceContext
  queue : MessageQueue

structure ActorSystem where
  handleRegistry : HandleRegistry := {}
  sessionManager : SessionManager := {}
  scheduler : WorkerScheduler := WorkerScheduler.new
  timerQueue : TimerQueue
  services : AList (fun _ : ServiceHandle => ServiceSlot) := ∅
  metrics : MetricsSystem := {}
  history : List (Mailbox.Entry ServiceHandle Message) := []

/-- The report of `ActorSystem::metrics`. -/
structure MetricsSystemSnapshot where
  registeredServices : Nat
  queuedMessages : UInt64
  pendingSessions : Nat
  readyServices : Nat
  inFlightServices : Nat
  enqueuedMessages : UInt64
  dispatchedMessages : UInt64
  timerMessages : UInt64
  droppedMessages : UInt64
  queueOverloadEvents : UInt64
  peakQueueDepth : UInt64

namespace ActorSystem

/-- A system constructed when the clock reads `now`. -/
def new (now : TimePoint) : ActorSystem :=
  { timerQueue := TimerQueue.new now }

/-- Write back the slot of a registered service. -/
def setService (system : ActorSystem) (handle : ServiceHandle)
    (service : ServiceSlot) : ActorSystem :=
  { system with services := system.services.insert handle service }

def record (system : ActorSystem)
    (entry : Mailbox.Entry ServiceHandle Message) : ActorSystem :=
  { system with history := system.history ++ [entry] }

/-- The part of `register_service` that follows the registration. -/
def addService (system : ActorSystem) (handleRegistry : HandleRegistry)
    (handle : ServiceHandle) (context : ServiceContext) : ActorSystem :=
  { system with
    handleRegistry := handleRegistry
    services := AssociationMap.emplace system.services handle
      { context := context, queue := MessageQueue.ofOwner handle }
    metrics := system.metrics.onServiceRegistered
    history := system.history ++ [.opened handle] }

/-- No value when the allocation never ends. -/
def registerService (system : ActorSystem) (serviceName : Text) :
    Option (Option ServiceHandle × ActorSystem) :=
  match system.handleRegistry.allocate with
  | none => none
  | some (handle, allocated) =>
      let created : ServiceContext :=
        { handle := handle, serviceName := serviceName }
      let initialized := created.initializeContext
      let started := initialized.2.start
      if initialized.1 = false ∨ started.1 = false then
        some (none, { system with handleRegistry := allocated })
      else
        let registered := allocated.registerService started.2
        if registered.1 = false then
          some (none, { system with handleRegistry := registered.2 })
        else
          some (some handle, system.addService registered.2 handle started.2)

/-- A failed delivery. -/
def drop (system : ActorSystem) (message : Message) : ActorSystem :=
  { system with
    metrics := system.metrics.onMessageDropped
    history := system.history ++ [.refused message] }

/-- The part of `send` that follows a successful `enqueue`. -/
def accept (system : ActorSystem) (message : Message)
    (context : ServiceContext) (queue : MessageQueue) : ActorSystem :=
  let observed :=
    system.metrics.onMessageEnqueued.observeQueueDepth queue.size
  let overload := queue.takeOverload
  { system with
    services := system.services.insert message.targetHandle
      { context := context, queue := overload.2 }
    metrics :=
      if overload.1.isSome then observed.onQueueOverload else observed
    scheduler := (system.scheduler.markReady message.targetHandle).2
    history := system.history ++ [.accepted message.targetHandle message] }

def send (system : ActorSystem) (message : Message) : Bool × ActorSystem :=
  match system.services.lookup message.targetHandle with
  | none => (false, system.drop message)
  | some service =>
      if service.context.isRunning = false then
        (false, system.drop message)
      else if (service.queue.enqueue message).1 = false then
        (false, system.drop message)
      else
        (true, system.accept message service.context
          (service.queue.enqueue message).2)

def stopService (system : ActorSystem) (handle : ServiceHandle) :
    Bool × ActorSystem :=
  match system.services.lookup handle with
  | none => (false, system)
  | some service =>
      (service.context.stop.state == .stopped,
        system.setService handle
          { service with context := service.context.stop })

/-- The part of `release_service` that follows the search.  The slot is erased,
so the lifecycle calls before that leave no trace. -/
def removeService (system : ActorSystem) (handle : ServiceHandle)
    (service : ServiceSlot) : ActorSystem :=
  { system with
    sessionManager := (system.sessionManager.cancelForHandle handle).2
    timerQueue := (system.timerQueue.cancelForTarget handle).2
    handleRegistry := (system.handleRegistry.unregister handle).2
    services := system.services.erase handle
    history := system.history ++ [.closed handle service.queue.messages] }

def releaseService (system : ActorSystem) (handle : ServiceHandle) :
    Bool × ActorSystem :=
  match system.services.lookup handle with
  | none => (false, system)
  | some service => (true, system.removeService handle service)

/-- The loop of `shutdown`. -/
def releaseAll (system : ActorSystem) :
    List ServiceHandle → Nat × ActorSystem
  | [] => (0, system)
  | handle :: handles =>
      let released := system.releaseService handle
      let rest := released.2.releaseAll handles
      ((if released.1 then 1 else 0) + rest.1, rest.2)

def shutdown (system : ActorSystem) : Nat × ActorSystem :=
  system.releaseAll system.services.keys

/-- No value when no session identifier is ever found.  The session stays open
when the request is not accepted. -/
def call (system : ActorSystem) (sourceHandle targetHandle : ServiceHandle)
    (payloadText : Text) : Option (Option SessionId × ActorSystem) :=
  if sourceHandle ∉ system.services ∨ targetHandle ∉ system.services then
    some (none, system)
  else
    match system.sessionManager.beginSession sourceHandle targetHandle with
    | none => none
    | some (sessionId, sessions) =>
        let sent := { system with sessionManager := sessions }.send
          (Message.fromText .request sourceHandle targetHandle sessionId
            payloadText)
        some (if sent.1 then some sessionId else none, sent.2)

def respond (system : ActorSystem) (sourceHandle : ServiceHandle)
    (sessionId : SessionId) (payloadText : Text) : Bool × ActorSystem :=
  match system.sessionManager.lookupRequester sessionId sourceHandle with
  | none => (false, system)
  | some requesterHandle =>
      let sent := system.send
        (Message.fromText .response sourceHandle requesterHandle sessionId
          payloadText)
      if sent.1 = false then
        (false, sent.2)
      else
        let completed := sent.2.sessionManager.complete sessionId sourceHandle
        (completed.1, { sent.2 with sessionManager := completed.2 })

def scheduleTimeout (system : ActorSystem) (targetHandle : ServiceHandle)
    (sessionId : SessionId) (delay : Int64) (payloadText : Text) :
    TimerId × ActorSystem :=
  let scheduled := system.timerQueue.scheduleAfter targetHandle sessionId
    delay payloadText
  (scheduled.1, { system with timerQueue := scheduled.2 })

def cancelTimeout (system : ActorSystem) (timerId : TimerId) :
    Bool × ActorSystem :=
  let cancelled := system.timerQueue.cancel timerId
  (cancelled.1, { system with timerQueue := cancelled.2 })

/-- The loop of `pump_timers`. -/
def injectTimers (system : ActorSystem) : List Message → Nat × ActorSystem
  | [] => (0, system)
  | message :: messages =>
      let sent := system.send message
      let counted :=
        if sent.1 then
          { sent.2 with metrics := sent.2.metrics.onTimerMessage }
        else
          sent.2
      let rest := counted.injectTimers messages
      ((if sent.1 then 1 else 0) + rest.1, rest.2)

/-- No value when the poll never returns. -/
def pumpTimers (system : ActorSystem) (now : TimePoint) :
    Option (Nat × ActorSystem) :=
  match system.timerQueue.pollExpired now with
  | none => none
  | some (messages, timerQueue) =>
      some ({ system with timerQueue := timerQueue }.injectTimers messages)

def serviceCount (system : ActorSystem) : Nat :=
  system.services.entries.length

def findServiceHandle (system : ActorSystem) (serviceName : Text) :
    Option ServiceHandle :=
  system.handleRegistry.findHandle serviceName

def serviceState (system : ActorSystem) (handle : ServiceHandle) :
    Option ServiceState :=
  (system.services.lookup handle).map fun service => service.context.state

def pendingSessions (system : ActorSystem) : Nat :=
  system.sessionManager.size

def pendingMessages (system : ActorSystem) (handle : ServiceHandle) : Nat :=
  match system.services.lookup handle with
  | none => 0
  | some service => service.queue.size

/-- Messages in all queues. -/
def queuedTotal (system : ActorSystem) : Nat :=
  AssociationMap.total (fun service => service.queue.size) system.services

/-- `ActorSystem::metrics`. -/
def snapshot (system : ActorSystem) : MetricsSystemSnapshot :=
  { registeredServices := system.services.entries.length
    queuedMessages := UInt64.ofNat system.queuedTotal
    pendingSessions := system.sessionManager.size
    readyServices := system.scheduler.pendingCount
    inFlightServices := system.scheduler.inFlightCount
    enqueuedMessages := system.metrics.enqueuedMessages
    dispatchedMessages := system.metrics.dispatchedMessages
    timerMessages := system.metrics.timerMessages
    droppedMessages := system.metrics.droppedMessages
    queueOverloadEvents := system.metrics.queueOverloadEvents
    peakQueueDepth := system.metrics.peakQueueDepth }

end ActorSystem

end Crynet
