import Crynet.Actor.Callbacks
import Crynet.Bootstrap.BootstrapConfig

/-!
# The bootstrapper

Registers the services of a configuration, in order, and sends each its boot
payload.  What a handler is does not matter here: it is known by what it calls,
and it calls methods of the context it is given.  The slots of the system hold
no handlers, so the handlers stand beside them.
-/

namespace Crynet

/-- The methods of a context. -/
inductive ContextCall where
  | initializeContext
  | start
  | stop
  | release
  deriving DecidableEq, Repr

def ContextCall.action : ContextCall → Action
  | .initializeContext => .initializeContext
  | .start => .startContext
  | .stop => .stopContext
  | .release => .releaseContext

/-- No handler in a slot stands for the default handler. -/
structure Bootstrapper (Handler : Type) where
  system : ActorSystem
  handlers : AList (fun _ : Text => Handler) := ∅
  slotHandlers : AList (fun _ : ServiceHandle => Option Handler) := ∅

namespace Bootstrapper

variable {Handler : Type}

/-- A bootstrapper constructed when the clock reads `now`. -/
def new (now : TimePoint) : Bootstrapper Handler :=
  { system := ActorSystem.new now }

def bindHandler (bootstrapper : Bootstrapper Handler) (serviceName : Text)
    (handler : Handler) : Bootstrapper Handler :=
  { bootstrapper with
    handlers := bootstrapper.handlers.insert serviceName handler }

/-- The default handler performs no work. -/
def defaultHandler : Option Handler := none

/-- Several bindings, one after the other. -/
def bindHandlers (bootstrapper : Bootstrapper Handler)
    (bindings : List (Text × Handler)) : Bootstrapper Handler :=
  bindings.foldl
    (fun bound binding => bound.bindHandler binding.1 binding.2) bootstrapper

/-- `ActorSystem::register_service`, with the handler of the new slot. -/
def registerService (bootstrapper : Bootstrapper Handler) (serviceName : Text)
    (handler : Option Handler) :
    Option (Option ServiceHandle × Bootstrapper Handler) :=
  match bootstrapper.system.registerService serviceName with
  | none => none
  | some (none, system) => some (none, { bootstrapper with system := system })
  | some (some handle, system) =>
      some (some handle,
        { bootstrapper with
          system := system
          slotHandlers := bootstrapper.slotHandlers.insert handle handler })

/-- The loop of `start`. -/
def startServices : Bootstrapper Handler → List BootstrapServiceConfig →
    Option (Bool × Bootstrapper Handler)
  | bootstrapper, [] => some (true, bootstrapper)
  | bootstrapper, service :: services =>
      let handler :=
        match bootstrapper.handlers.lookup service.name with
        | none => defaultHandler
        | some bound => some bound
      match bootstrapper.registerService service.name handler with
      | none => none
      | some (none, refused) => some (false, refused)
      | some (some handle, registered) =>
          if service.bootPayload = [] then
            startServices registered services
          else
            let sent := registered.system.send
              (Message.fromText .system 0 handle 0 service.bootPayload)
            let booted := { registered with system := sent.2 }
            if sent.1 = false then some (false, booted)
            else startServices booted services

/-- No value when a registration never returns. -/
def start (bootstrapper : Bootstrapper Handler) (config : BootstrapConfig) :
    Option (Bool × Bootstrapper Handler) :=
  bootstrapper.startServices config.services

def findServiceHandle (bootstrapper : Bootstrapper Handler)
    (serviceName : Text) : Option ServiceHandle :=
  bootstrapper.system.findServiceHandle serviceName

/-- What the handler of the slot being dispatched does: it calls methods of its
context and returns. -/
def serves (bootstrapper : Bootstrapper Handler)
    (calls : Handler → Machine → List ContextCall) (machine : Machine) :
    List Action :=
  match machine.stack with
  | [] => []
  | activation :: _ =>
      match bootstrapper.slotHandlers.lookup activation.batch.handle with
      | some (some handler) =>
          (calls handler machine).map ContextCall.action ++ [.returns]
      | _ => [.returns]

/-- The call of `run_until_idle` in `dispatch_until_idle`. -/
def dispatchUntilIdle (bootstrapper : Bootstrapper Handler)
    (calls : Handler → Machine → List ContextCall) (rounds maxSteps : Nat) :
    Except Fault Machine :=
  Machine.perform (bootstrapper.serves calls) rounds
    { system := bootstrapper.system, stack := [], answer := none }
    (.runUntilIdle maxSteps 1)

end Bootstrapper

end Crynet
