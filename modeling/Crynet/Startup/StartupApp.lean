import Crynet.Bootstrap.Bootstrapper
import Crynet.Monitor.MonitorRunner
import Crynet.Scheduler.ServedLoops

/-!
# The startup shell

`initialize` reads a configuration, starts its services and dispatches until
nothing is left or the default number of steps has been made, on its own or
under a monitor.  The shell counts as ready when a message has been dispatched.

The bootstrapper is a local variable of `initialize` and does not survive it;
its system is part of what is reported, as it is when readiness is decided.
-/

namespace Crynet

inductive LogLevel where
  | info
  | warn
  | error
  deriving DecidableEq, Repr

structure LogRecord where
  level : LogLevel
  component : String
  message : String
  deriving DecidableEq, Repr

/-- What the process is given: the value of `CRYNET_BOOTSTRAP_CONFIG`, and the
contents of the files that can be opened. -/
structure Environment where
  bootstrapConfig : Option Text
  files : Text → Option Text

structure StartupApp where
  bInitialized : Bool := false
  bBootstrapReady : Bool := false
  deriving DecidableEq, Repr

/-- What a call of `initialize` returns, logs and leaves. -/
structure StartupReport where
  answer : Bool
  app : StartupApp
  logged : List LogRecord
  system : Option ActorSystem

namespace StartupApp

open Text (ofAscii)

def bootstrapReady (app : StartupApp) : Bool :=
  app.bBootstrapReady

def defaultBootstrapConfig : Text :=
  ofAscii "# minimal startup config\nservice bootstrap ready\ntimeout_ms 10\nmonitor.enabled false\n"

/-- The text that is read as the configuration, if there is one. -/
def configText (environment : Environment) : Option Text :=
  match environment.bootstrapConfig with
  | none => some defaultBootstrapConfig
  | some configPath =>
      if configPath = [] then some defaultBootstrapConfig
      else environment.files configPath

def readConfig (environment : Environment) : Option BootstrapConfig :=
  match configText environment with
  | none => none
  | some text => BootstrapConfig.fromText text

/-- The handler bound to `bootstrap` does nothing. -/
def handlerCalls (_ : Unit) (_ : Machine) : List ContextCall :=
  []

/-- A default argument of `dispatch_until_idle` and of `run_until_idle`. -/
def defaultSteps : Nat := 64

/-- `dispatch_until_idle`, on its own. -/
def dispatchAlone (bootstrapper : Bootstrapper Unit) :
    Except Fault (Nat × ActorSystem) :=
  match bootstrapper.dispatchUntilIdle handlerCalls defaultSteps
      defaultSteps with
  | .error fault => .error fault
  | .ok machine =>
      match machine.answer with
      | some (.idle _ _ dispatched) => .ok (dispatched, machine.system)
      | _ => .error .diverges

/-- A runner with a monitor of one worker. -/
def workerRunner (bootstrapper : Bootstrapper Unit)
    (config : BootstrapMonitorConfig) : Worker :=
  { machine := { system := bootstrapper.system, stack := [], answer := none }
    workerId := 0
    plugin := some
      ((WorkerMonitor.new 1).setLoggerAlertEnabled
        config.loggerAlertEnabled) }

/-- What the checks of a monitor give to the logger. -/
def checkRecords (config : BootstrapMonitorConfig) (worker : Worker) :
    List LogRecord :=
  match worker.plugin with
  | none => []
  | some workerMonitor =>
      let checked := (workerMonitor.runChecks config.checkCycles.toNat).2
      checked.logged.map fun message =>
        { level := .error, component := "monitor", message := message }

def dispatchMonitored (bootstrapper : Bootstrapper Unit)
    (config : BootstrapMonitorConfig) (clock : Nat → TimePoint) :
    Except Fault (Nat × ActorSystem × List LogRecord) :=
  match (workerRunner bootstrapper config).performUntilIdle .workerRunner clock
      defaultSteps 1 (bootstrapper.serves handlerCalls) defaultSteps with
  | .error fault => .error fault
  | .ok drive =>
      match drive.status with
      | .returned dispatched =>
          .ok (dispatched, drive.worker.machine.system,
            checkRecords config drive.worker)
      | _ => .error .diverges

def dispatchStarted (bootstrapper : Bootstrapper Unit)
    (config : BootstrapMonitorConfig) (clock : Nat → TimePoint) :
    Except Fault (Nat × ActorSystem × List LogRecord) :=
  if config.enabled = true then
    dispatchMonitored bootstrapper config clock
  else
    match dispatchAlone bootstrapper with
    | .error fault => .error fault
    | .ok (dispatched, system) => .ok (dispatched, system, [])

def startupRecord (level : LogLevel) (message : String) : LogRecord :=
  { level := level, component := "startup", message := message }

/-- The last record of a start that has succeeded. -/
def dispatchRecord (ready : Bool) (metrics : MetricsSystemSnapshot) :
    LogRecord :=
  if ready = true then
    startupRecord .info
      ("bootstrap flow is ready services=" ++
        toString metrics.registeredServices ++
        " queued=" ++ toString metrics.queuedMessages ++
        " dispatched=" ++ toString metrics.dispatchedMessages)
  else
    startupRecord .warn "bootstrap flow completed without work"

/-- `StartupApp::initialize`, with what the clock reads when the system is
constructed and in each cycle of the runner. -/
def initializeApp (_ : StartupApp) (environment : Environment)
    (now : TimePoint) (clock : Nat → TimePoint) :
    Except Fault StartupReport :=
  match readConfig environment with
  | none =>
      .ok
        { answer := false
          app := { bInitialized := false, bBootstrapReady := false }
          logged := [startupRecord .error "bootstrap config parse failed"]
          system := none }
  | some config =>
      match ((Bootstrapper.new now).bindHandler (ofAscii "bootstrap")
          ()).start config with
      | none => .error .diverges
      | some (false, bootstrapper) =>
          .ok
            { answer := false
              app := { bInitialized := false, bBootstrapReady := false }
              logged := [startupRecord .error
                "bootstrap service registration failed"]
              system := some bootstrapper.system }
      | some (true, bootstrapper) =>
          match dispatchStarted bootstrapper config.monitor clock with
          | .error fault => .error fault
          | .ok (dispatched, system, alerts) =>
              let ready := decide (0 < dispatched)
              .ok
                { answer := true
                  app := { bInitialized := true, bBootstrapReady := ready }
                  logged := alerts ++ [dispatchRecord ready system.snapshot]
                  system := some system }

end StartupApp

end Crynet
