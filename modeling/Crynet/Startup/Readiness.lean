import Crynet.Bootstrap.BootOrder
import Crynet.Startup.StartupApp

/-!
# What readiness says

On its own or under a monitor, the shell gives the services that have a payload
one turn each, in order, up to the default number of steps, and asks only
whether there has been a turn.  So readiness means that all of them have been
handled exactly when they are not more than that.
-/

namespace Crynet

open ActorSystem (Booted bootTurns bootMessage)
open Text (ofAscii)

namespace ActorSystem

variable {system next other : ActorSystem}
variable {turns : List (ServiceHandle × Message)}

/-- The clock of the timers does not matter. -/
theorem Serves.sameButClock (serves : system.Serves next turns)
    (same : other.SameButClock next) : system.Serves other turns := by
  obtain ⟨point, tick, rfl⟩ := same
  exact ⟨serves.invocations, serves.queuedTotal, serves.handleRegistry⟩

end ActorSystem

namespace StartupApp

variable {bootstrapper : Bootstrapper Unit}
variable {turns : List (ServiceHandle × Message)}

private theorem serves_returning (bootstrapper : Bootstrapper Unit) :
    Machine.Returning (bootstrapper.serves handlerCalls) := by
  intro machine busy
  unfold Bootstrapper.serves
  split
  · rename_i idle
    exact absurd idle busy
  · split
    · rfl
    · rfl

private theorem dispatchAlone_serves (awaits : bootstrapper.system.Awaits turns) :
    ∃ system, dispatchAlone bootstrapper =
        .ok (min defaultSteps turns.length, system) ∧
      bootstrapper.system.Serves system (turns.take defaultSteps) := by
  obtain ⟨final, ran, _, answer, serves⟩ :=
    Bootstrapper.dispatch_turns awaits handlerCalls (Nat.min_le_left
      defaultSteps turns.length)
  refine ⟨final.system, ?_, serves⟩
  simp only [dispatchAlone, ran, answer]

/-- The monitored path makes the same turns. -/
theorem dispatchMonitored_serves (awaits : bootstrapper.system.Awaits turns)
    (vacant : bootstrapper.system.timerQueue.Vacant)
    (config : BootstrapMonitorConfig) (clock : Nat → TimePoint) :
    ∃ system alerts, dispatchMonitored bootstrapper config clock =
        .ok (min defaultSteps turns.length, system, alerts) ∧
      bootstrapper.system.Serves system (turns.take defaultSteps) := by
  obtain ⟨final, ran, ended, answer, serves⟩ :=
    Bootstrapper.dispatch_turns awaits handlerCalls (Nat.min_le_left
      defaultSteps turns.length)
  have allowed : (workerRunner bootstrapper config).Open .workerRunner := by
    refine ⟨rfl, ?_, nofun⟩
    intro monitor same
    cases same
    rfl
  obtain ⟨drive, driven, returned, same⟩ :=
    Worker.performUntilIdle_agrees allowed vacant rfl clock
      (serves_returning bootstrapper) ran ended answer
  refine ⟨drive.worker.machine.system, checkRecords config drive.worker, ?_,
    serves.sameButClock same⟩
  unfold dispatchMonitored
  simp only [driven, returned]

private theorem dispatchStarted_serves (awaits : bootstrapper.system.Awaits turns)
    (vacant : bootstrapper.system.timerQueue.Vacant)
    (config : BootstrapMonitorConfig) (clock : Nat → TimePoint) :
    ∃ system alerts, dispatchStarted bootstrapper config clock =
        .ok (min defaultSteps turns.length, system, alerts) ∧
      bootstrapper.system.Serves system (turns.take defaultSteps) := by
  unfold dispatchStarted
  split
  · exact dispatchMonitored_serves awaits vacant config clock
  · obtain ⟨system, alone, serves⟩ := dispatchAlone_serves awaits
    refine ⟨system, [], ?_, serves⟩
    rw [alone]

/-- What `initialize` reports of a configuration in which no name is used
twice. -/
structure Reports (report : StartupReport) (config : BootstrapConfig)
    (entries : List (BootstrapServiceConfig × ServiceHandle))
    (system : ActorSystem) : Prop where
  answer : report.answer = true
  ready : report.app.bootstrapReady = decide (0 < (bootTurns entries).length)
  left : report.system = some system
  services : entries.map Prod.fst = config.services
  named : ∀ entry ∈ entries,
    system.findServiceHandle entry.1.name = some entry.2
  invocations : system.invocations = (bootTurns entries).take defaultSteps
  queuedTotal : system.queuedTotal +
    min defaultSteps (bootTurns entries).length = (bootTurns entries).length

private theorem initialize_reports {environment : Environment} {text : Text}
    {config : BootstrapConfig}
    (located : configText environment = some text)
    (read : BootstrapConfig.fromText text = some config)
    (sized : text.length < UInt64.size)
    (distinct : (config.services.map BootstrapServiceConfig.name).Nodup)
    (app : StartupApp) (now : TimePoint) (clock : Nat → TimePoint) :
    ∃ report entries system,
      app.initializeApp environment now clock = .ok report ∧
        Reports report config entries system := by
  obtain ⟨entries, middle, booted, integral, services, started⟩ :=
    @Bootstrapper.start_adopts Unit _ _ read sized distinct now
      [(ofAscii "bootstrap", ())]
  have added := booted.added
  let bootstrapper : Bootstrapper Unit :=
    ((Bootstrapper.new now).bindHandlers
      [(ofAscii "bootstrap", ())]).adopt entries middle
  have awaits : bootstrapper.system.Awaits (bootTurns entries) :=
    added.awaits integral
  have vacant : bootstrapper.system.timerQueue.Vacant := by
    show middle.timerQueue.Vacant
    rw [added.timerQueue]
    exact fun _ => rfl
  obtain ⟨system, alerts, dispatched, serves⟩ :=
    dispatchStarted_serves awaits vacant config.monitor clock
  have parsed : readConfig environment = some config := by
    rw [readConfig, located]
    exact read
  have silent : middle.invocations = [] := added.silent
  have queued : middle.queuedTotal = (bootTurns entries).length :=
    booted.queuedTotal.trans (Nat.zero_add _)
  have total := serves.queuedTotal
  rw [List.length_take] at total
  let ready := decide (0 < min defaultSteps (bootTurns entries).length)
  refine
    ⟨{ answer := true
       app := { bInitialized := true, bBootstrapReady := ready }
       logged := alerts ++ [dispatchRecord ready system.snapshot]
       system := some system }, entries, system, ?_, ?_⟩
  · have begun : ((Bootstrapper.new now).bindHandler (ofAscii "bootstrap")
        ()).start config = some (true, bootstrapper) := started
    simp only [initializeApp, parsed, begun, dispatched, ready]
  · refine
      { answer := rfl
        ready := ?_
        left := rfl
        services := services
        named := ?_
        invocations := ?_
        queuedTotal := total.trans queued }
    · apply decide_eq_decide.mpr
      simp only [defaultSteps]
      omega
    · intro entry member
      have listed : entry.1 ∈ config.services := by
        rw [← services]
        exact List.mem_map_of_mem member
      have named := BootstrapConfig.fromText_named read entry.1 listed
      have registry : system.findServiceHandle entry.1.name =
          middle.findServiceHandle entry.1.name := by
        rw [ActorSystem.findServiceHandle, serves.handleRegistry]
        rfl
      rw [registry]
      exact added.named entry member named
    · have called : system.invocations =
          middle.invocations ++ (bootTurns entries).take defaultSteps :=
        serves.invocations
      rw [called, silent, List.nil_append]

/-- Services that have something to be booted with. -/
def loaded (config : BootstrapConfig) : List BootstrapServiceConfig :=
  config.services.filter fun service => service.bootPayload ≠ []

/-- Nothing was queued any more, and each service that has a payload had been
called with it. -/
def BootedAll (config : BootstrapConfig) (report : StartupReport) : Prop :=
  ∃ system, report.system = some system ∧
    system.snapshot.queuedMessages = 0 ∧
    ∀ service ∈ loaded config, ∃ handle,
      system.findServiceHandle service.name = some handle ∧
        (handle, bootMessage service handle) ∈ system.invocations

private theorem length_bootTurns {config : BootstrapConfig}
    {entries : List (BootstrapServiceConfig × ServiceHandle)}
    (services : entries.map Prod.fst = config.services) :
    (bootTurns entries).length = (loaded config).length := by
  rw [loaded, ← services, List.filter_map, List.length_map, bootTurns,
    List.length_map]
  rfl

/-- A start that has succeeded and left something to do is ready all the same:
it is as it should be exactly when the loaded services are not more than the
default number of steps. -/
theorem ready_iff {environment : Environment} {text : Text}
    {config : BootstrapConfig}
    (located : configText environment = some text)
    (read : BootstrapConfig.fromText text = some config)
    (sized : text.length < UInt64.size)
    (distinct : (config.services.map BootstrapServiceConfig.name).Nodup)
    (app : StartupApp) (now : TimePoint) (clock : Nat → TimePoint) :
    ∃ report, app.initializeApp environment now clock = .ok report ∧
      ((report.answer = true → report.app.bootstrapReady = true →
          BootedAll config report) ↔
        (loaded config).length ≤ 64) := by
  obtain ⟨report, entries, system, initialized, reports⟩ :=
    initialize_reports located read sized distinct app now clock
  have count := length_bootTurns reports.services
  have total := reports.queuedTotal
  rw [count, defaultSteps] at total
  have few : (loaded config).length < UInt64.size := by
    have fewer := BootstrapConfig.fromText_services read
    have shorter : (loaded config).length ≤ config.services.length :=
      List.length_filter_le _ _
    omega
  refine ⟨report, initialized, ?_⟩
  constructor
  · intro sound
    by_contra many
    have ready : report.app.bootstrapReady = true := by
      rw [reports.ready, decide_eq_true_eq]
      omega
    obtain ⟨other, left, empty, _⟩ := sound reports.answer ready
    rw [reports.left, Option.some.injEq] at left
    subst left
    have none : (UInt64.ofNat system.queuedTotal).toNat = 0 := by
      rw [show UInt64.ofNat system.queuedTotal = 0 from empty]
      rfl
    rw [UInt64.toNat_ofNat_of_lt' (by omega)] at none
    omega
  · intro enough _ _
    have all : (bootTurns entries).take defaultSteps = bootTurns entries := by
      apply List.take_of_length_le
      rw [count]
      exact enough
    have none : system.queuedTotal = 0 := by omega
    refine ⟨system, reports.left, ?_, ?_⟩
    · show UInt64.ofNat system.queuedTotal = 0
      rw [none]
      rfl
    · intro service listed
      obtain ⟨member, payload⟩ := List.mem_filter.mp listed
      rw [← reports.services] at member
      obtain ⟨entry, known, rfl⟩ := List.mem_map.mp member
      refine ⟨entry.2, reports.named entry known, ?_⟩
      rw [reports.invocations, all]
      apply List.mem_map.mpr
      exact ⟨entry, List.mem_filter.mpr ⟨known, payload⟩, rfl⟩

/-- Three services under a monitor, one of them without a payload. -/
def monitoredText : Text :=
  ofAscii "service log ready\nservice gate\nmonitor.enabled true\nservice game go\n"

def monitoredConfig : BootstrapConfig :=
  { services :=
      [{ name := ofAscii "log", bootPayload := ofAscii "ready" },
        { name := ofAscii "gate" },
        { name := ofAscii "game", bootPayload := ofAscii "go" }]
    monitor := { enabled := true } }

/-- The shell is ready, and rightly so. -/
theorem ready_iff_monitored :
    BootstrapConfig.fromText monitoredText = some monitoredConfig ∧
      ∃ report, StartupApp.initializeApp {}
          { bootstrapConfig := some (ofAscii "boot.cfg")
            files := fun _ => some monitoredText } 0 (fun _ => 0) =
            .ok report ∧
        report.answer = true ∧ report.app.bootstrapReady = true ∧
        BootedAll monitoredConfig report := by
  have read : BootstrapConfig.fromText monitoredText =
      some monitoredConfig := by
    decide +kernel
  have distinct : (monitoredConfig.services.map
      BootstrapServiceConfig.name).Nodup := by
    decide
  obtain ⟨report, initialized, sound⟩ := @ready_iff
    { bootstrapConfig := some (ofAscii "boot.cfg")
      files := fun _ => some monitoredText } monitoredText monitoredConfig rfl
    read (by decide +kernel) distinct {} 0 fun _ => 0
  obtain ⟨same, entries, system, again, reports⟩ := @initialize_reports
    { bootstrapConfig := some (ofAscii "boot.cfg")
      files := fun _ => some monitoredText } monitoredText monitoredConfig rfl
    read (by decide +kernel) distinct {} 0 fun _ => 0
  obtain rfl := Except.ok.inj (initialized.symm.trans again)
  have ready : report.app.bootstrapReady = true := by
    rw [reports.ready, length_bootTurns reports.services]
    decide +kernel
  exact ⟨read, report, initialized, reports.answer, ready,
    sound.mpr (by decide) reports.answer ready⟩

/-- So many services, each with a name and a payload of one byte. -/
def crowdServices (count : Nat) : List BootstrapServiceConfig :=
  (List.range count).map fun index =>
    { name := [UInt8.ofNat (33 + index)], bootPayload := ofAscii "x" }

def crowdText (count : Nat) : Text :=
  (List.range count).flatMap fun index =>
    ofAscii "service " ++ UInt8.ofNat (33 + index) :: ofAscii " x\n"

/-- One service too many is left without its turn. -/
theorem ready_too_soon :
    BootstrapConfig.fromText (crowdText 65) =
        some { services := crowdServices 65 } ∧
      ((crowdServices 65).map BootstrapServiceConfig.name).Nodup ∧
      ∃ report system, StartupApp.initializeApp {}
          { bootstrapConfig := some (ofAscii "boot.cfg")
            files := fun _ => some (crowdText 65) } 0 (fun _ => 0) =
            .ok report ∧
        report.answer = true ∧ report.app.bootstrapReady = true ∧
        report.system = some system ∧
        system.snapshot.queuedMessages = 1 ∧
        system.invocations.length = 64 := by
  have read : BootstrapConfig.fromText (crowdText 65) =
      some { services := crowdServices 65 } := by
    decide +kernel
  have distinct :
      ((crowdServices 65).map BootstrapServiceConfig.name).Nodup := by
    decide +kernel
  refine ⟨read, distinct, ?_⟩
  obtain ⟨report, entries, system, initialized, reports⟩ :=
    @initialize_reports
      { bootstrapConfig := some (ofAscii "boot.cfg")
        files := fun _ => some (crowdText 65) } (crowdText 65)
      { services := crowdServices 65 } rfl read (by decide +kernel) distinct
      {} 0 fun _ => 0
  have count : (bootTurns entries).length = 65 := by
    rw [length_bootTurns reports.services]
    decide +kernel
  have total := reports.queuedTotal
  rw [count, defaultSteps] at total
  have one : system.queuedTotal = 1 := by omega
  refine ⟨report, system, initialized, reports.answer, ?_, reports.left, ?_, ?_⟩
  · rw [reports.ready, count]
    rfl
  · show UInt64.ofNat system.queuedTotal = 1
    rw [one]
    rfl
  · rw [reports.invocations, List.length_take, count]
    rfl

end StartupApp

end Crynet
