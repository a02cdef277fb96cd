import Crynet.Foundation.Execution
import Crynet.Actor.HandleRegistry
import Crynet.Actor.SessionManager
import Crynet.Actor.MessageQueue
import Crynet.Metrics.MetricsSystem
import Crynet.Scheduler.WorkerScheduler
import Crynet.Timer.Termination
import Crynet.Timer.Delivery
import Crynet.Foundation.Deadlines
import Crynet.Foundation.Transducer
import Crynet.Timer.Refinement
import Crynet.Foundation.Mailbox.Moves
import Crynet.Foundation.Mailbox.Delivery
import Crynet.Actor.ActorSystem
import Crynet.Foundation.Mailbox.Halting
import Crynet.Foundation.Mailbox.Ledger
import Crynet.Foundation.Mailbox.Wake
import Crynet.Actor.Dispatch
import Crynet.Actor.Mailboxes
import Crynet.Actor.Simulation
import Crynet.Actor.Licence
import Crynet.Actor.WakeUp
import Crynet.Actor.Slots
import Crynet.Actor.Changes
import Crynet.Actor.Integrity
import Crynet.Actor.Conservation
import Crynet.Actor.Stopping
import Crynet.Actor.Frames
import Crynet.Actor.FifoDelivery
import Crynet.Foundation.Clocked
import Crynet.Timer.Punctuality
import Crynet.Actor.Timeouts
import Crynet.Actor.Calls
import Crynet.Actor.Answers
import Crynet.Foundation.Mailbox.Abandoned
import Crynet.Actor.Exceptions
import Crynet.Actor.SerialExecution
import Crynet.Actor.Fairness
import Crynet.Foundation.Watchdog
import Crynet.Scheduler.WorkerMonitor
import Crynet.Monitor.SkynetMonitor
import Crynet.Monitor.StallVerdicts
import Crynet.Monitor.SkynetVerdicts
import Crynet.Monitor.MonitorRunner
import Crynet.Actor.Accounts
import Crynet.Actor.Echo
import Crynet.Scheduler.WorkerRunner
import Crynet.Scheduler.SleepAccounting
import Crynet.Scheduler.BusyWorkers
import Crynet.Foundation.Mailbox.Vacancy
import Crynet.Actor.Allocation
import Crynet.Actor.Release
import Crynet.Actor.Shutdown
import Crynet.Timer.Granularity
import Crynet.Timer.Lateness
import Crynet.Actor.Retiming
import Crynet.Scheduler.CompletedTurns
import Crynet.Scheduler.Masking
import Crynet.Scheduler.WorkerLoop
import Crynet.Actor.CallStack
import Crynet.Scheduler.DriveLoops
import Crynet.Actor.Callbacks
import Crynet.Actor.Confluence
import Crynet.Bootstrap.BootstrapConfig
import Crynet.Bootstrap.ConfigLines
import Crynet.Bootstrap.ConfigNumbers
import Crynet.Bootstrap.Bootstrapper
import Crynet.Bootstrap.StartedServices
import Crynet.Bootstrap.BootTurns
import Crynet.Bootstrap.BootOrder
import Crynet.Actor.Identifiers
import Crynet.Foundation.AtomicVariable
import Crynet.Scheduler.WakeEvents
import Crynet.Metrics.PeakObservers
import Crynet.Scheduler.ServedLoops
import Crynet.Startup.Readiness
import Crynet.Foundation.FillCycles
import Crynet.Actor.Overloads
import Crynet.Actor.OverloadEvents
import Crynet.Foundation.BinarySearch
import Crynet.Foundation.CallStacks
import Crynet.Foundation.CircularBuffer
import Crynet.Skynet.Balance
import Crynet.Skynet.BalancedSteps
import Crynet.Skynet.Creations
import Crynet.Skynet.Deletions
import Crynet.Skynet.Deliveries
import Crynet.Skynet.Guarantees
import Crynet.Skynet.NameTable
import Crynet.Skynet.SocketRuns
