/-!
# The monitor of skynet

The monitor of one worker, as skynet has it.  A check that finds a stall calls
`skynet_context_endless` and prints the two handles and the version; the model
returns what it prints.
-/

namespace Crynet

structure SkynetMonitor where
  version : Int32 := 0
  checkVersion : Int32 := 0
  source : UInt32 := 0
  destination : UInt32 := 0
  deriving DecidableEq, Repr

/-- The arguments of the message about an endless loop. -/
structure SkynetReport where
  source : UInt32
  destination : UInt32
  version : Int32
  deriving DecidableEq, Repr

namespace SkynetMonitor

def trigger (monitor : SkynetMonitor) (source destination : UInt32) :
    SkynetMonitor :=
  { monitor with
    source := source
    destination := destination
    version := monitor.version + 1 }

def check (monitor : SkynetMonitor) : Option SkynetReport × SkynetMonitor :=
  if monitor.version = monitor.checkVersion then
    if monitor.destination ≠ 0 then
      (some
        { source := monitor.source
          destination := monitor.destination
          version := monitor.version }, monitor)
    else
      (none, monitor)
  else
    (none, { monitor with checkVersion := monitor.version })

end SkynetMonitor

end Crynet
