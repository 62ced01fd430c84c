import Standstill.Contention.Config
import Standstill.Socket.Command

/-!
# The program that runs a contention run

Its options set the fields of the configuration, the tick in milliseconds.
The run ends with its workers, or after a number of ticks if the flag for
that is given; the number may not be given without the flag.
-/
namespace Standstill.Contention

open CommandLine

/-- The settings of the program. -/
structure Settings where
  workers : UInt64 := defaultWorkers
  locks : UInt64 := defaultLocks
  cycles : UInt32 := defaultCycles
  tick : Span := defaultTick
  /-- Whether the run ends after a number of ticks. -/
  timedWait : Bool := false
  waitTicks : UInt32 := defaultCycles
  /-- Whether the report is printed. -/
  json : Bool := false
  /-- Whether more is logged. -/
  debug : Bool := false
deriving Repr, DecidableEq

namespace Settings

def setWorkers (s : Settings) (n : UInt64) : Settings := { s with workers := n }

def setLocks (s : Settings) (n : UInt64) : Settings := { s with locks := n }

def setCycles (s : Settings) (n : UInt32) : Settings := { s with cycles := n }

def setTick (s : Settings) (ms : UInt64) : Settings := { s with tick := .ofMillis ms }

def setWaitTicks (s : Settings) (n : UInt32) : Settings := { s with waitTicks := n }

/-- The configuration that settings stand for. -/
def config (s : Settings) : Config where
  workers := s.workers
  locks := s.locks
  cycles := s.cycles
  tick := s.tick
  completion := if s.timedWait then .timedWait s.waitTicks else .join

end Settings

def program : Program Settings where
  name := "sem_contention"
  version := Socket.version
  about := "Keep worker threads queued on shared binary semaphores"
  start := {}
  layout := .beside
  options := [
    { name := "workers"
      effect := .value fun s => (size s).map fun n s => s.setWorkers n
      default := toString defaultWorkers.toNat },
    { name := "locks"
      effect := .value fun s => (size s).map fun n s => s.setLocks n
      default := toString defaultLocks.toNat },
    { name := "cycles"
      effect := .value fun s => (count s).map fun n s => s.setCycles n
      help := "Acquire/hold/release cycles per worker"
      default := toString defaultCycles.toNat },
    { name := "tick-ms"
      effect := .value fun s => (size s).map fun n s => s.setTick n
      help := "Length of one tick in milliseconds"
      default := "1000" },
    { name := "legacy-timed-wait"
      effect := .flag fun s => { s with timedWait := true }
      help := "Sleep a fixed number of ticks instead of joining the workers" },
    { name := "wait-ticks"
      effect := .value fun s => (count s).map fun n s => s.setWaitTicks n
      help := "Ticks to sleep with --legacy-timed-wait"
      default := toString defaultCycles.toNat
      needs := some "legacy-timed-wait" },
    { name := "json"
      effect := .flag fun s => { s with json := true }
      help := "Print the scenario report as JSON on stdout" },
    { name := "debug"
      effect := .flag fun s => { s with debug := true }
      help := "Enable debug logging" }]

end Standstill.Contention
