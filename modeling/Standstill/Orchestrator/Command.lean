import Standstill.Contention.Command

/-!
# The orchestrator's settings

The orchestrator runs both fixtures several times with a short tick. Its
settings say how, and give the argument lists of the fixtures.
-/
namespace Standstill.Orchestrator

open CommandLine

structure Settings where
  /-- The tick of the fixtures in milliseconds. -/
  tickMillis : UInt64 := 20
  cycles : UInt32 := 5
  /-- Runs of each fixture. -/
  runs : UInt32 := 2
  /-- Seconds that a run may take. -/
  timeoutSecs : UInt64 := 60
  port : UInt16 := defaultPort
  /-- Where the fixtures are; without it, where the orchestrator itself is. -/
  directory : Option String := none
deriving Repr, DecidableEq

namespace Settings

def setTick (s : Settings) (n : UInt64) : Settings := { s with tickMillis := n }

def setCycles (s : Settings) (n : UInt32) : Settings := { s with cycles := n }

def setRuns (s : Settings) (n : UInt32) : Settings := { s with runs := n }

def setTimeout (s : Settings) (n : UInt64) : Settings := { s with timeoutSecs := n }

def setPort (s : Settings) (p : UInt16) : Settings := { s with port := p }

def setDirectory (s : Settings) (d : String) : Settings := { s with directory := some d }

/-- The arguments that both fixtures get. -/
def sharedArguments (s : Settings) : List String :=
  ["--json", "--tick-ms", toString s.tickMillis.toNat, "--cycles", toString s.cycles.toNat]

/-- The arguments of the socket fixture. -/
def socketArguments (s : Settings) : List String :=
  s.sharedArguments ++ ["--port", toString s.port.toNat]

/-- The arguments of the contention fixture. -/
def contentionArguments (s : Settings) : List String := s.sharedArguments

end Settings

def program : Program Settings where
  name := "scenario_orchestrator"
  version := Socket.version
  about := "Run both fixtures through their binaries and check their reports"
  start := {}
  layout := .beside
  logsFirst := true
  options := [
    { name := "tick-ms"
      effect := .value fun s => (size s).map fun n s => s.setTick n
      help := "Tick passed to the fixtures, in milliseconds"
      default := "20" },
    { name := "cycles"
      effect := .value fun s => (count s).map fun n s => s.setCycles n
      help := "Cycles passed to the fixtures"
      default := "5" },
    { name := "runs"
      effect := .value fun s => (count s).map fun n s => s.setRuns n
      help := "Times each fixture is run back to back"
      default := "2" },
    { name := "timeout-secs"
      effect := .value fun s => (size s).map fun n s => s.setTimeout n
      help := "Per-run timeout in seconds"
      default := "60" },
    { name := "port"
      effect := .value fun s => (port s).map fun p s => s.setPort p
      help := "Port for the socket fixture"
      default := toString defaultPort.toNat },
    { name := "bin-dir"
      effect := .value fun s => (path s).map fun d s => s.setDirectory d
      help := "Directory holding the fixture binaries; defaults to this executable's directory" }]

end Standstill.Orchestrator
