import Standstill.CommandLine.Help
import Standstill.Socket.Config

/-!
# The program that runs a socket run

Its options set the fields of the configuration one by one, the tick in
milliseconds; two flags ask for the report and for a longer log.
-/
namespace Standstill.Socket

open CommandLine

/-- The settings of the program. -/
structure Settings where
  config : Config := {}
  /-- Whether the report is printed. -/
  json : Bool := false
  /-- Whether more is logged. -/
  debug : Bool := false
deriving Repr, DecidableEq

namespace Settings

def setRole (s : Settings) (r : Role) : Settings := { s with config.role := r }

def setComposition (s : Settings) (c : Composition) : Settings :=
  { s with config.composition := c }

def setAddress (s : Settings) (ip : Ipv4) : Settings := { s with config.address := some ip }

def setPort (s : Settings) (p : UInt16) : Settings := { s with config.port := p }

def setCycles (s : Settings) (n : UInt32) : Settings := { s with config.cycles := n }

def setTick (s : Settings) (ms : UInt64) : Settings := { s with config.tick := .ofMillis ms }

def setDelay (s : Settings) (n : UInt32) : Settings := { s with config.connectDelayTicks := n }

end Settings

/-- The version of the programs. -/
def version : String := "0.1.0"

def program : Program Settings where
  name := "net_blocker"
  version := version
  about := "Hold a TCP connector blocked in read while a listener feeds it slowly"
  start := {}
  layout := .below
  options := [
    { name := "role"
      effect := .value fun s => (choice Role.all Role.name s).map fun r s => s.setRole r
      help := "Endpoint(s) to run"
      default := Role.both.name
      choices := Role.all.map Role.name },
    { name := "composition"
      effect := .value fun s =>
        (choice Composition.all Composition.name s).map fun c s => s.setComposition c
      help := "How to host both endpoints when --role both"
      default := Composition.fork.name
      choices := Composition.all.map Composition.name },
    { name := "address"
      effect := .value fun s => (address s).map fun ip s => s.setAddress ip
      help := "IPv4 address to bind/connect; defaults to the first non-loopback interface" },
    { name := "port"
      effect := .value fun s => (port s).map fun p s => s.setPort p
      default := toString defaultPort.toNat },
    { name := "cycles"
      effect := .value fun s => (count s).map fun n s => s.setCycles n
      help := "Send cycles on the listener, read attempts on the connector"
      default := toString defaultCycles.toNat },
    { name := "tick-ms"
      effect := .value fun s => (size s).map fun n s => s.setTick n
      help := "Length of one tick in milliseconds"
      default := "1000" },
    { name := "connect-delay-ticks"
      effect := .value fun s => (count s).map fun n s => s.setDelay n
      help := "Ticks the connector waits before connecting"
      default := toString defaultDelayTicks.toNat },
    { name := "json"
      effect := .flag fun s => { s with json := true }
      help := "Print the scenario report as JSON on stdout" },
    { name := "debug"
      effect := .flag fun s => { s with debug := true }
      help := "Enable debug logging" }]

end Standstill.Socket
