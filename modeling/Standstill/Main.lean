import Standstill.Contention.Program
import Standstill.Orchestrator.Run
import Standstill.Socket.Loopback
import Standstill.Socket.Program

/-!
# Command line

The first argument names one of the three programs, the rest are its own
arguments. Runs are worked out, not waited for: both endpoints of a socket
run are on one host, and the orchestrator's fixtures are the two other
programs. The variable `STANDSTILL_LOG` of the environment may hold a filter for
the log.
-/
namespace Standstill

open CommandLine

/-- The interfaces of a host with a loopback interface and one other. -/
def hostTable : Net.Table := .ok [
  ⟨"lo", true, some .localhost⟩,
  ⟨"host0", false, some ⟨10, 0, 0, 1⟩⟩]

/-- What writing to a stream fails with once the other side has closed it. -/
def brokenPipe : IoFault := .errno ⟨32⟩

/-- The host of the socket program with given settings. -/
def socketHost (s : Socket.Settings) : Socket.Loopback := s.config.host hostTable brokenPipe

/-- The socket program on one host. -/
def performSocket (arguments : List String) : Exit :=
  Socket.program.perform
    (fun s => Socket.performWith ((socketHost s).worldOf s.config) s) arguments

/-- Whether the socket program waits for ever. -/
def socketWaits (arguments : List String) : Bool :=
  match Socket.program.parse arguments with
  | .ok s => (socketHost s).waits s.config
  | .error _ => false

/-- The contention program on a host that refuses nothing. -/
def performContention (arguments : List String) : Exit :=
  Contention.perform {} arguments

/-- A program as a fixture that is run with the arguments. -/
def asFixture (program : List String → Exit) (arguments : List String) :
    Orchestrator.Fixture :=
  .present fun _ =>
    let e := program arguments
    .ends (e.exitCode.map Int32.ofNat) (encodeText e.output) 0

/-- The orchestrator with the two programs as its fixtures. -/
def performOrchestrator (arguments : List String) : Exit :=
  Orchestrator.program.perform
    (fun s => Orchestrator.performWith "."
      (asFixture performSocket s.socketArguments)
      (asFixture performContention s.contentionArguments) s) arguments

/-- Whether the program that a command line names does not end. -/
def waits : List String → Bool
  | [] => false
  | name :: arguments => name == Socket.program.name && socketWaits arguments

/-- What the program that a command line names leaves. -/
def perform? : List String → Option Exit
  | [] => none
  | name :: arguments =>
    if name = Socket.program.name then some (performSocket arguments)
    else if name = Contention.program.name then some (performContention arguments)
    else if name = Orchestrator.program.name then some (performOrchestrator arguments)
    else none

end Standstill

open Standstill in
def main (arguments : List String) : IO UInt32 := do
  if waits arguments then
    IO.eprintln "Waiting for a connection that nobody makes"
    while true do
      IO.sleep 1000
  match perform? arguments with
  | none =>
    IO.eprintln "Usage: standstill net_blocker|sem_contention|scenario_orchestrator [OPTIONS]"
    return 2
  | some e =>
    let (e, log) := e.underFilter (← IO.getEnv "STANDSTILL_LOG")
    for line in log do
      IO.eprintln line.text
    IO.print e.output
    (← IO.getStdout).flush
    -- A process that a signal ended is shown as shells show an aborted one.
    return UInt32.ofNat (e.exitCode.getD 134)
