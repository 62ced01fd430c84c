import Standstill.Log

/-!
# Where an event comes from

Each event belongs to one part of a run. A part has a path, by which a filter
speaks of its lines: the paths of the scenarios' parts begin alike, and each
program has its own.
-/
namespace Standstill

/-- A part of a run. -/
inductive Origin
  | contention
  | interfaces
  | socket
  | listener
  | connector
  | socketProgram
  | contentionProgram
  | orchestrator
deriving Repr, DecidableEq

def Origin.path : Origin → String
  | .contention => "stall_core::contention"
  | .interfaces => "stall_core::netif"
  | .socket => "stall_core::socket"
  | .listener => "stall_core::socket::listener"
  | .connector => "stall_core::socket::connector"
  | .socketProgram => "net_blocker"
  | .contentionProgram => "sem_contention"
  | .orchestrator => "scenario_orchestrator"

def Event.origin : Event → Origin
  | .threadAsked _ | .sleepAsked _ | .locksMade _ | .workerStarted .. | .contentionStarted ..
  | .waitElapsed .. | .contentionFinished .. => .contention
  | .interfacesAsked | .scanned _ | .usingInterface .. => .interfaces
  | .pipeAsked | .forkAsked | .usingConfigured _ | .forked _ | .reportReceived _
  | .connectorFinished _ | .reportNotSent _ | .connectorFailed _ => .socket
  | .bindAsked _ | .listening _ | .awaitingConnection _ | .accepted _ | .sent ..
  | .peerClosed .. => .listener
  | .connectAsked _ | .delaying _ | .connected _ | .received .. | .listenerClosed _
  | .readFailed .. => .connector
  | .socketRunStarted .. | .listenerDone _ | .connectorDone _ | .socketRunFailed _ =>
    .socketProgram
  | .lockDone _ | .contentionFailed _ => .contentionProgram
  | .orchestratorStarted | .fixtureRun .. | .fixtureEnded .. | .fixtureSkipped ..
  | .fixtureFailed .. => .orchestrator

end Standstill
