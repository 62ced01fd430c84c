import Standstill.Net.Interface
import Standstill.Socket.Child
import Standstill.Socket.Config

/-!
# A socket run

The configuration is checked and the address resolved before anything is
asked of the system. Then the endpoints of the role run: one of them alone,
or both, in two threads or in two processes. `World` holds what the system
answers to each thing asked.

Results:
* `run_of_invalid`: a refused configuration asks for nothing, not even for
  the interfaces.
* `run_of_unresolved`: without an address nothing but the interfaces is
  asked for.
-/
namespace Standstill.Socket

/-- The answers of the system to a run. -/
structure World where
  table : Net.Table
  /-- The endpoint that is bound when one is asked for. -/
  bind : Endpoint → Except Failure Endpoint
  /-- What a bound listener comes to, from accepting to closing. -/
  serve : Endpoint → Traced Failure ListenerReport
  /-- What a connector comes to, from its delay to closing. -/
  connect : Endpoint → Traced Failure ConnectorReport
  /-- What starting the connector's thread fails with. -/
  thread : Option IoFault := none
  /-- What opening a pipe fails with. -/
  pipe : Option IoFault := none
  /-- The child's process number. -/
  fork : Except Errno Nat := .ok 0
  /-- How the child ended. -/
  wait : Except Errno ChildEnd := .ok (.exited 0)
  /-- The reads from the pipe. -/
  reads : List Read := []

namespace World

/-- Bind an endpoint and listen on it. -/
def listen (w : World) (e : Endpoint) : Traced Failure Endpoint := do
  Traced.note (.bindAsked e)
  let local_ ← Traced.ofExcept (w.bind e)
  Traced.note (.listening local_)
  pure local_

/-- Listener and connector in two threads. -/
def runThreads (w : World) (address : Endpoint) (report : Report) : Traced Failure Report := do
  Traced.note (.threadAsked Peer.connector.name)
  match w.thread with
  | some f => Traced.error (.io f)
  | none => do
    let listener ← w.serve address
    let connector ← (w.connect address).apart
    pure { report with listener := some listener, connector := some connector }

/-- The end of a forked run: how the child ended comes first, then the
listener's own failure, then the child's report. -/
def settleFork (process : Nat) (report : Report) (ending : ChildEnd)
    (listener : Except Failure ListenerReport)
    (received : Except Failure (Option ConnectorReport)) : Traced Failure Report :=
  match ending with
  | .killed signal dumped => Traced.error (.peer .connector (.killed process signal dumped))
  | .exited code => do
    let listener ← Traced.ofExcept listener
    if code ≠ 0 then Traced.error (.peer .connector (.exitCode code))
    else match ← Traced.ofExcept received with
      | none => Traced.error (.peer .connector .silent)
      | some connector => do
        Traced.note (.reportReceived process)
        pure { report with
          listener := some listener
          connector := some connector
          peerExitCode := some code }

/-- Listener and connector in two processes. -/
def runFork (w : World) (address : Endpoint) (report : Report) : Traced Failure Report := do
  Traced.note .pipeAsked
  match w.pipe with
  | some f => Traced.error (.io f)
  | none => do
    Traced.note .forkAsked
    match w.fork with
    | .error e => Traced.error (.fork e)
    | .ok process => do
      Traced.note (.forked process)
      let listener ← (w.serve address).attempt
      match w.wait with
      | .error e => Traced.error (.wait e)
      | .ok ending => settleFork process report ending listener (receiveReport w.reads)

/-- The endpoints of a run at an address. -/
def runAt (w : World) (c : Config) (ip : Ipv4) : Traced Failure Report := do
  let endpoint := Endpoint.v4 ip c.port
  let report : Report := { address := endpoint, role := c.role, composition := c.composition }
  match c.role with
  | .listener => do
    let address ← w.listen endpoint
    let listener ← w.serve address
    pure { report with listener := some listener }
  | .connector => do
    let connector ← w.connect endpoint
    pure { report with connector := some connector }
  | .both => do
    let address ← w.listen endpoint
    let report := { report with address }
    match c.composition with
    | .threads => w.runThreads address report
    | .fork => w.runFork address report

end World

/-- A whole run. -/
def run (c : Config) (w : World) : Traced Failure Report :=
  match c.validate with
  | .error f => Traced.error (.config f)
  | .ok () => do
    let ip ← Net.resolve c.address w.table
    w.runAt c ip

theorem run_of_invalid {c : Config} {f : ConfigFault} (h : c.validate = .error f) (w : World) :
    run c w = ⟨[], .error (.config f)⟩ := by
  simp [run, h, Traced.error]

theorem run_of_unresolved {c : Config} {w : World} {f : Failure} (hv : c.validate = .ok ())
    (h : (Net.resolve c.address w.table).result = .error f) :
    run c w = ⟨(Net.resolve c.address w.table).events, .error f⟩ := by
  obtain ⟨h1, h2⟩ := Traced.events_bind_of_error (fun ip => w.runAt c ip) h
  unfold run
  simp only [hv]
  generalize (Net.resolve c.address w.table >>= fun ip => w.runAt c ip) = t at h1 h2 ⊢
  cases t
  simp_all

end Standstill.Socket
