import Standstill.Net.Endpoint
import Standstill.Socket.Role

/-!
# Reports of a socket run

What the listener and the connector did, and the report of the run that has
one of them or both. Data went across if the connector received some; only
without a connector's report do the writes of the listener count.
-/
namespace Standstill.Socket

/-- Why an endpoint stopped. -/
inductive EndReason
  /-- All cycles are done. -/
  | cycleLimit
  /-- The other side went away first. -/
  | peerClosed
deriving Repr, DecidableEq

namespace EndReason

def name : EndReason → String
  | .cycleLimit => "cycle_limit"
  | .peerClosed => "peer_closed"

def all : List EndReason := [.cycleLimit, .peerClosed]

def codec : Json.Codec EndReason := (Json.Choices.named all name).codec

/-- The name as log lines have it. -/
def title : EndReason → String
  | .cycleLimit => "CycleLimit"
  | .peerClosed => "PeerClosed"

end EndReason

structure ListenerReport where
  messagesSent : UInt32
  endedBy : EndReason
deriving Repr, DecidableEq

structure ConnectorReport where
  /-- Reads that returned data. -/
  reads : UInt32
  bytesReceived : UInt64
  endedBy : EndReason
deriving Repr, DecidableEq

structure Report where
  address : Endpoint
  role : Role
  composition : Composition
  listener : Option ListenerReport := none
  connector : Option ConnectorReport := none
  /-- Exit code of the forked connector, if there was one. -/
  peerExitCode : Option Int32 := none
deriving Repr, DecidableEq

/-- Whether at least one byte is known to have gone across. -/
def Report.exchangedData (r : Report) : Bool :=
  match r.listener, r.connector with
  | _, some c => 0 < c.bytesReceived
  | some l, none => 0 < l.messagesSent
  | none, none => false

/-! ## JSON -/

def ListenerReport.record : Json.Record ListenerReport where
  title := "struct ListenerReport"
  arity := "struct ListenerReport with 2 elements"
  fields :=
    .cons "messages_sent" .word32 none <|
    .cons "ended_by" EndReason.codec none .nil
  build := fun (sent, reason, ()) => .ok ⟨sent, reason⟩
  parts := fun r => (r.messagesSent, r.endedBy, ())
  closed := false

def ListenerReport.codec : Json.Codec ListenerReport := ListenerReport.record.codec

def ConnectorReport.record : Json.Record ConnectorReport where
  title := "struct ConnectorReport"
  arity := "struct ConnectorReport with 3 elements"
  fields :=
    .cons "reads" .word32 none <|
    .cons "bytes_received" .word64 none <|
    .cons "ended_by" EndReason.codec none .nil
  build := fun (reads, bytes, reason, ()) => .ok ⟨reads, bytes, reason⟩
  parts := fun r => (r.reads, r.bytesReceived, r.endedBy, ())
  closed := false

def ConnectorReport.codec : Json.Codec ConnectorReport := ConnectorReport.record.codec

def Report.record : Json.Record Report where
  title := "struct SocketReport"
  arity := "struct SocketReport with 6 elements"
  fields :=
    .cons "address" Endpoint.codec none <|
    .cons "role" Role.codec none <|
    .cons "composition" Composition.codec none <|
    .cons "listener" (.optional ListenerReport.codec) (some none) <|
    .cons "connector" (.optional ConnectorReport.codec) (some none) <|
    .cons "peer_exit_code" (.optional .signed32) (some none) .nil
  build := fun (address, role, composition, listener, connector, code, ()) =>
    .ok ⟨address, role, composition, listener, connector, code⟩
  parts := fun r =>
    (r.address, r.role, r.composition, r.listener, r.connector, r.peerExitCode, ())
  closed := false

def Report.codec : Json.Codec Report := Report.record.codec

end Standstill.Socket
