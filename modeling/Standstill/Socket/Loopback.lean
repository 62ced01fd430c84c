import Standstill.Socket.Link
import Standstill.Socket.Run

/-!
# Runs on one host

A world in which listener and connector meet on the host itself: the
addresses of the host can be bound, a port that is left open is chosen,
and the two loops run over one stream as `Link.play` orders them. An address
of a group of hosts can be bound too, but nobody can connect to it. A listener
waits for a connection as long as none is made, which may be for ever.
-/
namespace Standstill.Socket

namespace Loopback

/-- An address that no interface of the host has. -/
def notAvailable : IoFault := .errno ⟨99⟩

/-- An address to which no stream leads. -/
def unreachable : IoFault := .errno ⟨101⟩

/-- A port on which nobody listens. -/
def refused : IoFault := .errno ⟨111⟩

end Loopback

/-- How the two endpoints of a host meet. -/
structure Loopback where
  table : Net.Table := .ok []
  /-- The stream between the endpoints, when both have left their loops, or
  what connecting fails with. -/
  link : Except IoFault Link := .error Loopback.refused
  /-- How long the connector sleeps first. -/
  delay : Span := .zero
  /-- The port that is bound when none is asked for. -/
  openPort : UInt16 := 49152
  /-- The port of the connector's end. -/
  peerPort : UInt16 := 49153
  /-- The process number of a forked child. -/
  process : Nat := 2

namespace Loopback

/-- Whether an address can be bound: one of the loopback network, of an
interface or of a group, or the one that stands for them all. -/
def isLocal (h : Loopback) (ip : Ipv4) : Bool :=
  ip.isLoopback || ip.isGroup || ip == ⟨0, 0, 0, 0⟩ ||
    match h.table with
    | .ok records => records.any (·.address == some ip)
    | .error _ => false

/-- Bind an address of the host. -/
def bind (h : Loopback) (e : Endpoint) : Except Failure Endpoint :=
  match e with
  | .v4 ip port =>
    if h.isLocal ip then
      .ok (.v4 ip (if port = 0 then h.openPort else port))
    else .error (.bind e notAvailable)
  | .v6 ip scope port => .ok (.v6 ip scope (if port = 0 then h.openPort else port))

/-- The connector's end of the connection that a listener accepts. -/
def peer (h : Loopback) : Endpoint → Endpoint
  | .v4 ip _ => .v4 ip h.peerPort
  | .v6 ip scope _ => .v6 ip scope h.peerPort

/-- A bound listener. Without a stream nobody connects. -/
def serve (h : Loopback) (address : Endpoint) : Traced Failure ListenerReport :=
  Listener.trace address <| match h.link with
    | .error _ => .error (.kind .wouldBlock)
    | .ok k => .ok (h.peer address, k.listener)

def connect (h : Loopback) (address : Endpoint) : Traced Failure ConnectorReport :=
  Connector.trace h.delay address (h.link.map Link.connector)

/-- The child of a forked run that connects to an address. -/
def child (h : Loopback) (address : Endpoint) : Child := Child.ofRun (h.connect address) {}

/-- The world of a host in which a child, if there is one, connects to `address`. -/
def world (h : Loopback) (address : Endpoint) : World where
  table := h.table
  bind := h.bind
  serve := h.serve
  connect := h.connect
  fork := .ok h.process
  wait := .ok (h.child address).ending
  reads := [.data (h.child address).wire]

/-- What connecting to an address comes to where the stream `k` is, if there is one. -/
def linkAt (ip : Ipv4) (k : Option Link) : Except IoFault Link :=
  if ip.isGroup then .error unreachable
  else match k with
    | none => .error refused
    | some k => .ok k

/-- The world of a run. -/
def worldOf (h : Loopback) (c : Config) : World :=
  h.world (.v4 (c.address.getD .localhost) c.port)

/-- Whether a run waits for ever: it comes to wait for a connection, and its
own connector, which is to make it, does not connect. -/
def waits (h : Loopback) (c : Config) : Bool :=
  c.role == .both && !h.link.isOk &&
    (run c (h.worldOf c)).events.any fun
      | .awaitingConnection _ => true
      | _ => false

end Loopback

/-- The host of a run with both endpoints. `fault` is what writing to a closed
stream fails with. -/
def Config.host (c : Config) (table : Net.Table) (fault : IoFault) : Loopback :=
  let k := if c.role = .both then some (Link.play fault c.cycles c.cycles) else none
  { table, link := Loopback.linkAt (c.address.getD .localhost) k, delay := c.connectDelay }

end Standstill.Socket
