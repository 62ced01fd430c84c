import Standstill.Socket.Loopback

/-!
# Two parties of one run

A run with both endpoints, from where its listener is bound and its connector
started. From there on it is two parties, each with steps of its own. The
listener's side waits for a connection, runs its loop and then waits for the
connector's side to end, as the one that joins the thread or reaps the child.
The connector's side sleeps, connects or fails to, and runs its loop. The
loops meet in a `Link`, and what the run comes to is what `World.runThreads` or
`World.runFork` makes of the two sides.
-/
namespace Standstill.Socket

inductive ListenerSide
  /-- Waiting for a connection. -/
  | accepting
  /-- In its loop, or closing. -/
  | serving
  /-- Done with the stream, waiting for the connector's side to end. -/
  | collecting
  /-- The run has returned. -/
  | returned
deriving Repr, DecidableEq

inductive ConnectorSide
  | delaying
  | connecting
  /-- In its loop, or closing. -/
  | reading
  /-- The thread or process has ended. -/
  | ended
deriving Repr, DecidableEq

structure Parties where
  config : Config
  /-- The address that is bound. -/
  address : Endpoint
  listener : ListenerSide := .accepting
  connector : ConnectorSide := .delaying
  /-- What connecting has come to, once it has been tried: the stream, or a fault. -/
  link : Option (Except IoFault Link) := none

/-- A step of one party. -/
inductive PartyMove
  | delayEnds
  | connects
  | connectFails (fault : IoFault)
  | accepts
  /-- A move of either loop. -/
  | crosses (v : Move)
  | servingEnds
  | readingEnds
  | returns
deriving Repr, DecidableEq

/-- The side of the stream that makes a move. -/
def Move.isListeners : Move → Bool
  | .write | .writeLost | .writeFails .. | .closeListener => true
  | .read _ | .readEnd | .closeConnector => false

namespace Parties

def start (c : Config) (address : Endpoint) : Parties := { config := c, address }

/-- Whether a move of the loops is one of a side that is at its loop. -/
def atLoop (p : Parties) (v : Move) : Bool :=
  if v.isListeners then p.listener == .serving else p.connector == .reading

/-- The parties after a step; `none` if it is not possible. -/
def step (p : Parties) : PartyMove → Option Parties
  | .delayEnds => if p.connector = .delaying then some { p with connector := .connecting } else none
  | .connects =>
    if p.connector = .connecting then
      some { p with
        connector := .reading
        link := some (.ok (.start p.config.cycles p.config.cycles)) }
    else none
  | .connectFails f =>
    if p.connector = .connecting then
      some { p with connector := .ended, link := some (.error f) }
    else none
  | .accepts =>
    match p.listener, p.link with
    | .accepting, some (.ok _) => some { p with listener := .serving }
    | _, _ => none
  | .crosses v =>
    match p.link with
    | some (.ok k) =>
      if p.atLoop v then (k.step v).map fun k => { p with link := some (.ok k) } else none
    | _ => none
  | .servingEnds =>
    match p.listener, p.link with
    | .serving, some (.ok k) =>
      if k.listenerClosed then some { p with listener := .collecting } else none
    | _, _ => none
  | .readingEnds =>
    match p.connector, p.link with
    | .reading, some (.ok k) =>
      if k.connectorClosed then some { p with connector := .ended } else none
    | _, _ => none
  | .returns =>
    if p.listener = .collecting ∧ p.connector = .ended then some { p with listener := .returned }
    else none

/-- The states that steps lead to. -/
inductive Reaches : Parties → Parties → Prop
  | refl (p : Parties) : Reaches p p
  | tail {p q r : Parties} (m : PartyMove) : Reaches p q → q.step m = some r → Reaches p r

/-- Whether some party can step. -/
def CanStep (p : Parties) : Prop := ∃ m q, p.step m = some q

/-- The report before either side has added to it. -/
def blankReport (p : Parties) : Report :=
  { address := p.address, role := .both, composition := p.config.composition }

/-- The answers of the system that the sides have had. -/
def world (p : Parties) : World :=
  let host : Loopback :=
    { link := p.link.getD (.error Loopback.refused), delay := p.config.connectDelay }
  host.world p.address

/-- What the run has come to, once it has returned. -/
def result? (p : Parties) : Option (Except Failure Report) :=
  if p.listener = .returned then
    some <| match p.config.composition with
      | .threads => (p.world.runThreads p.address p.blankReport).result
      | .fork => (p.world.runFork p.address p.blankReport).result
  else none

end Parties

end Standstill.Socket
