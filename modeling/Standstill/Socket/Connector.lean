import Standstill.Log

/-!
# The connector's reads

A connector reads up to a number of times. A read that was broken off is
tried again and not counted; the end of the stream or another failure ends
the loop.

Results:
* `readAll_of_ended`: a connector that has left its loop reads no more.
* `result_trace`: only connecting can fail.
* `onRead_interrupted`: a read that was broken off leaves no trace.
-/
namespace Standstill.Socket

/-- What one read comes to. -/
inductive ReadOutcome
  /-- Some bytes, at least one and at most the size of a message. -/
  | data (size : Nat)
  | streamEnd
  | fault (f : IoFault)
deriving Repr, DecidableEq

/-- A connector in its loop. -/
structure Connector where
  /-- Reads it may make. -/
  cycles : UInt32
  attempts : UInt32 := 0
  /-- Reads that returned data. -/
  reads : UInt32 := 0
  bytes : UInt64 := 0
  /-- Why it has left the loop, once it has. -/
  ended : Option EndReason := none
  events : List Event := []
deriving Repr, DecidableEq

namespace Connector

/-- A connector before its first read; with no read to make it has none. -/
def start (cycles : UInt32) : Connector :=
  { cycles, ended := if cycles = 0 then some .cycleLimit else none }

/-- The connector after a read. -/
def onRead (c : Connector) : ReadOutcome → Connector
  | .data n =>
    { c with
      attempts := c.attempts + 1
      reads := c.reads + 1
      bytes := c.bytes + UInt64.ofNat n
      ended := if c.attempts + 1 = c.cycles then some .cycleLimit else none
      events := c.events ++ [.received n (c.bytes + UInt64.ofNat n)] }
  | .streamEnd =>
    { c with ended := some .peerClosed, events := c.events ++ [.listenerClosed c.reads] }
  | .fault f =>
    if f.isInterrupted then c
    else { c with ended := some .peerClosed, events := c.events ++ [.readFailed c.reads f] }

def report (c : Connector) : ConnectorReport := ⟨c.reads, c.bytes, c.ended.getD .cycleLimit⟩

/-- Run the loop against the outcomes of the reads. The stream ends after them. -/
def readAll : Connector → List ReadOutcome → Connector
  | c, [] => if c.ended.isSome then c else c.onRead .streamEnd
  | c, o :: os => if c.ended.isSome then c else readAll (c.onRead o) os

theorem readAll_of_ended {c : Connector} {r : EndReason} (h : c.ended = some r)
    (os : List ReadOutcome) : c.readAll os = c := by
  cases os <;> simp [readAll, h]

theorem onRead_interrupted (c : Connector) {f : IoFault} (h : f.isInterrupted = true) :
    c.onRead (.fault f) = c := by
  simp [onRead, h]

/-- The reads that some bytes take that arrive together. -/
def readsOf (size : Nat) : List ReadOutcome :=
  List.replicate (size / messageSize) (.data messageSize) ++
    if size % messageSize = 0 then [] else [.data (size % messageSize)]

/-- The whole loop. -/
def run (cycles : UInt32) (outcomes : List ReadOutcome) : Connector :=
  readAll (start cycles) outcomes

/-- A connector from its delay to closing. `loop` is the connector once it has
left its loop, or what connecting fails with. -/
def trace (delay : Span) (address : Endpoint) (loop : Except IoFault Connector) :
    Traced Failure ConnectorReport := do
  if !delay.isZero then Traced.note (.delaying delay)
  Traced.note (.connectAsked address)
  match loop with
  | .error f => Traced.error (.connect address f)
  | .ok c => do
    Traced.note (.connected address)
    Traced.notes c.events
    pure c.report

theorem result_trace (delay : Span) (address : Endpoint) (loop : Except IoFault Connector) :
    (trace delay address loop).result =
      (loop.map report).mapError (Failure.connect address) := by
  unfold trace
  cases loop <;> cases delay.isZero <;> rfl

end Connector

end Standstill.Socket
