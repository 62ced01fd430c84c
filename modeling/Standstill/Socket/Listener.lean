import Standstill.Log

/-!
# The listener's writes

A listener writes one message a cycle. The first write that fails ends its
loop; the number of messages in the report, the number of the cycle in the
log and the bytes on the stream are kept by separate counts.

Results:
* `serveFrom_of_ended`: a listener that has left its loop writes no more.
* `result_trace`: only accepting can fail.
-/
namespace Standstill.Socket

/-- What the write of one message comes to. -/
inductive WriteOutcome
  | whole
  /-- A failure after some bytes of the message were taken. -/
  | broken (taken : Nat) (fault : IoFault)
deriving Repr, DecidableEq

/-- The bytes that reach the stream. -/
def WriteOutcome.bytes : WriteOutcome → List UInt8
  | .whole => message
  | .broken taken _ => message.take taken

/-- A listener in its loop. -/
structure Listener where
  /-- Cycles it is to run. -/
  cycles : UInt32
  /-- Cycles begun and done. -/
  cycle : UInt32 := 0
  sent : UInt32 := 0
  /-- Why it has left the loop, once it has. -/
  ended : Option EndReason := none
  events : List Event := []
deriving Repr, DecidableEq

namespace Listener

/-- A listener before its first cycle; with no cycle to run it has none. -/
def start (cycles : UInt32) : Listener :=
  { cycles, ended := if cycles = 0 then some .cycleLimit else none }

/-- The listener after a write. -/
def onWrite (l : Listener) : WriteOutcome → Listener
  | .whole =>
    { l with
      cycle := l.cycle + 1
      sent := l.sent + 1
      ended := if l.cycle + 1 = l.cycles then some .cycleLimit else none
      events := l.events ++ [.sent (l.sent + 1) l.cycles] }
  | .broken _ f =>
    { l with
      ended := some .peerClosed
      events := l.events ++ [.peerClosed l.cycle f] }

def report (l : Listener) : ListenerReport := ⟨l.sent, l.ended.getD .cycleLimit⟩

/-- Run the loop for `left` more cycles against the outcomes of the writes,
counted from zero. The bytes are those that reach the stream. -/
def serveFrom (outcome : Nat → WriteOutcome) : (left : Nat) → Listener → Listener × List UInt8
  | 0, l => (l, [])
  | n + 1, l =>
    match l.ended with
    | some _ => (l, [])
    | none =>
      let o := outcome l.cycle.toNat
      let (m, bytes) := serveFrom outcome n (l.onWrite o)
      (m, o.bytes ++ bytes)

theorem serveFrom_of_ended (outcome : Nat → WriteOutcome) (n : Nat) {l : Listener} {r : EndReason}
    (h : l.ended = some r) : serveFrom outcome n l = (l, []) := by
  cases n with
  | zero => rfl
  | succ n => simp [serveFrom, h]

/-- The whole loop. -/
def serve (cycles : UInt32) (outcome : Nat → WriteOutcome) : Listener × List UInt8 :=
  serveFrom outcome cycles.toNat (start cycles)

/-- A bound listener from accepting to closing. `accepted` is the other end of
the connection and the listener once it has left its loop, or what accepting
fails with. -/
def trace (address : Endpoint) (accepted : Except IoFault (Endpoint × Listener)) :
    Traced Failure ListenerReport := do
  Traced.note (.awaitingConnection address)
  match accepted with
  | .error f => Traced.error (.accept f)
  | .ok (peer, l) => do
    Traced.note (.accepted peer)
    Traced.notes l.events
    pure l.report

theorem result_trace (address : Endpoint) (accepted : Except IoFault (Endpoint × Listener)) :
    (trace address accepted).result =
      (accepted.map fun a => a.2.report).mapError Failure.accept := by
  cases accepted <;> rfl

end Listener

end Standstill.Socket
