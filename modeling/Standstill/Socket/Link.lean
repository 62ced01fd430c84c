import Standstill.Socket.Connector
import Standstill.Socket.Listener

/-!
# One stream between two loops

The listener's loop writes into a stream that keeps order, the connector's
loop reads from it. A read takes any part of what is in flight. Once the
connector has closed its end, a write may still pass with its bytes lost, or
fail. `step` gives the moves that are possible, `play` runs one order of
them: each message is read before the next one is written, and the listener
learns with its second write that the connector has left.

Results:
* `reaches_play`: what is played is a run by moves.
-/
namespace Standstill.Socket

structure Link where
  listener : Listener
  connector : Connector
  /-- Whether the listener's end is closed. -/
  listenerClosed : Bool := false
  connectorClosed : Bool := false
  /-- Written and not read yet. -/
  inFlight : List UInt8 := []
  /-- Read so far. -/
  received : List UInt8 := []
deriving Repr, DecidableEq

/-- One move of one side. -/
inductive Move
  | write
  /-- A write after the connector has closed, whose bytes are lost. -/
  | writeLost
  /-- A write after the connector has closed that fails. -/
  | writeFails (taken : Nat) (fault : IoFault)
  | closeListener
  /-- A read that returns `size` bytes. -/
  | read (size : Nat)
  /-- A read that finds the stream at its end. -/
  | readEnd
  | closeConnector
deriving Repr, DecidableEq

namespace Link

/-- Both loops before their first cycle. -/
def start (listenerCycles connectorCycles : UInt32) : Link :=
  { listener := .start listenerCycles, connector := .start connectorCycles }

/-- The link after a move; `none` if the move is not possible. -/
def step (k : Link) : Move → Option Link
  | .write =>
    if k.listener.ended = none ∧ k.connectorClosed = false then
      some { k with
        listener := k.listener.onWrite .whole
        inFlight := k.inFlight ++ message }
    else none
  | .writeLost =>
    if k.listener.ended = none ∧ k.connectorClosed = true then
      some { k with listener := k.listener.onWrite .whole }
    else none
  | .writeFails taken fault =>
    if k.listener.ended = none ∧ k.connectorClosed = true ∧ taken < messageSize then
      some { k with listener := k.listener.onWrite (.broken taken fault) }
    else none
  | .closeListener =>
    if k.listener.ended ≠ none ∧ k.listenerClosed = false then
      some { k with listenerClosed := true }
    else none
  | .read n =>
    if k.connector.ended = none ∧ 0 < n ∧ n ≤ min messageSize k.inFlight.length then
      some { k with
        connector := k.connector.onRead (.data n)
        inFlight := k.inFlight.drop n
        received := k.received ++ k.inFlight.take n }
    else none
  | .readEnd =>
    if k.connector.ended = none ∧ k.inFlight = [] ∧ k.listenerClosed = true then
      some { k with connector := k.connector.onRead .streamEnd }
    else none
  | .closeConnector =>
    if k.connector.ended ≠ none ∧ k.connectorClosed = false then
      some { k with connectorClosed := true }
    else none

/-- The links that moves lead to. -/
inductive Reaches : Link → Link → Prop
  | refl (k : Link) : Reaches k k
  | tail {k m n : Link} (v : Move) : Reaches k m → m.step v = some n → Reaches k n

theorem Reaches.trans {k m n : Link} (h : Reaches k m) (h' : Reaches m n) : Reaches k n := by
  induction h' with
  | refl => exact h
  | tail v _ hs ih => exact ih.tail v hs

/-- Whether both sides have returned. -/
def isOver (k : Link) : Bool := k.listenerClosed && k.connectorClosed

/-- The link after a move, or as it is if the move is not possible. -/
def after (k : Link) (v : Move) : Link := (k.step v).getD k

/-- Read a message if one is there, or the end of the stream, and close once
the loop is left. -/
def connectorTurn (k : Link) : Link :=
  ((k.after (.read messageSize)).after .readEnd).after .closeConnector

/-- Write a message. The first write after the connector has closed is lost
and the next one fails; `lost` tells whether one is lost already. -/
def listenerTurn (fault : IoFault) (lost : Bool) (k : Link) : Link :=
  let k := if k.connectorClosed ∧ lost then k.after (.writeFails 0 fault)
    else (k.after .write).after .writeLost
  k.after .closeListener

/-- Turns of both sides until both are over, `n` turns at most. -/
def playFrom (fault : IoFault) : Nat → (lost : Bool) → Link → Link
  | 0, _, k => k
  | n + 1, lost, k =>
    if k.isOver then k
    else playFrom fault n k.connectorClosed ((listenerTurn fault lost k).connectorTurn)

/-- A whole run in one order. The connector closes first if it has no cycle. -/
def play (fault : IoFault) (listenerCycles connectorCycles : UInt32) : Link :=
  let k := start listenerCycles connectorCycles
  let k := k.after .closeConnector
  playFrom fault (listenerCycles.toNat + 3) false (k.after .closeListener)

theorem reaches_after (k : Link) (v : Move) : Reaches k (k.after v) := by
  unfold after
  cases h : k.step v with
  | none => exact .refl k
  | some m => exact .tail v (.refl k) h

theorem reaches_connectorTurn (k : Link) : Reaches k k.connectorTurn :=
  ((reaches_after k _).trans (reaches_after _ _)).trans (reaches_after _ _)

theorem reaches_listenerTurn (fault : IoFault) (lost : Bool) (k : Link) :
    Reaches k (listenerTurn fault lost k) := by
  unfold listenerTurn
  simp only
  split
  · exact (reaches_after k _).trans (reaches_after _ _)
  · exact ((reaches_after k _).trans (reaches_after _ _)).trans (reaches_after _ _)

theorem reaches_playFrom (fault : IoFault) (n : Nat) (lost : Bool) (k : Link) :
    Reaches k (playFrom fault n lost k) := by
  induction n generalizing lost k with
  | zero => exact .refl k
  | succ n ih =>
    unfold playFrom
    split
    · exact .refl k
    · exact ((reaches_listenerTurn fault lost k).trans (reaches_connectorTurn _)).trans (ih _ _)

theorem reaches_play (fault : IoFault) (listenerCycles connectorCycles : UInt32) :
    Reaches (start listenerCycles connectorCycles) (play fault listenerCycles connectorCycles) :=
  ((reaches_after _ _).trans (reaches_after _ _)).trans (reaches_playFrom ..)

end Link

end Standstill.Socket
