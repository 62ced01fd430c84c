import Mathlib
import Standstill.Proofs.Socket.Stream
import Standstill.Socket.Parties

/-!
# How far a stream has to go

Each move over the stream brings one of the loops nearer to its end, or
closes a side. The listener's side never waits: a write or closing is possible
until it has closed. The connector's side waits for bytes or for the end of
the stream, which it has once the listener's side has closed.

Results:
* `Link.movesLeft_step`: each move leaves fewer moves.
* `Link.exists_listener_step`, `Link.exists_connector_step`: when a side can move.
-/
namespace Standstill.Socket

/-- The writes that are left to a listener. -/
def Listener.left (l : Listener) : Nat :=
  if l.ended = none then l.cycles.toNat - l.cycle.toNat else 0

/-- The reads that are left to a connector. -/
def Connector.left (c : Connector) : Nat :=
  if c.ended = none then c.cycles.toNat - c.reads.toNat else 0

theorem Listener.Sound.left_onWrite {cycles : UInt32} {l : Listener} (hs : l.Sound cycles)
    (h : l.ended = none) (o : WriteOutcome) : (l.onWrite o).left < l.left := by
  have hlt := hs.ends.going h
  rw [← hs.cycles_eq] at hlt
  cases o with
  | whole =>
    have hnext : (l.onWrite .whole).cycle.toNat = l.cycle.toNat + 1 := toNat_add_one_of_lt hlt
    have hcycles : (l.onWrite .whole).cycles = l.cycles := rfl
    simp only [left, h, ↓reduceIte, hcycles, hnext]
    split <;> omega
  | broken taken f =>
    have hended : (l.onWrite (.broken taken f)).ended ≠ none := nofun
    simp only [left, h, hended, ↓reduceIte]
    omega

theorem Connector.Sound.left_onRead {cycles : UInt32} {c : Connector} (hs : c.Sound cycles)
    (h : c.ended = none) (n : Nat) : (c.onRead (.data n)).left < c.left := by
  have hlt := hs.ends.going h
  have hreads := hs.toNat_reads_onRead h n
  have hcycles : (c.onRead (.data n)).cycles = c.cycles := rfl
  rw [← hs.cycles_eq] at hlt
  simp only [left, h, ↓reduceIte, hcycles, hreads]
  split <;> omega

theorem Connector.Sound.left_onEnd {cycles : UInt32} {c : Connector} (hs : c.Sound cycles)
    (h : c.ended = none) : (c.onRead .streamEnd).left < c.left := by
  have hlt := hs.ends.going h
  have hended : (c.onRead .streamEnd).ended ≠ none := nofun
  rw [← hs.cycles_eq] at hlt
  simp only [left, h, hended, ↓reduceIte]
  omega

namespace Link

variable {listenerCycles connectorCycles : UInt32} {k m : Link}

/-- A bound on the moves that are left. -/
def movesLeft (k : Link) : Nat :=
  k.listener.left + k.connector.left + (if k.listenerClosed then 0 else 1) +
    (if k.connectorClosed then 0 else 1)

theorem movesLeft_step (hs : k.Sound listenerCycles connectorCycles) {v : Move}
    (h : k.step v = some m) : m.movesLeft < k.movesLeft := by
  cases moves_of_step h with
  | write hgoing | writeLost hgoing =>
    have hless := hs.listener.sound.left_onWrite hgoing .whole
    simp only [movesLeft]
    omega
  | @writeFails taken f hgoing =>
    have hless := hs.listener.sound.left_onWrite hgoing (.broken taken f)
    simp only [movesLeft]
    omega
  | @read n hgoing =>
    have hless := hs.connector.sound.left_onRead hgoing n
    simp only [movesLeft]
    omega
  | readEnd hgoing =>
    have hless := hs.connector.sound.left_onEnd hgoing
    simp only [movesLeft]
    omega
  | closeListener hended hopen | closeConnector hended hopen => simp [movesLeft, hopen]

/-- Until it has closed, the listener's side can move whatever the other side does. -/
theorem exists_listener_step (h : k.listenerClosed = false) :
    ∃ v m, v.isListeners = true ∧ k.step v = some m := by
  by_cases hgoing : k.listener.ended = none
  · cases hc : k.connectorClosed with
    | false => exact ⟨.write, _, rfl, if_pos ⟨hgoing, hc⟩⟩
    | true => exact ⟨.writeLost, _, rfl, if_pos ⟨hgoing, hc⟩⟩
  · exact ⟨.closeListener, _, rfl, if_pos ⟨hgoing, h⟩⟩

/-- Once the listener's side has closed, the connector's side can move until it has too. -/
theorem exists_connector_step (hl : k.listenerClosed = true) (h : k.connectorClosed = false) :
    ∃ v m, v.isListeners = false ∧ k.step v = some m := by
  by_cases hgoing : k.connector.ended = none
  · by_cases hempty : k.inFlight = []
    · exact ⟨.readEnd, _, rfl, if_pos ⟨hgoing, hempty, hl⟩⟩
    · have hsize : 1 ≤ min messageSize k.inFlight.length := by
        have := List.length_pos_iff.2 hempty
        simp only [messageSize]
        omega
      exact ⟨.read 1, _, rfl, if_pos ⟨hgoing, Nat.one_pos, hsize⟩⟩
  · exact ⟨.closeConnector, _, rfl, if_pos ⟨hgoing, h⟩⟩

end Link

end Standstill.Socket
