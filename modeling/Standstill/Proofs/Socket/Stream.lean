import Mathlib
import Standstill.Proofs.Socket.Loops
import Standstill.Socket.Link

/-!
# What crosses the stream

Listener and connector run their loops over one stream, in any order of their
moves and with reads of any size. `Link.Sound` says what is true between any
two moves: the bytes read and the bytes in flight are whole messages in order,
as many as were written before the connector closed, and each side leaves its
loop early only after the other side has closed.

Results:
* `sound_step`, `sound_of_reaches`: each move keeps `Sound`, so each run does.
* `sides_agree_when_over`: what the two reports of one run say of each other.
-/
namespace Standstill.Socket

/-- The bytes of some messages, one after the other. -/
def messages (n : Nat) : List UInt8 := (List.replicate n message).flatten

theorem messages_succ (n : Nat) : messages (n + 1) = messages n ++ message := by
  simp [messages, List.replicate_succ']

theorem length_messages (n : Nat) : (messages n).length = messageSize * n := by
  simp [messages, List.sum_replicate, length_message, Nat.mul_comm]

theorem messages_mono {m n : Nat} (h : m ≤ n) : messages m <+: messages n := by
  obtain ⟨k, rfl⟩ := Nat.exists_eq_add_of_le h
  refine ⟨messages k, ?_⟩
  rw [messages, messages, messages, List.replicate_add, List.flatten_append]

namespace Link

/-- What each move does, and when it can be made. -/
inductive Moves (k : Link) : Move → Link → Prop
  | write (hgoing : k.listener.ended = none) (hopen : k.connectorClosed = false) :
      k.Moves .write
        { k with
          listener := k.listener.onWrite .whole
          inFlight := k.inFlight ++ message }
  | writeLost (hgoing : k.listener.ended = none) (hclosed : k.connectorClosed = true) :
      k.Moves .writeLost { k with listener := k.listener.onWrite .whole }
  | writeFails {taken : Nat} (fault : IoFault) (hgoing : k.listener.ended = none)
      (hclosed : k.connectorClosed = true) (htaken : taken < messageSize) :
      k.Moves (.writeFails taken fault)
        { k with listener := k.listener.onWrite (.broken taken fault) }
  | closeListener (hended : k.listener.ended ≠ none) (hopen : k.listenerClosed = false) :
      k.Moves .closeListener { k with listenerClosed := true }
  | read {n : Nat} (hgoing : k.connector.ended = none) (hpos : 0 < n)
      (hn : n ≤ min messageSize k.inFlight.length) :
      k.Moves (.read n)
        { k with
          connector := k.connector.onRead (.data n)
          inFlight := k.inFlight.drop n
          received := k.received ++ k.inFlight.take n }
  | readEnd (hgoing : k.connector.ended = none) (hempty : k.inFlight = [])
      (hclosed : k.listenerClosed = true) :
      k.Moves .readEnd { k with connector := k.connector.onRead .streamEnd }
  | closeConnector (hended : k.connector.ended ≠ none) (hopen : k.connectorClosed = false) :
      k.Moves .closeConnector { k with connectorClosed := true }

theorem moves_of_step {k m : Link} {v : Move} (h : k.step v = some m) : k.Moves v m := by
  cases v <;> simp only [step, Option.ite_none_right_eq_some, Option.some.injEq] at h <;>
    obtain ⟨hguard, rfl⟩ := h
  case write => exact .write hguard.1 hguard.2
  case writeLost => exact .writeLost hguard.1 hguard.2
  case writeFails taken fault => exact .writeFails fault hguard.1 hguard.2.1 hguard.2.2
  case closeListener => exact .closeListener hguard.1 hguard.2
  case read n => exact .read hguard.1 hguard.2.1 hguard.2.2
  case readEnd => exact .readEnd hguard.1 hguard.2.1 hguard.2.2
  case closeConnector => exact .closeConnector hguard.1 hguard.2

/-- What is true between any two moves. -/
structure Sound (listenerCycles connectorCycles : UInt32) (k : Link) : Prop where
  listener : k.listener.Reached listenerCycles
  connector : k.connector.Reached connectorCycles
  /-- Order is kept, and what was written before the connector closed is not lost. -/
  carried : ∃ n ≤ k.listener.sent.toNat, k.received ++ k.inFlight = messages n ∧
    (k.connectorClosed = false → n = k.listener.sent.toNat)
  counted : k.connector.bytes.toNat = k.received.length
  listenerLeft : k.listenerClosed = true → k.listener.ended ≠ none
  connectorLeft : k.connectorClosed = true → k.connector.ended ≠ none
  refused : k.listener.ended = some .peerClosed → k.connectorClosed = true
  drained : k.connector.ended = some .peerClosed →
    k.listener.ended = some .cycleLimit ∧ k.received = messages listenerCycles.toNat

variable {listenerCycles connectorCycles : UInt32} {k m : Link}

theorem sound_start (listenerCycles connectorCycles : UInt32) :
    (start listenerCycles connectorCycles).Sound listenerCycles connectorCycles where
  listener := .start
  connector := .start
  carried := ⟨0, Nat.le_refl _, rfl, fun _ => rfl⟩
  counted := rfl
  listenerLeft := nofun
  connectorLeft := nofun
  refused h := absurd h ite_cycleLimit_ne
  drained h := absurd h ite_cycleLimit_ne

/-- A connector that still reads has not closed. -/
theorem Sound.connectorOpen (hs : k.Sound listenerCycles connectorCycles)
    (h : k.connector.ended = none) : k.connectorClosed = false := by
  by_contra hclosed
  exact hs.connectorLeft (by simpa using hclosed) h

/-- A write changes only what the listener counts and what is in flight. -/
theorem Sound.onWrite (hs : k.Sound listenerCycles connectorCycles)
    (hgoing : k.listener.ended = none) {o : WriteOutcome} {inFlight : List UInt8}
    (hcarried : ∃ n ≤ (k.listener.onWrite o).sent.toNat, k.received ++ inFlight = messages n ∧
      (k.connectorClosed = false → n = (k.listener.onWrite o).sent.toNat))
    (hrefused : (k.listener.onWrite o).ended = some .peerClosed → k.connectorClosed = true) :
    Sound listenerCycles connectorCycles
      { k with listener := k.listener.onWrite o, inFlight := inFlight } where
  listener := hs.listener.write o hgoing
  connector := hs.connector
  carried := hcarried
  counted := hs.counted
  listenerLeft hc := absurd hgoing (hs.listenerLeft hc)
  connectorLeft := hs.connectorLeft
  refused := hrefused
  drained he := by
    have hlimit := (hs.drained he).1
    rw [hgoing] at hlimit
    cases hlimit

/-- A read changes only what the connector counts and how far the bytes have come. -/
theorem Sound.onRead (hs : k.Sound listenerCycles connectorCycles)
    (hgoing : k.connector.ended = none) {n : Nat} (hpos : 0 < n)
    (hn : n ≤ min messageSize k.inFlight.length) :
    Sound listenerCycles connectorCycles
      { k with
        connector := k.connector.onRead (.data n)
        inFlight := k.inFlight.drop n
        received := k.received ++ k.inFlight.take n } where
  listener := hs.listener
  connector := hs.connector.read (.data n) hgoing ⟨hpos, by omega⟩
  carried := by
    obtain ⟨w, hw, hbytes, hall⟩ := hs.carried
    exact ⟨w, hw, by rw [List.append_assoc, List.take_append_drop, hbytes], hall⟩
  counted := by
    have hbytes := hs.connector.sound.toNat_bytes_onRead (show n ≤ messageSize by omega)
    rw [hbytes, List.length_append, List.length_take, hs.counted]
    omega
  listenerLeft := hs.listenerLeft
  connectorLeft hc := absurd hgoing (hs.connectorLeft hc)
  refused := hs.refused
  drained he := absurd he ite_cycleLimit_ne

/-- The stream ends only for a connector that has read all there was to read. -/
theorem Sound.onEnd (hs : k.Sound listenerCycles connectorCycles)
    (hgoing : k.connector.ended = none) (hempty : k.inFlight = [])
    (hclosed : k.listenerClosed = true) :
    Sound listenerCycles connectorCycles
      { k with connector := k.connector.onRead .streamEnd } where
  listener := hs.listener
  connector := hs.connector.read .streamEnd hgoing trivial
  carried := hs.carried
  counted := hs.counted
  listenerLeft := hs.listenerLeft
  connectorLeft _ := nofun
  refused := hs.refused
  drained _ := by
    have hopen := hs.connectorOpen hgoing
    obtain ⟨w, -, hbytes, hall⟩ := hs.carried
    cases hreason : k.listener.ended with
    | none => exact absurd hreason (hs.listenerLeft hclosed)
    | some r =>
      cases r with
      | peerClosed =>
        -- The listener would have noticed that the connector is gone, but it is not.
        rw [hs.refused hreason] at hopen
        cases hopen
      | cycleLimit =>
        have hsound := hs.listener.sound
        refine ⟨rfl, ?_⟩
        rw [hempty, List.append_nil] at hbytes
        rw [hbytes, hall hopen, hsound.sent_eq, hsound.ends.limit hreason]

/-- **One move.** Whichever side makes it, what was true stays true. -/
theorem sound_step (hs : k.Sound listenerCycles connectorCycles) {v : Move}
    (h : k.step v = some m) : m.Sound listenerCycles connectorCycles := by
  cases moves_of_step h with
  | write hgoing hopen =>
    have hsent := hs.listener.sound.toNat_sent_onWrite hgoing
    obtain ⟨n, -, hbytes, hall⟩ := hs.carried
    refine hs.onWrite hgoing ⟨n + 1, ?_, ?_, fun _ => ?_⟩ fun he => absurd he ite_cycleLimit_ne
    · rw [hsent, hall hopen]
    · rw [messages_succ, ← hbytes, List.append_assoc]
    · rw [hsent, hall hopen]
  | writeLost hgoing hclosed =>
    have hsent := hs.listener.sound.toNat_sent_onWrite hgoing
    obtain ⟨n, hn, hbytes, -⟩ := hs.carried
    refine hs.onWrite hgoing ⟨n, ?_, hbytes, fun hopen => ?_⟩ fun he => absurd he ite_cycleLimit_ne
    · rw [hsent]
      exact Nat.le_succ_of_le hn
    · rw [hclosed] at hopen
      cases hopen
  | writeFails f hgoing hclosed htaken => exact hs.onWrite hgoing hs.carried fun _ => hclosed
  | closeListener hended hopen => exact { hs with listenerLeft := fun _ => hended }
  | read hgoing hpos hn => exact hs.onRead hgoing hpos hn
  | readEnd hgoing hempty hclosed => exact hs.onEnd hgoing hempty hclosed
  | closeConnector hended hopen =>
    obtain ⟨n, hn, hbytes, -⟩ := hs.carried
    exact { hs with
      carried := ⟨n, hn, hbytes, nofun⟩
      connectorLeft := fun _ => hended
      refused := fun _ => rfl }

theorem sound_of_reaches (hs : k.Sound listenerCycles connectorCycles) (h : k.Reaches m) :
    m.Sound listenerCycles connectorCycles := by
  induction h with
  | refl => exact hs
  | tail v _ hstep ih => exact sound_step ih hstep

/-! ## Both sides have returned -/

theorem endedBy_eq_iff {ended : Option EndReason} (h : ended ≠ none) (r : EndReason) :
    ended.getD .cycleLimit = r ↔ ended = some r := by
  obtain ⟨a, rfl⟩ := Option.ne_none_iff_exists'.1 h
  simp

section Over
variable (hs : k.Sound listenerCycles connectorCycles)
include hs

/-- The bytes read are the first ones of the messages that count as sent. -/
theorem Sound.received_first : k.received <+: messages k.listener.sent.toNat := by
  obtain ⟨n, hn, hbytes, -⟩ := hs.carried
  exact (hbytes ▸ List.prefix_append _ _ : k.received <+: messages n).trans (messages_mono hn)

theorem Sound.bytes_le : k.connector.bytes.toNat ≤ messageSize * k.listener.sent.toNat := by
  rw [hs.counted, ← length_messages]
  exact hs.received_first.length_le

theorem Sound.sent_le : k.listener.sent.toNat ≤ listenerCycles.toNat := by
  rw [hs.listener.sound.sent_eq]
  exact hs.listener.sound.ends.le

/-- A connector that came to the end of the stream has read all messages of the listener. -/
theorem Sound.bytes_of_drained (he : k.connector.ended = some .peerClosed) :
    k.connector.bytes.toNat = messageSize * listenerCycles.toNat := by
  rw [hs.counted, (hs.drained he).2, length_messages]

/-- Bytes have crossed exactly if there was one to write and a read to take it. -/
theorem Sound.bytes_pos_iff (hended : k.connector.ended ≠ none) :
    0 < k.connector.bytes.toNat ↔ 0 < listenerCycles.toNat ∧ 0 < connectorCycles.toNat := by
  have hsound := hs.connector.sound
  have hmin := hsound.reads_le
  have hmax := hsound.bytes_le
  have hwritten := hs.bytes_le
  have hsent := hs.sent_le
  have hreads := hsound.ends.le
  simp only [messageSize] at hmax hwritten
  constructor
  · intro hpos
    omega
  · rintro ⟨hl, hc⟩
    obtain ⟨r, hr⟩ := Option.ne_none_iff_exists'.1 hended
    cases r with
    | cycleLimit =>
      rw [hsound.ends.limit hr] at hmin
      omega
    | peerClosed =>
      rw [hs.bytes_of_drained hr]
      exact Nat.mul_pos (by decide) hl

end Over

/-- **What the two sides say of each other.** Once both have returned, each is
what its whole loop comes to. The bytes received are the first ones of the
messages sent. The two sides never both found the other one gone: a connector
that did has read all messages of a listener that did all its cycles, and a
listener that did faced a connector that made all its reads. So a connector
with no more cycles than the listener makes them all, and data is said to have
gone across exactly if there was a message to write and a read to make. -/
theorem sides_agree_when_over (h : (start listenerCycles connectorCycles).Reaches k)
    (ho : k.isOver = true) :
    ((∃ writes, (Listener.serve listenerCycles writes).1 = k.listener) ∧
      ∃ reads, Connector.run connectorCycles reads = k.connector) ∧
    (k.received <+: messages k.listener.report.messagesSent.toNat ∧
      k.connector.report.bytesReceived.toNat = k.received.length ∧
      k.connector.report.bytesReceived.toNat ≤
        messageSize * k.listener.report.messagesSent.toNat) ∧
    ¬(k.listener.report.endedBy = .peerClosed ∧ k.connector.report.endedBy = .peerClosed) ∧
    (k.connector.report.endedBy = .peerClosed →
      k.listener.report = ⟨listenerCycles, .cycleLimit⟩ ∧
      k.connector.report.bytesReceived.toNat = messageSize * listenerCycles.toNat ∧
      k.connector.report.reads < connectorCycles) ∧
    (k.listener.report.endedBy = .peerClosed →
      k.listener.report.messagesSent < listenerCycles ∧
      k.connector.report.endedBy = .cycleLimit ∧ k.connector.report.reads = connectorCycles ∧
      connectorCycles.toNat ≤ messageSize * k.listener.report.messagesSent.toNat) ∧
    ((k.listener.report.endedBy = .cycleLimit →
        k.listener.report.messagesSent = listenerCycles) ∧
      (k.connector.report.endedBy = .cycleLimit →
        k.connector.report.reads = connectorCycles)) ∧
    (connectorCycles ≤ listenerCycles → k.connector.report.endedBy = .cycleLimit) ∧
    ∀ r : Report, r.listener = some k.listener.report → r.connector = some k.connector.report →
      (r.exchangedData = true ↔ 0 < listenerCycles ∧ 0 < connectorCycles) := by
  have hs := sound_of_reaches (sound_start listenerCycles connectorCycles) h
  obtain ⟨hlclosed, hcclosed⟩ := (Bool.and_eq_true _ _).mp ho
  have hlended := hs.listenerLeft hlclosed
  have hcended := hs.connectorLeft hcclosed
  have hl := hs.listener.sound
  have hc := hs.connector.sound
  simp only [Listener.report, Connector.report, endedBy_eq_iff hlended, endedBy_eq_iff hcended]
  have hone : ¬(k.listener.ended = some .peerClosed ∧ k.connector.ended = some .peerClosed) := by
    rintro ⟨hl', hc'⟩
    rw [(hs.drained hc').1] at hl'
    cases hl'
  have hcReason : k.connector.ended = some .cycleLimit ∨ k.connector.ended = some .peerClosed := by
    obtain ⟨r, hr⟩ := Option.ne_none_iff_exists'.1 hcended
    cases r
    · exact .inl hr
    · exact .inr hr
  refine ⟨⟨hs.listener.eq_serve hlended, hs.connector.eq_run hcended⟩,
    ⟨hs.received_first, hs.counted, hs.bytes_le⟩, hone, ?_, ?_, ⟨?_, hc.ends.limit⟩, ?_, ?_⟩
  · intro hc'
    obtain ⟨hl', -⟩ := hs.drained hc'
    rw [hl', hl.sent_eq, hl.ends.limit hl']
    exact ⟨rfl, hs.bytes_of_drained hc', UInt32.lt_iff_toNat_lt.2 (hc.ends.early hc')⟩
  · intro hl'
    have hc' := hcReason.resolve_right fun hc' => hone ⟨hl', hc'⟩
    have hreads := hc.ends.limit hc'
    refine ⟨UInt32.lt_iff_toNat_lt.2 (hl.sent_eq ▸ hl.ends.early hl'), hc', hreads, ?_⟩
    exact hreads ▸ hc.reads_le.trans hs.bytes_le
  · intro hl'
    rw [hl.sent_eq, hl.ends.limit hl']
  · intro hle
    refine hcReason.resolve_right fun hc' => ?_
    -- All messages in fewer reads than there are messages would take larger reads.
    have hall := hs.bytes_of_drained hc'
    have hmax := hc.bytes_le
    have hfew := hc.ends.early hc'
    have hle' := UInt32.le_iff_toNat_le.1 hle
    simp only [messageSize] at hall hmax
    omega
  · intro r hrl hrc
    simp only [Report.exchangedData, hrc, decide_eq_true_eq, UInt64.lt_iff_toNat_lt,
      UInt32.lt_iff_toNat_lt, UInt64.toNat_zero, UInt32.toNat_zero]
    exact hs.bytes_pos_iff hcended

theorem reaches_moves (k : Link) (vs : List Move) : Reaches k (vs.foldl after k) := by
  induction vs generalizing k with
  | nil => exact .refl k
  | cons v vs ih => exact (reaches_after k v).trans (ih (k.after v))

/-- One message read in two parts by a connector that would have read once more. -/
theorem message_read_in_parts :
    ∃ k, (start 1 3).Reaches k ∧ k.isOver = true ∧ k.connector.report.endedBy = .peerClosed ∧
      k.listener.report = ⟨1, .cycleLimit⟩ ∧
      k.connector.report.bytesReceived.toNat = messageSize * (1 : UInt32).toNat ∧
      k.connector.report.reads < 3 := by
  have hrun := reaches_moves (start 1 3)
    [.write, .read 60, .closeListener, .read 40, .readEnd, .closeConnector]
  have hover : ([Move.write, .read 60, .closeListener, .read 40, .readEnd,
      .closeConnector].foldl after (start 1 3)).isOver = true := by decide +kernel
  have hgone : ([Move.write, .read 60, .closeListener, .read 40, .readEnd,
      .closeConnector].foldl after (start 1 3)).connector.report.endedBy = .peerClosed := by
    decide +kernel
  exact ⟨_, hrun, hover, hgone, (sides_agree_when_over hrun hover).2.2.2.1 hgone⟩

end Link

end Standstill.Socket
