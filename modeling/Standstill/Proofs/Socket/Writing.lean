import Mathlib
import Standstill.Proofs.Socket.Stream

/-!
# Writing to a stream

The listener's messages are handed to a writer. It is called for one message
after the other, has a state of its own, and takes the whole message or fails
after a part of it. `serveBy` is the listener's loop with these calls made in
order, so that the state at the end tells how many there were.

Results:
* `serveBy_eq`: what a writer answers is all that matters of it, and it is
  called once for each message that was tried.
* `serve_of_whole`: the loop as far as messages are taken whole.
* `serve_of_all`, `serve_of_broken`: how it is left, with the bytes on the
  stream.
* `written_until_first_failure`: the loop with any writer.
-/
namespace Standstill.Socket

/-- What a write can come to: a failure takes less than the message. -/
def WriteOutcome.Fits : WriteOutcome → Prop
  | .whole => True
  | .broken taken _ => taken < message.length

theorem WriteOutcome.exists_broken {o : WriteOutcome} (h : o ≠ .whole) (hfits : o.Fits) :
    ∃ taken f, o = .broken taken f ∧ taken < message.length := by
  cases o with
  | whole => exact absurd rfl h
  | broken taken f => exact ⟨taken, f, rfl, hfits⟩

namespace Listener

/-! ## Writers -/

/-- A call to write a message: what it comes to, and the state after it. -/
abbrev Writer (σ : Type) := σ → WriteOutcome × σ

section Calls
variable {σ : Type} (write : Writer σ)

/-- `serveFrom` by calls of a writer. -/
def serveFromBy : (left : Nat) → Listener → σ → (Listener × List UInt8) × σ
  | 0, l, s => ((l, []), s)
  | n + 1, l, s =>
    match l.ended with
    | some _ => ((l, []), s)
    | none =>
      let (o, t) := write s
      let ((m, bytes), u) := serveFromBy n (l.onWrite o) t
      ((m, o.bytes ++ bytes), u)

/-- `serve` by calls of a writer. -/
def serveBy (cycles : UInt32) (s : σ) : (Listener × List UInt8) × σ :=
  serveFromBy write cycles.toNat (start cycles) s

/-- The state of a writer after so many calls. -/
def stateAt (s : σ) : Nat → σ
  | 0 => s
  | i + 1 => (write (stateAt s i)).2

/-- What a writer answers after so many calls. -/
def outcomeAt (s : σ) (i : Nat) : WriteOutcome := (write (stateAt write s i)).1

variable {write} {cycles : UInt32} {l : Listener} {s : σ}

/-- By induction on the cycles left. The calls made are the writes that the listener has behind
it. -/
theorem serveFromBy_eq (n : Nat) (hs : l.Sound cycles) :
    serveFromBy write n l (stateAt write s l.behind) =
      (serveFrom (outcomeAt write s) n l,
        stateAt write s (serveFrom (outcomeAt write s) n l).1.behind) := by
  induction n generalizing l with
  | zero => rfl
  | succ n ih =>
    cases hended : l.ended with
    | some r =>
      rw [serveFrom_of_ended _ _ hended]
      simp [serveFromBy, hended]
    | none =>
      have hcall : write (stateAt write s l.behind) =
          (outcomeAt write s l.behind, stateAt write s (l.behind + 1)) := rfl
      have hnext := ih (hs.onWrite hended (outcomeAt write s l.behind))
      rw [hs.behind_onWrite hended] at hnext
      rw [serveFrom_of_going _ hended, ← behind_of_going hended]
      simp only [serveFromBy, hended, hcall, hnext]

/-- **Calls.** A writer is called once for each message that was tried, in order, and what it
answers is all that matters of it. -/
theorem serveBy_eq (write : Writer σ) (cycles : UInt32) (s : σ) :
    serveBy write cycles s =
      (serve cycles (outcomeAt write s),
        stateAt write s (serve cycles (outcomeAt write s)).1.behind) := by
  have hbehind : (start cycles).behind = 0 := by
    have hended : (start cycles).ended ≠ some .peerClosed := ite_cycleLimit_ne
    rw [behind, if_neg hended]
    rfl
  have hcalls := @serveFromBy_eq σ write cycles (start cycles) s cycles.toNat Reached.start.sound
  rwa [hbehind] at hcalls

end Calls

/-! ## The loop -/

variable {cycles : UInt32} {outcome : Nat → WriteOutcome} {k m : Nat}

/-- The messages that are taken whole before the first that is not, of which there may be
infinitely many. -/
noncomputable def wholeWrites (outcome : Nat → WriteOutcome) : ℕ∞ :=
  leading fun i => outcome i = .whole

/-- The listener after so many messages that were taken whole. -/
def afterWhole (cycles : UInt32) (k : Nat) : Listener where
  cycles := cycles
  cycle := .ofNat k
  sent := .ofNat k
  ended := if k = cycles.toNat then some .cycleLimit else none
  events := (List.range k).map fun i => .sent (.ofNat (i + 1)) cycles

theorem afterWhole_zero : afterWhole cycles 0 = start cycles := by
  simp [afterWhole, start, ← UInt32.toNat_inj, eq_comm]

theorem onWrite_afterWhole (hk : k < cycles.toNat) :
    (afterWhole cycles k).onWrite .whole = afterWhole cycles (k + 1) := by
  simp only [onWrite, afterWhole, ofNat_add_one_eq_iff hk, UInt32.ofNat_add, List.range_succ,
    List.map_append, List.map_cons, List.map_nil]
  rfl

/-- The loop goes on after messages that were taken whole, by induction on them. -/
theorem serve_of_whole (hk : k ≤ cycles.toNat) (hwhole : ∀ i < k, outcome i = .whole) :
    serve cycles outcome =
      ((serveFrom outcome (cycles.toNat - k) (afterWhole cycles k)).1,
        messages k ++ (serveFrom outcome (cycles.toNat - k) (afterWhole cycles k)).2) := by
  induction k with
  | zero => rw [afterWhole_zero]; rfl
  | succ k ih =>
    obtain ⟨left, hleft⟩ : ∃ left, cycles.toNat - k = left + 1 := ⟨cycles.toNat - k - 1, by omega⟩
    have hrest : cycles.toNat - (k + 1) = left := by omega
    have hgoing : (afterWhole cycles k).ended = none := if_neg (by omega)
    have hcycle : (afterWhole cycles k).cycle.toNat = k := toNat_ofNat_of_le (Nat.le_of_lt hk)
    rw [ih (Nat.le_of_lt hk) (fun i hi => hwhole i (by omega)), hleft, hrest,
      serveFrom_of_going _ hgoing]
    simp only [hcycle, hwhole k (Nat.lt_succ_self k), onWrite_afterWhole hk, messages_succ,
      WriteOutcome.bytes, List.append_assoc]

theorem serve_of_all (hwhole : ∀ i < cycles.toNat, outcome i = .whole) :
    serve cycles outcome = (afterWhole cycles cycles.toNat, messages cycles.toNat) := by
  rw [serve_of_whole (Nat.le_refl _) hwhole, Nat.sub_self]
  simp [serveFrom]

/-- A message that is not taken whole ends the loop, and a part of it is on the stream. -/
theorem serve_of_broken {taken : Nat} {f : IoFault} (hm : m < cycles.toNat)
    (hwhole : ∀ i < m, outcome i = .whole) (hbroken : outcome m = .broken taken f) :
    serve cycles outcome =
      ((afterWhole cycles m).onWrite (.broken taken f), messages m ++ message.take taken) := by
  obtain ⟨left, hleft⟩ : ∃ left, cycles.toNat - m = left + 1 := ⟨cycles.toNat - m - 1, by omega⟩
  have hgoing : (afterWhole cycles m).ended = none := if_neg (by omega)
  have hcycle : (afterWhole cycles m).cycle.toNat = m := toNat_ofNat_of_le (Nat.le_of_lt hm)
  have hended : ((afterWhole cycles m).onWrite (.broken taken f)).ended = some .peerClosed := rfl
  rw [serve_of_whole (Nat.le_of_lt hm) hwhole, hleft, serveFrom_of_going _ hgoing]
  simp only [hcycle, hbroken, serveFrom_of_ended _ _ hended, WriteOutcome.bytes, List.append_nil]

/-! ## What is told -/

/-- What a listener tells before it writes to a peer. -/
def opening (address peer : Endpoint) : List LogLine :=
  [⟨.info, "Waiting for a connection on " ++ address.text⟩,
    ⟨.info, "Accepted connection from " ++ peer.text⟩]

/-- What is told of messages that were taken whole. -/
def sentLines (cycles : UInt32) (k : Nat) : List LogLine :=
  (List.range k).map fun i =>
    ⟨.debug, "Sent message " ++ toString (i + 1) ++ "/" ++ toString cycles.toNat⟩

theorem lines_afterWhole (hk : k ≤ cycles.toNat) :
    (afterWhole cycles k).events.filterMap Event.line? = sentLines cycles k := by
  simp only [afterWhole, sentLines, List.filterMap_map]
  rw [← List.filterMap_eq_map]
  apply List.filterMap_congr
  intro i hi
  have hnumber : (UInt32.ofNat (i + 1)).toNat = i + 1 :=
    toNat_ofNat_of_le (Nat.le_trans (List.mem_range.1 hi) hk)
  simp only [Function.comp_apply, Event.line?, hnumber]

/-- The number of the cycle that is told is the number of messages in the report. -/
theorem lines_broken (hk : k ≤ cycles.toNat) (taken : Nat) (f : IoFault) :
    ((afterWhole cycles k).onWrite (.broken taken f)).events.filterMap Event.line? =
      sentLines cycles k ++
        [⟨.info, "Peer closed the stream after " ++ toString k ++ " cycles: " ++ f.text⟩] := by
  have hcycle : (afterWhole cycles k).cycle.toNat = k := toNat_ofNat_of_le hk
  simp only [onWrite, List.filterMap_append, lines_afterWhole hk, List.filterMap_cons,
    List.filterMap_nil, Event.line?, hcycle]

theorem log_trace (address peer : Endpoint) (l : Listener) :
    (trace address (.ok (peer, l))).log =
      opening address peer ++ l.events.filterMap Event.line? := by
  simp [trace, Traced.log, opening, Event.line?]

/-! ## The loop with a writer -/

section Writing
variable {σ : Type} {write : Writer σ} {s : σ}

theorem serveBy_of_all (hwhole : ∀ i < cycles.toNat, outcomeAt write s i = .whole) :
    serveBy write cycles s =
      ((afterWhole cycles cycles.toNat, messages cycles.toNat), stateAt write s cycles.toNat) := by
  have hended : (afterWhole cycles cycles.toNat).ended ≠ some .peerClosed := ite_cycleLimit_ne
  have hbehind : (afterWhole cycles cycles.toNat).behind = cycles.toNat := by
    rw [behind, if_neg hended]
    exact toNat_ofNat_of_le (Nat.le_refl _)
  rw [serveBy_eq, serve_of_all hwhole, hbehind]

theorem serveBy_of_broken {taken : Nat} {f : IoFault} (hm : m < cycles.toNat)
    (hwhole : ∀ i < m, outcomeAt write s i = .whole)
    (hbroken : outcomeAt write s m = .broken taken f) :
    serveBy write cycles s =
      (((afterWhole cycles m).onWrite (.broken taken f), messages m ++ message.take taken),
        stateAt write s (m + 1)) := by
  have hbehind : ((afterWhole cycles m).onWrite (.broken taken f)).behind = m + 1 :=
    congrArg (· + 1) (toNat_ofNat_of_le (Nat.le_of_lt hm))
  rw [serveBy_eq, serve_of_broken hm hwhole hbroken, hbehind]

end Writing

/-- **Writing to any peer.** Once a connection is accepted, a report is made, whatever the writes
come to. The messages in it are those taken whole before the first that was not, as far as there
are cycles, and the reason tells whether there was such a failure. So many whole messages are on
the stream, and behind them, only after a failure, the beginning of one more. Nothing is written
after a failure or after the last cycle, and the log has one line for each message and one for the
failure, with the number of the report. -/
theorem written_until_first_failure {σ : Type} (cycles : UInt32) (write : Writer σ) (s : σ)
    (hfits : ∀ i, (outcomeAt write s i).Fits) :
    ∃ l bytes t, serveBy write cycles s = ((l, bytes), t) ∧
      let outcome := outcomeAt write s
      let r := l.report
      let n := r.messagesSent.toNat
      serve cycles outcome = (l, bytes) ∧
      (n : ℕ∞) = min (cycles.toNat : ℕ∞) (wholeWrites outcome) ∧
      (r.endedBy = .cycleLimit ↔ (cycles.toNat : ℕ∞) ≤ wholeWrites outcome) ∧
      (r.endedBy = .peerClosed ↔ wholeWrites outcome < (cycles.toNat : ℕ∞)) ∧
      (∀ address peer, (trace address (.ok (peer, l))).result = .ok r) ∧
      (r.endedBy = .cycleLimit → t = stateAt write s n ∧ bytes = messages n ∧
        ∀ address peer, (trace address (.ok (peer, l))).log =
          opening address peer ++ sentLines cycles n) ∧
      (r.endedBy = .peerClosed → t = stateAt write s (n + 1) ∧
        ∃ taken f, outcome n = .broken taken f ∧ taken < message.length ∧
          bytes = messages n ++ message.take taken ∧
          ∀ address peer, (trace address (.ok (peer, l))).log =
            opening address peer ++ (sentLines cycles n ++
              [⟨.info, "Peer closed the stream after " ++ toString n ++ " cycles: " ++ f.text⟩])) := by
  obtain ⟨m, hm, hmin, hwhole, hnext⟩ :=
    exists_min_leading cycles.toNat fun i => outcomeAt write s i = .whole
  obtain hlt | rfl := Nat.lt_or_eq_of_le hm
  · obtain ⟨taken, f, hbroken, htaken⟩ := WriteOutcome.exists_broken (hnext hlt) (hfits m)
    have hless : wholeWrites (outcomeAt write s) < (cycles.toNat : ℕ∞) :=
      not_le.1 (inf_lt_left.1 (hmin.symm.trans_lt (Nat.cast_lt.2 hlt)))
    refine ⟨_, _, _, serveBy_of_broken hlt hwhole hbroken, ?_⟩
    intro outcome r n
    have hn : n = m := toNat_ofNat_of_le hm
    have hended : r.endedBy = .peerClosed := rfl
    rw [hn, hended]
    refine ⟨serve_of_broken hlt hwhole hbroken, hmin, iff_of_false (by decide) (not_le.2 hless),
      iff_of_true rfl hless, ?_, fun hlimit => absurd hlimit (by decide), ?_⟩
    · intro address peer
      exact result_trace address _
    · intro _
      refine ⟨rfl, taken, f, hbroken, htaken, rfl, ?_⟩
      intro address peer
      rw [log_trace, lines_broken hm]
  · have hge : (cycles.toNat : ℕ∞) ≤ wholeWrites (outcomeAt write s) :=
      hmin.trans_le (min_le_right _ _)
    refine ⟨_, _, _, serveBy_of_all hwhole, ?_⟩
    intro outcome r n
    have hn : n = cycles.toNat := toNat_ofNat_of_le hm
    have hended : r.endedBy = .cycleLimit := by simp [r, report, afterWhole]
    rw [hn, hended]
    refine ⟨serve_of_all hwhole, hmin, iff_of_true rfl hge, iff_of_false (by decide) (not_lt.2 hge),
      ?_, ?_, fun hclosed => absurd hclosed (by decide)⟩
    · intro address peer
      exact result_trace address _
    · intro _
      refine ⟨rfl, rfl, ?_⟩
      intro address peer
      rw [log_trace, lines_afterWhole hm]

/-- The third message is taken up to its fortieth byte. With two cycles it is not tried. -/
theorem third_message_cut :
    let write : Writer Nat := fun n => (if n = 2 then .broken 40 (.errno ⟨32⟩) else .whole, n + 1)
    (∃ l bytes, serveBy write 5 0 = ((l, bytes), 3) ∧ l.report = ⟨2, .peerClosed⟩ ∧
      bytes.length = 240) ∧
    ∃ l bytes, serveBy write 2 0 = ((l, bytes), 2) ∧ l.report = ⟨2, .cycleLimit⟩ ∧
      bytes.length = 200 := by
  intro write
  have hfits : ∀ i, (outcomeAt write 0 i).Fits := by
    intro i
    simp only [outcomeAt, write]
    split
    · simp [WriteOutcome.Fits, length_message, messageSize]
    · trivial
  constructor
  · obtain ⟨l, bytes, t, hrun, -, -, -, -, -, -, hclosed⟩ :=
      written_until_first_failure 5 write 0 hfits
    have hreport : (serveBy write 5 0).1.1.report = ⟨2, .peerClosed⟩ := by decide
    rw [hrun] at hreport
    simp only [hreport] at hclosed
    obtain ⟨rfl, taken, f, hbroken, -, rfl, -⟩ := hclosed trivial
    have hcut : WriteOutcome.broken 40 (.errno ⟨32⟩) = .broken taken f := hbroken
    obtain ⟨rfl, -⟩ := WriteOutcome.broken.inj hcut
    refine ⟨l, _, hrun, hreport, ?_⟩
    simp [length_messages, length_message, messageSize]
  · obtain ⟨l, bytes, t, hrun, -, -, -, -, -, hlimit, -⟩ :=
      written_until_first_failure 2 write 0 hfits
    have hreport : (serveBy write 2 0).1.1.report = ⟨2, .cycleLimit⟩ := by decide
    rw [hrun] at hreport
    simp only [hreport] at hlimit
    obtain ⟨rfl, rfl, -⟩ := hlimit trivial
    refine ⟨l, _, hrun, hreport, ?_⟩
    simp [length_messages, messageSize]

end Listener

end Standstill.Socket
