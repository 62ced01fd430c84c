import Mathlib
import Standstill.Proofs.Socket.Loops

/-!
# Reading a stream

The outcomes of a connector's reads are taken as one sequence without an end.
Reads that were broken off leave no trace in the loop, so what it comes to is
told by the others, the answers: it counts those with data up to the first
that is none, or as many as it may read.

Results:
* `readAll_filter_answers`: reads that were broken off do not count.
* `run_answers`: the loop against answers alone.
* `KeepsAnswering.dataReads_eq`: the data reads before the first stop are
  the first answers.
* `leavesOn_thenEnd`: a list of outcomes as such a sequence.
* `leaves_on_answers`: the loop against any sequence.
-/
namespace Standstill.Socket

/-! ## Outcomes -/

namespace ReadOutcome

def isData : ReadOutcome → Bool
  | .data _ => true
  | .streamEnd | .fault _ => false

/-- The end of the stream, or a failure after which no read is tried again. -/
def isStop : ReadOutcome → Bool
  | .data _ => false
  | .streamEnd => true
  | .fault f => !f.isInterrupted

/-- A read that was not broken off. -/
def answers (o : ReadOutcome) : Bool := o.isData || o.isStop

/-- The bytes that were read. -/
def size : ReadOutcome → Nat
  | .data n => n
  | .streamEnd | .fault _ => 0

/-- What is told of an outcome that ends the loop. -/
def closing (reads : UInt32) : ReadOutcome → List Event
  | .data _ => []
  | .streamEnd => [.listenerClosed reads]
  | .fault f => [.readFailed reads f]

variable {o : ReadOutcome}

theorem eq_data_of_isData (h : o.isData = true) : o = .data o.size := by
  cases o with
  | data n => rfl
  | streamEnd => cases h
  | fault f => cases h

theorem isData_eq_false_of_isStop (h : o.isStop = true) : o.isData = false := by
  cases o with
  | data n => cases h
  | streamEnd => rfl
  | fault f => rfl

theorem isStop_of_answers (h : o.answers = true) (hdata : ¬o.isData = true) : o.isStop = true := by
  simpa [answers, hdata] using h

theorem size_of_fits (h : o.isData = true) (hfits : o.Fits) :
    0 < o.size ∧ o.size ≤ messageSize := by
  rw [eq_data_of_isData h] at hfits
  exact hfits

end ReadOutcome

namespace Connector

variable {cycles : UInt32} {c d : Connector} {o : ReadOutcome} {s t : Nat → ReadOutcome}
  {k m : Nat}

/-! ## The loop against answers -/

theorem onRead_of_broken_off (c : Connector) (h : o.answers = false) : c.onRead o = c := by
  cases o with
  | data n => cases h
  | streamEnd => cases h
  | fault f =>
    have hf : f.isInterrupted = true := by
      simpa [ReadOutcome.answers, ReadOutcome.isData, ReadOutcome.isStop] using h
    exact c.onRead_interrupted hf

theorem onRead_of_isStop (c : Connector) (h : o.isStop = true) :
    c.onRead o =
      { c with ended := some .peerClosed, events := c.events ++ o.closing c.reads } := by
  cases o with
  | data n => cases h
  | streamEnd => rfl
  | fault f =>
    have hf : f.isInterrupted = false := by simpa [ReadOutcome.isStop] using h
    simp [onRead, ReadOutcome.closing, hf]

/-- Reads that were broken off do not count. -/
theorem readAll_filter_answers (c : Connector) (os later : List ReadOutcome) :
    c.readAll (os.filter ReadOutcome.answers ++ later) = c.readAll (os ++ later) := by
  induction os generalizing c with
  | nil => rfl
  | cons o os ih =>
    cases hended : c.ended with
    | some r => rw [readAll_of_ended hended, readAll_of_ended hended]
    | none =>
      rw [List.cons_append, readAll_of_going hended]
      by_cases hanswers : o.answers = true
      · rw [List.filter_cons_of_pos hanswers, List.cons_append, readAll_of_going hended, ih]
      · rw [List.filter_cons_of_neg hanswers, ih, c.onRead_of_broken_off (by simpa using hanswers)]

/-- Nothing is read behind the end of the stream. -/
theorem readAll_streamEnd (c : Connector) (os later : List ReadOutcome) :
    c.readAll (os ++ .streamEnd :: later) = c.readAll os := by
  induction os generalizing c with
  | nil =>
    cases hended : c.ended with
    | some r => rw [readAll_of_ended hended, readAll_of_ended hended]
    | none =>
      rw [List.nil_append, readAll_of_going hended, readAll_of_ended rfl]
      simp [readAll, hended]
  | cons o os ih =>
    cases hended : c.ended with
    | some r => rw [readAll_of_ended hended, readAll_of_ended hended]
    | none => rw [List.cons_append, readAll_of_going hended, readAll_of_going hended, ih]

/-- The connector after reads of these sizes. -/
def afterData (cycles : UInt32) (size : Nat → Nat) (k : Nat) : Connector where
  cycles := cycles
  attempts := .ofNat k
  reads := .ofNat k
  bytes := .ofNat (∑ i ∈ Finset.range k, size i)
  ended := if k = cycles.toNat then some .cycleLimit else none
  events := (List.range k).map fun i =>
    .received (size i) (.ofNat (∑ j ∈ Finset.range (i + 1), size j))

theorem afterData_zero (size : Nat → Nat) : afterData cycles size 0 = start cycles := by
  simp [afterData, start, ← UInt32.toNat_inj, eq_comm]

theorem onRead_afterData (size : Nat → Nat) (hk : k < cycles.toNat) :
    (afterData cycles size k).onRead (.data (size k)) = afterData cycles size (k + 1) := by
  have hsum : ∑ i ∈ Finset.range k, size i + size k = ∑ i ∈ Finset.range (k + 1), size i :=
    (Finset.sum_range_succ _ _).symm
  simp only [onRead, afterData, ← UInt64.ofNat_add, hsum, ofNat_add_one_eq_iff hk,
    UInt32.ofNat_add, List.range_succ, List.map_append, List.map_cons, List.map_nil]
  rfl

/-- Data as far as the loop goes on, by induction on the reads. -/
theorem run_data (hk : k ≤ cycles.toNat) (hdata : ∀ i < k, (t i).isData = true)
    (later : List ReadOutcome) :
    run cycles ((List.range k).map t ++ later) =
      (afterData cycles (fun i => (t i).size) k).readAll later := by
  induction k generalizing later with
  | zero => rw [afterData_zero]; rfl
  | succ k ih =>
    have hlast := ReadOutcome.eq_data_of_isData (hdata k (Nat.lt_succ_self k))
    have hgoing : (afterData cycles (fun i => (t i).size) k).ended = none := if_neg (by omega)
    rw [List.range_succ, List.map_append, List.append_assoc,
      ih (by omega) (fun i hi => hdata i (by omega))]
    simp only [List.map_cons, List.map_nil, List.singleton_append]
    rw [readAll_of_going hgoing, hlast, ← onRead_afterData _ hk]

/-- The connector that has left its loop with the first answer that is not data, or with the last
read that it may make. -/
def leaving (cycles : UInt32) (t : Nat → ReadOutcome) (m : Nat) : Connector :=
  let c := afterData cycles (fun i => (t i).size) m
  if m = cycles.toNat then c
  else { c with ended := some .peerClosed, events := c.events ++ (t m).closing c.reads }

/-- How many answers the loop reads that has read data `m` times. -/
def answersRead (cycles : UInt32) (m : Nat) : Nat := m + if m = cycles.toNat then 0 else 1

/-- The loop against answers: data first, and a stop behind it if more reads can be made. -/
theorem run_answers (hm : m ≤ cycles.toNat) (hdata : ∀ i < m, (t i).isData = true)
    (hstop : m < cycles.toNat → (t m).isStop = true) (later : List ReadOutcome) :
    run cycles ((List.range (answersRead cycles m)).map t ++ later) = leaving cycles t m := by
  unfold answersRead leaving
  by_cases hall : m = cycles.toNat
  · rw [if_pos hall, if_pos hall, Nat.add_zero, run_data hm hdata]
    exact readAll_of_ended (if_pos hall) later
  · have hgoing : (afterData cycles (fun i => (t i).size) m).ended = none := if_neg hall
    rw [if_neg hall, if_neg hall, List.range_succ, List.map_append, List.append_assoc,
      run_data hm hdata]
    simp only [List.map_cons, List.map_nil, List.singleton_append]
    rw [readAll_of_going hgoing, onRead_of_isStop _ (hstop (by omega))]
    exact readAll_of_ended rfl later

/-! ## Sequences without an end -/

/-- Reading one outcome of the sequence after the other, the loop is left after some of them, and
the others are not read. -/
def LeavesOn (cycles : UInt32) (s : Nat → ReadOutcome) (c : Connector) : Prop :=
  ∃ n, ∀ later, run cycles ((List.range n).map s ++ later) = c

/-- Only one connector is left with. -/
theorem LeavesOn.unique (hc : LeavesOn cycles s c) (hd : LeavesOn cycles s d) : c = d := by
  obtain ⟨n, hn⟩ := hc
  obtain ⟨m, hm⟩ := hd
  obtain h | h := Nat.le_total n m
  all_goals
    obtain ⟨k, rfl⟩ := Nat.exists_eq_add_of_le h
  · rw [← hm [], List.range_add, List.map_append, List.append_assoc, hn]
  · rw [← hn [], List.range_add, List.map_append, List.append_assoc, hm]

/-- Reads go on being answered. -/
def KeepsAnswering (s : Nat → ReadOutcome) : Prop := ∀ n, ∃ i ≥ n, (s i).answers = true

/-- Where an answer stands in a sequence. -/
noncomputable def place (s : Nat → ReadOutcome) : Nat → Nat :=
  Nat.nth fun i => (s i).answers = true

/-- The answers of a sequence, with the reads that were broken off left out. -/
noncomputable def answered (s : Nat → ReadOutcome) (k : Nat) : ReadOutcome := s (place s k)

/-- The reads with data before the first stop, of which there may be infinitely many. -/
noncomputable def dataReads (s : Nat → ReadOutcome) : ℕ∞ :=
  {i | (s i).isData = true ∧ ∀ j < i, ¬(s j).isStop = true}.encard

namespace KeepsAnswering

theorem infinite (h : KeepsAnswering s) : {i | (s i).answers = true}.Infinite := by
  rw [Set.infinite_iff_exists_gt]
  intro n
  obtain ⟨i, hi, hanswers⟩ := h (n + 1)
  exact ⟨i, hanswers, hi⟩

theorem strictMono_place (h : KeepsAnswering s) : StrictMono (place s) :=
  Nat.nth_strictMono h.infinite

theorem answers_answered (h : KeepsAnswering s) (k : Nat) : (answered s k).answers = true :=
  Nat.nth_mem_of_infinite h.infinite k

end KeepsAnswering

theorem exists_place (h : (s m).answers = true) : ∃ k, place s k = m :=
  ⟨_, @Nat.nth_count (fun i => (s i).answers = true) _ m h⟩

/-- The answers among the first outcomes are the first answers. -/
theorem filter_answers_range (s : Nat → ReadOutcome) (n : Nat) :
    ((List.range n).map s).filter ReadOutcome.answers =
      (List.range (Nat.count (fun i => (s i).answers = true) n)).map (answered s) := by
  induction n with
  | zero => rfl
  | succ n ih =>
    rw [List.range_succ, List.map_append, List.filter_append, ih, Nat.count_succ]
    by_cases hn : (s n).answers = true
    · have hlast : answered s (Nat.count (fun i => (s i).answers = true) n) = s n :=
        congrArg s (Nat.nth_count hn)
      simp [hn, List.range_succ, hlast]
    · simp [hn]

/-- What the loop comes to against some answers, it comes to against each sequence that begins with
them. -/
theorem KeepsAnswering.leavesOn (h : KeepsAnswering s) (hsame : ∀ i < k, answered s i = t i)
    (hrun : ∀ later, run cycles ((List.range k).map t ++ later) = c) : LeavesOn cycles s c := by
  have hmap : (List.range k).map (answered s) = (List.range k).map t := by
    apply List.map_congr_left
    intro i hi
    exact hsame i (List.mem_range.1 hi)
  refine ⟨place s k, ?_⟩
  intro later
  rw [run, ← readAll_filter_answers, filter_answers_range, place,
    Nat.count_nth_of_infinite h.infinite, hmap]
  exact hrun later

/-- The data reads before the first stop are the answers that only data comes before. -/
theorem KeepsAnswering.dataReads_eq (h : KeepsAnswering s) :
    dataReads s = leading fun k => (answered s k).isData = true := by
  have hmono := h.strictMono_place
  rw [leading, ← hmono.injective.encard_image {k | ∀ j ≤ k, (answered s j).isData = true},
    dataReads]
  congr 1
  ext i
  constructor
  · intro hi
    obtain ⟨hdata, hbefore⟩ := hi
    have hanswers : (s i).answers = true := by simp [ReadOutcome.answers, hdata]
    obtain ⟨k, rfl⟩ := exists_place hanswers
    refine ⟨k, ?_, rfl⟩
    intro j hj
    obtain hlt | rfl := Nat.lt_or_eq_of_le hj
    · by_contra hno
      exact hbefore _ (hmono hlt) (ReadOutcome.isStop_of_answers (h.answers_answered j) hno)
    · exact hdata
  · intro hi
    obtain ⟨k, hk, rfl⟩ := hi
    refine ⟨hk k (Nat.le_refl k), ?_⟩
    intro j hj hstop
    have hanswers : (s j).answers = true := by simp [ReadOutcome.answers, hstop]
    obtain ⟨i, rfl⟩ := exists_place hanswers
    have hdata := hk i (Nat.le_of_lt (hmono.lt_iff_lt.1 hj))
    rw [answered, ReadOutcome.isData_eq_false_of_isStop hstop] at hdata
    cases hdata

/-- How often the loop reads data, and what stops it if it may read more. -/
theorem KeepsAnswering.exists_read (h : KeepsAnswering s) (cycles : UInt32) :
    ∃ m ≤ cycles.toNat, (m : ℕ∞) = min (cycles.toNat : ℕ∞) (dataReads s) ∧
      (∀ i < m, (answered s i).isData = true) ∧
      (m < cycles.toNat → (answered s m).isStop = true) := by
  obtain ⟨m, hm, hmin, hdata, hnext⟩ :=
    exists_min_leading cycles.toNat fun k => (answered s k).isData = true
  rw [← h.dataReads_eq] at hmin
  refine ⟨m, hm, hmin, hdata, ?_⟩
  intro hlt
  exact ReadOutcome.isStop_of_answers (h.answers_answered m) (hnext hlt)

/-! ## Streams that end -/

/-- The sequence of some outcomes with the end of the stream behind them. -/
def thenEnd (os : List ReadOutcome) (i : Nat) : ReadOutcome := os.getD i .streamEnd

section ThenEnd
variable {os : List ReadOutcome}

theorem thenEnd_of_le (h : os.length ≤ k) : thenEnd os k = .streamEnd :=
  List.getD_eq_default os _ h

theorem keepsAnswering_thenEnd (os : List ReadOutcome) : KeepsAnswering (thenEnd os) := by
  intro n
  refine ⟨max n os.length, le_max_left _ _, ?_⟩
  rw [thenEnd_of_le (le_max_right _ _)]
  rfl

theorem fits_thenEnd (h : ∀ o ∈ os, o.Fits) (k : Nat) : (thenEnd os k).Fits := by
  by_cases hk : k < os.length
  · rw [thenEnd, List.getD_eq_getElem os _ hk]
    exact h _ (List.getElem_mem hk)
  · rw [thenEnd_of_le (not_lt.1 hk)]
    trivial

/-- The loop against a list of outcomes is the loop against this sequence. -/
theorem leavesOn_thenEnd (cycles : UInt32) (os : List ReadOutcome) :
    LeavesOn cycles (thenEnd os) (run cycles os) := by
  have hmap : (List.range (os.length + 1)).map (thenEnd os) = os ++ [.streamEnd] := by
    apply List.ext_getElem
    · simp
    · intro i hi hj
      simp only [List.getElem_map, List.getElem_range, thenEnd, List.getElem_append]
      grind
  refine ⟨os.length + 1, ?_⟩
  intro later
  rw [hmap, List.append_assoc]
  exact readAll_streamEnd _ os later

end ThenEnd

/-! ## The whole loop -/

/-- What a connector tells before it reads. -/
def opening (delay : Span) (address : Endpoint) : List Event :=
  (if delay.isZero then [] else [.delaying delay]) ++ [.connectAsked address, .connected address]

theorem events_trace (delay : Span) (address : Endpoint) (c : Connector) :
    (trace delay address (.ok c)).events = opening delay address ++ c.events := by
  unfold trace opening
  cases delay.isZero <;> simp

theorem reads_leaving (hm : m ≤ cycles.toNat) : (leaving cycles t m).reads.toNat = m := by
  have hreads : (leaving cycles t m).reads = .ofNat m := by
    unfold leaving
    split <;> rfl
  rw [hreads, toNat_ofNat_of_le hm]

theorem endedBy_leaving : (leaving cycles t m).report.endedBy =
    if m = cycles.toNat then .cycleLimit else .peerClosed := by
  unfold leaving report
  by_cases hall : m = cycles.toNat
  · simp [hall, afterData]
  · simp [hall]

/-- How many answers the loop has read, by the reason for leaving it. -/
theorem answersRead_eq : answersRead cycles m =
    m + if (leaving cycles t m).report.endedBy = .peerClosed then 1 else 0 := by
  rw [answersRead, endedBy_leaving]
  by_cases hall : m = cycles.toNat <;> simp [hall]

section Sizes
variable (hdata : ∀ i < m, (t i).isData = true) (hfits : ∀ i, (t i).Fits)
include hdata hfits

theorem le_sum_size : m ≤ ∑ i ∈ Finset.range m, (t i).size := by
  have hsizes : ∀ i ∈ Finset.range m, 1 ≤ (t i).size := by
    intro i hi
    exact (ReadOutcome.size_of_fits (hdata i (Finset.mem_range.1 hi)) (hfits i)).1
  simpa using Finset.card_nsmul_le_sum _ _ _ hsizes

theorem sum_size_le : ∑ i ∈ Finset.range m, (t i).size ≤ messageSize * m := by
  have hsizes : ∀ i ∈ Finset.range m, (t i).size ≤ messageSize := by
    intro i hi
    exact (ReadOutcome.size_of_fits (hdata i (Finset.mem_range.1 hi)) (hfits i)).2
  simpa [Nat.mul_comm] using Finset.sum_le_card_nsmul _ _ _ hsizes

/-- As many bytes as the reads can bring do not wrap. -/
theorem toNat_sum_size (hm : m ≤ cycles.toNat) (hk : k ≤ m) :
    (UInt64.ofNat (∑ i ∈ Finset.range k, (t i).size)).toNat =
      ∑ i ∈ Finset.range k, (t i).size := by
  have hle := @sum_size_le t k (fun i hi => hdata i (by omega)) hfits
  have hlt := cycles.toNat_lt
  rw [UInt64.toNat_ofNat']
  simp only [messageSize] at hle
  omega

theorem bytes_leaving (hm : m ≤ cycles.toNat) :
    (leaving cycles t m).bytes.toNat = ∑ i ∈ Finset.range m, (t i).size := by
  rw [← toNat_sum_size hdata hfits hm (Nat.le_refl m)]
  unfold leaving
  split <;> rfl

/-- The line of the `k`-th read has its size and the running sum. -/
theorem lines_afterData (hm : m ≤ cycles.toNat) :
    (afterData cycles (fun i => (t i).size) m).events.filterMap Event.line? =
      (List.range m).map fun k => ⟨.debug, "Read " ++ toString (t k).size ++ " bytes (" ++
        toString (∑ i ∈ Finset.range (k + 1), (t i).size) ++ " total)"⟩ := by
  simp only [afterData, List.filterMap_map]
  rw [← List.filterMap_eq_map]
  apply List.filterMap_congr
  intro k hk
  have hsum := toNat_sum_size hdata hfits hm (List.mem_range.1 hk)
  simp only [Function.comp_apply, Event.line?, hsum]

/-- What the whole loop tells: each data read, and then what stopped it if something did. -/
theorem lines_leaving (hm : m ≤ cycles.toNat) :
    (leaving cycles t m).events.filterMap Event.line? =
      ((List.range m).map fun k => ⟨.debug, "Read " ++ toString (t k).size ++ " bytes (" ++
        toString (∑ i ∈ Finset.range (k + 1), (t i).size) ++ " total)"⟩) ++
      if (leaving cycles t m).report.endedBy = .peerClosed then
        ((t m).closing (leaving cycles t m).report.reads).filterMap Event.line?
      else [] := by
  rw [← lines_afterData hdata hfits hm, endedBy_leaving]
  by_cases hall : m = cycles.toNat
  · simp [leaving, hall]
  · simp [leaving, hall, report]

end Sizes

/-- **Reading any stream.** Whatever the reads come to, the loop is left, with a report and never
with an error. It has read data as often as data came before the first stop, at most as often as it
may read; the bytes are those of these reads, and the reason tells whether it may have read more.
Each data read is told with its size and the sum so far. Nothing else of the stream counts: not the
reads that were broken off, and not what comes behind the last answer that is read, which is a stop
only if the other side is said to have closed. -/
theorem leaves_on_answers (cycles : UInt32) (s : Nat → ReadOutcome) (hfits : ∀ i, (s i).Fits)
    (hs : KeepsAnswering s) :
    ∃ c, LeavesOn cycles s c ∧
      let r := c.report
      let n := r.reads.toNat
      let total := fun k => ∑ i ∈ Finset.range k, (answered s i).size
      let stops := if r.endedBy = .peerClosed then 1 else 0
      (n : ℕ∞) = min (cycles.toNat : ℕ∞) (dataReads s) ∧
      r.bytesReceived.toNat = total n ∧ n ≤ total n ∧ total n ≤ messageSize * n ∧
      (r.endedBy = .cycleLimit ↔ (cycles.toNat : ℕ∞) ≤ dataReads s) ∧
      (r.endedBy = .peerClosed ↔ dataReads s < (cycles.toNat : ℕ∞)) ∧
      (∀ delay address, (trace delay address (.ok c)).result = .ok r ∧
        (trace delay address (.ok c)).log = (opening delay address).filterMap Event.line? ++
          ((List.range n).map fun k => ⟨.debug, "Read " ++ toString (answered s k).size ++
            " bytes (" ++ toString (total (k + 1)) ++ " total)"⟩) ++
          if r.endedBy = .peerClosed then
            ((answered s n).closing r.reads).filterMap Event.line?
          else []) ∧
      ∀ s', KeepsAnswering s' → (∀ k < n + stops, answered s' k = answered s k) →
        LeavesOn cycles s' c := by
  obtain ⟨m, hm, hmin, hdata, hstop⟩ := hs.exists_read cycles
  have hrun := run_answers hm hdata hstop
  have hreads : (leaving cycles (answered s) m).report.reads.toNat = m := reads_leaving hm
  have hlimit : m = cycles.toNat ↔ (cycles.toNat : ℕ∞) ≤ dataReads s := by
    rw [← min_eq_left_iff, ← hmin, Nat.cast_inj]
  have hanswered : ∀ i, (answered s i).Fits := fun i => hfits _
  refine ⟨leaving cycles (answered s) m, hs.leavesOn (fun _ _ => rfl) hrun, ?_⟩
  intro r n total stops
  have hn : n = m := hreads
  have hread : answersRead cycles m = m + stops := answersRead_eq
  rw [hn]
  refine ⟨hmin, bytes_leaving hdata hanswered hm, le_sum_size hdata hanswered,
    sum_size_le hdata hanswered, ?_, ?_, ?_, ?_⟩
  · rw [← hlimit, endedBy_leaving]
    by_cases hall : m = cycles.toNat <;> simp [hall]
  · rw [← not_le, ← hlimit, endedBy_leaving]
    by_cases hall : m = cycles.toNat <;> simp [hall]
  · intro delay address
    refine ⟨by rw [result_trace]; rfl, ?_⟩
    rw [Traced.log, events_trace, List.filterMap_append, List.append_assoc,
      lines_leaving hdata hanswered hm]
  · intro s' hs' hsame
    apply hs'.leavesOn _ hrun
    intro k hk
    exact hsame k (hread ▸ hk)

/-- Two reads with data, before, between and behind reads that were broken off. -/
theorem broken_off_reads_left :
    let os : List ReadOutcome := [.fault (.kind .interrupted), .data 100,
      .fault (.kind .interrupted), .data 40, .fault (.errno .interrupted)]
    dataReads (thenEnd os) = 2 ∧ (run 2 os).report = ⟨2, 140, .cycleLimit⟩ ∧
      (run 3 os).report = ⟨2, 140, .peerClosed⟩ := by
  intro os
  have hfits : ∀ o ∈ os, o.Fits := by simp [os, ReadOutcome.Fits, messageSize]
  have hthree : (run 3 os).report = ⟨2, 140, .peerClosed⟩ := by decide
  obtain ⟨c, hleft, hreads, -, -, -, -, hclosed, -⟩ :=
    leaves_on_answers 3 (thenEnd os) (fits_thenEnd hfits) (keepsAnswering_thenEnd os)
  obtain rfl := hleft.unique (leavesOn_thenEnd 3 os)
  rw [hthree] at hreads hclosed
  refine ⟨?_, by decide, hthree⟩
  rw [min_eq_right (hclosed.1 rfl).le] at hreads
  exact hreads.symm

end Connector

end Standstill.Socket
