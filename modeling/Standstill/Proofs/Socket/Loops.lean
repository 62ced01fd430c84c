import Mathlib
import Standstill.Socket.Connector
import Standstill.Socket.Listener

/-!
# The loops of the two endpoints

`Listener.Reached` and `Connector.Reached` are the states that the loops come
to, whatever their writes and reads come to. A state in which the loop is left
is the outcome of the whole loop, and in each state the counts of a loop agree
with each other and with the reason for leaving it.

Results:
* `exists_min_leading`: how often a loop goes on that stops at a failed test.
* `Listener.Reached.sound`, `Connector.Reached.sound`: how the counts agree.
* `Listener.Reached.eq_serve`, `Connector.Reached.eq_run`: a loop that is left
  is a whole loop.
-/
namespace Standstill.Socket

/-! ## Counting cycles -/

/-- How a count of cycles agrees with the reason for leaving the loop. -/
structure Ends (cycles count : UInt32) (ended : Option EndReason) : Prop where
  going : ended = none → count.toNat < cycles.toNat
  limit : ended = some .cycleLimit → count = cycles
  early : ended = some .peerClosed → count.toNat < cycles.toNat

theorem Ends.le {cycles count : UInt32} {ended : Option EndReason} (h : Ends cycles count ended) :
    count.toNat ≤ cycles.toNat := by
  cases ended with
  | none => exact Nat.le_of_lt (h.going rfl)
  | some r =>
    cases r with
    | cycleLimit => exact Nat.le_of_eq (congrArg _ (h.limit rfl))
    | peerClosed => exact Nat.le_of_lt (h.early rfl)

/-- A loop that is left exactly when its cycles are done. -/
theorem ends_of_le {cycles count : UInt32} (h : count.toNat ≤ cycles.toNat) :
    Ends cycles count (if count = cycles then some .cycleLimit else none) := by
  by_cases he : count = cycles
  · rw [if_pos he]
    exact ⟨nofun, fun _ => he, nofun⟩
  · rw [if_neg he]
    have hne : count.toNat ≠ cycles.toNat := fun hn => he (UInt32.toNat_inj.1 hn)
    exact ⟨fun _ => Nat.lt_of_le_of_ne h hne, nofun, nofun⟩

theorem ends_start (cycles : UInt32) :
    Ends cycles 0 (if cycles = 0 then some .cycleLimit else none) := by
  simpa only [@eq_comm _ cycles] using @ends_of_le cycles 0 (Nat.zero_le _)

/-- A count below another one counts on without wrapping. -/
theorem toNat_add_one_of_lt {a b : UInt32} (h : a.toNat < b.toNat) :
    (a + 1).toNat = a.toNat + 1 := by
  have hb := b.toNat_lt
  rw [UInt32.toNat_add, UInt32.toNat_one]
  omega

/-- A number up to a count is that number as a word. -/
theorem toNat_ofNat_of_le {cycles : UInt32} {k : Nat} (h : k ≤ cycles.toNat) :
    (UInt32.ofNat k).toNat = k :=
  UInt32.toNat_ofNat_of_lt' (Nat.lt_of_le_of_lt h cycles.toNat_lt)

theorem ofNat_add_one_eq_iff {cycles : UInt32} {k : Nat} (h : k < cycles.toNat) :
    UInt32.ofNat k + 1 = cycles ↔ k + 1 = cycles.toNat := by
  have hk := toNat_ofNat_of_le (Nat.le_of_lt h)
  rw [← UInt32.toNat_inj, toNat_add_one_of_lt (hk.trans_lt h), hk]

/-- The cycle after one that was done. -/
theorem ends_next {cycles count : UInt32} (h : count.toNat < cycles.toNat) :
    Ends cycles (count + 1) (if count + 1 = cycles then some .cycleLimit else none) :=
  ends_of_le (by rw [toNat_add_one_of_lt h]; exact h)

/-- Only the other side going away ends a loop early. -/
theorem ite_cycleLimit_ne {p : Prop} [Decidable p] :
    (if p then some EndReason.cycleLimit else none) ≠ some .peerClosed := by
  split <;> nofun

theorem ends_early {cycles count : UInt32} (h : count.toNat < cycles.toNat) :
    Ends cycles count (some .peerClosed) :=
  ⟨nofun, nofun, fun _ => h⟩

/-- How many numbers come before the first that fails a test; all of them if none fails. -/
noncomputable def leading (p : Nat → Prop) : ℕ∞ := {i | ∀ j ≤ i, p j}.encard

theorem le_leading_iff {p : Nat → Prop} {k : Nat} : (k : ℕ∞) ≤ leading p ↔ ∀ j < k, p j := by
  constructor
  · intro hle j hj
    by_contra hno
    have hbelow : {i | ∀ j ≤ i, p j} ⊆ ↑(Finset.range j) := by
      intro i hi
      simp only [Finset.coe_range, Set.mem_Iio]
      by_contra hge
      exact hno (hi j (not_lt.1 hge))
    have hcard := hle.trans (Set.encard_le_encard hbelow)
    rw [Set.encard_coe_eq_coe_finsetCard, Finset.card_range, Nat.cast_le] at hcard
    omega
  · intro hall
    have habove : ↑(Finset.range k) ⊆ {i | ∀ j ≤ i, p j} := by
      intro i hi j hj
      simp only [Finset.coe_range, Set.mem_Iio] at hi
      exact hall j (by omega)
    have hcard := Set.encard_le_encard habove
    rwa [Set.encard_coe_eq_coe_finsetCard, Finset.card_range] at hcard

/-- A loop that may go on `limit` times, and only while a test is passed, goes on as often as this,
and the test fails next if it may go on. -/
theorem exists_min_leading (limit : Nat) (p : Nat → Prop) :
    ∃ m ≤ limit, (m : ℕ∞) = min (limit : ℕ∞) (leading p) ∧ (∀ i < m, p i) ∧
      (m < limit → ¬p m) := by
  have hfinite := ne_top_of_le_ne_top (ENat.natCast_ne_top _)
    (min_le_left (limit : ℕ∞) (leading p))
  obtain ⟨m, hmin⟩ := ENat.ne_top_iff_exists.1 hfinite
  have hpass := le_leading_iff.1 (hmin.trans_le (min_le_right _ _))
  refine ⟨m, Nat.cast_le.1 (hmin.trans_le (min_le_left _ _)), hmin, hpass, ?_⟩
  intro hlt hnext
  have hmore : ((m + 1 : Nat) : ℕ∞) ≤ leading p := by
    rw [le_leading_iff]
    intro i hi
    obtain hi | rfl := Nat.lt_succ_iff_lt_or_eq.1 hi
    · exact hpass i hi
    · exact hnext
  have hless := le_min (Nat.cast_le.2 (Nat.succ_le_of_lt hlt)) hmore
  rw [← hmin, Nat.cast_le] at hless
  omega

/-! ## The listener -/

namespace Listener

/-- The listeners that the loop comes to. -/
inductive Reached (cycles : UInt32) : Listener → Prop
  | start : Reached cycles (start cycles)
  | write {l : Listener} (o : WriteOutcome) : Reached cycles l → l.ended = none →
      Reached cycles (l.onWrite o)

/-- How the counts of a listener agree. -/
structure Sound (cycles : UInt32) (l : Listener) : Prop where
  cycles_eq : l.cycles = cycles
  sent_eq : l.sent = l.cycle
  ends : Ends cycles l.cycle l.ended

variable {cycles : UInt32} {l : Listener}

theorem Sound.onWrite (hs : l.Sound cycles) (h : l.ended = none) (o : WriteOutcome) :
    (l.onWrite o).Sound cycles := by
  have hlt := hs.ends.going h
  cases o with
  | whole =>
    refine ⟨hs.cycles_eq, congrArg (· + 1) hs.sent_eq, ?_⟩
    simp only [Listener.onWrite, hs.cycles_eq]
    exact ends_next hlt
  | broken taken f => exact ⟨hs.cycles_eq, hs.sent_eq, ends_early hlt⟩

theorem Reached.sound (h : l.Reached cycles) : l.Sound cycles := by
  induction h with
  | start => exact ⟨rfl, rfl, ends_start cycles⟩
  | write o _ hn ih => exact ih.onWrite hn o

theorem Sound.toNat_sent_onWrite (hs : l.Sound cycles) (h : l.ended = none) :
    (l.onWrite .whole).sent.toNat = l.sent.toNat + 1 :=
  toNat_add_one_of_lt (hs.sent_eq ▸ hs.ends.going h)

/-- The writes that a listener has behind it, the one that ended its loop included. -/
def behind (l : Listener) : Nat := l.cycle.toNat + if l.ended = some .peerClosed then 1 else 0

theorem behind_of_going (h : l.ended = none) : l.behind = l.cycle.toNat := by
  simp [behind, h]

theorem Sound.behind_onWrite (hs : l.Sound cycles) (h : l.ended = none) (o : WriteOutcome) :
    (l.onWrite o).behind = l.behind + 1 := by
  rw [behind_of_going h]
  cases o with
  | whole =>
    have hup : (l.onWrite .whole).cycle.toNat = l.cycle.toNat + 1 :=
      toNat_add_one_of_lt (hs.ends.going h)
    have hended : (l.onWrite .whole).ended ≠ some .peerClosed := ite_cycleLimit_ne
    rw [behind, hup, if_neg hended, Nat.add_zero]
  | broken taken f => simp [behind, Listener.onWrite]

/-- One turn of the loop. -/
theorem serveFrom_of_going (outcome : Nat → WriteOutcome) {n : Nat} (h : l.ended = none) :
    serveFrom outcome (n + 1) l =
      let o := outcome l.cycle.toNat
      let later := serveFrom outcome n (l.onWrite o)
      (later.1, o.bytes ++ later.2) := by
  simp [serveFrom, h]

/-- Against writes that come to the same so far, the whole loop goes on from where it is. -/
theorem Reached.exists_outcomes (h : l.Reached cycles) :
    ∃ past : Nat → WriteOutcome, ∀ outcome, (∀ i < l.behind, outcome i = past i) →
      (serve cycles outcome).1 = (serveFrom outcome (cycles.toNat - l.cycle.toNat) l).1 := by
  induction h with
  | start => exact ⟨fun _ => .whole, fun outcome _ => rfl⟩
  | @write l o hr hn ih =>
    obtain ⟨past, hpast⟩ := ih
    have hs := hr.sound
    have hlt := hs.ends.going hn
    have hbehind := behind_of_going hn
    have hnext := hs.behind_onWrite hn o
    refine ⟨Function.update past l.cycle.toNat o, fun outcome hsame => ?_⟩
    have ho : outcome l.cycle.toNat = o := by simpa using hsame l.cycle.toNat (by omega)
    have hearlier : ∀ i < l.behind, outcome i = past i := fun i hi => by
      have hne : i ≠ l.cycle.toNat := by omega
      simpa [Function.update_of_ne hne] using hsame i (by omega)
    obtain ⟨n, hleft⟩ : ∃ n, cycles.toNat - l.cycle.toNat = n + 1 :=
      ⟨cycles.toNat - l.cycle.toNat - 1, by omega⟩
    simp only [hpast outcome hearlier, hleft, serveFrom_of_going outcome hn, ho]
    cases o with
    | whole =>
      have hup : (l.onWrite .whole).cycle.toNat = l.cycle.toNat + 1 := toNat_add_one_of_lt hlt
      rw [hup, show cycles.toNat - (l.cycle.toNat + 1) = n by omega]
    | broken taken f =>
      -- The loop is left, so it does not matter how many cycles were to come.
      have hended : (l.onWrite (.broken taken f)).ended = some .peerClosed := rfl
      rw [serveFrom_of_ended _ _ hended, serveFrom_of_ended _ _ hended]

/-- A listener that has left its loop is what the whole loop comes to against some writes. -/
theorem Reached.eq_serve (h : l.Reached cycles) (hended : l.ended ≠ none) :
    ∃ outcome, (serve cycles outcome).1 = l := by
  obtain ⟨past, hpast⟩ := h.exists_outcomes
  obtain ⟨r, hr⟩ := Option.ne_none_iff_exists'.1 hended
  exact ⟨past, by rw [hpast past fun _ _ => rfl, serveFrom_of_ended _ _ hr]⟩

end Listener

/-! ## The connector -/

/-- Data of a size that a read can return. -/
def ReadOutcome.Fits : ReadOutcome → Prop
  | .data n => 0 < n ∧ n ≤ messageSize
  | .streamEnd | .fault _ => True

namespace Connector

/-- The connectors that the loop comes to. -/
inductive Reached (cycles : UInt32) : Connector → Prop
  | start : Reached cycles (start cycles)
  | read {c : Connector} (o : ReadOutcome) : Reached cycles c → c.ended = none → o.Fits →
      Reached cycles (c.onRead o)

/-- How the counts of a connector agree. -/
structure Sound (cycles : UInt32) (c : Connector) : Prop where
  cycles_eq : c.cycles = cycles
  attempts_eq : c.attempts = c.reads
  ends : Ends cycles c.reads c.ended
  reads_le : c.reads.toNat ≤ c.bytes.toNat
  bytes_le : c.bytes.toNat ≤ messageSize * c.reads.toNat

variable {cycles : UInt32} {c : Connector}

theorem Sound.toNat_reads_onRead (hs : c.Sound cycles) (h : c.ended = none) (n : Nat) :
    (c.onRead (.data n)).reads.toNat = c.reads.toNat + 1 :=
  toNat_add_one_of_lt (hs.ends.going h)

/-- As many bytes as the reads can bring do not wrap. -/
theorem Sound.toNat_bytes_onRead (hs : c.Sound cycles) {n : Nat} (hn : n ≤ messageSize) :
    (c.onRead (.data n)).bytes.toNat = c.bytes.toNat + n := by
  have hreads := c.reads.toNat_lt
  have hbytes := hs.bytes_le
  simp only [messageSize] at hn hbytes
  show (c.bytes + UInt64.ofNat n).toNat = _
  rw [UInt64.toNat_add, UInt64.toNat_ofNat']
  omega

theorem Sound.onRead (hs : c.Sound cycles) (h : c.ended = none) {o : ReadOutcome}
    (ho : o.Fits) : (c.onRead o).Sound cycles := by
  have hlt := hs.ends.going h
  have hle := hs.reads_le
  have hge := hs.bytes_le
  cases o with
  | data n =>
    obtain ⟨hpos, hn⟩ := ho
    have hreads := hs.toNat_reads_onRead h n
    have hbytes := hs.toNat_bytes_onRead hn
    refine ⟨hs.cycles_eq, congrArg (· + 1) hs.attempts_eq, ?_, by omega, ?_⟩
    · simp only [Connector.onRead, hs.cycles_eq, hs.attempts_eq]
      exact ends_next hlt
    · rw [hreads, hbytes, Nat.mul_add_one]
      omega
  | streamEnd => exact ⟨hs.cycles_eq, hs.attempts_eq, ends_early hlt, hle, hge⟩
  | fault f =>
    by_cases hf : f.isInterrupted = true
    · rwa [onRead_interrupted c hf]
    · simp only [Connector.onRead, hf]
      exact ⟨hs.cycles_eq, hs.attempts_eq, ends_early hlt, hle, hge⟩

theorem Reached.sound (h : c.Reached cycles) : c.Sound cycles := by
  induction h with
  | start => exact ⟨rfl, rfl, ends_start cycles, Nat.le_refl _, Nat.le_refl _⟩
  | read o _ hn ho ih => exact ih.onRead hn ho

/-- One turn of the loop. -/
theorem readAll_of_going (h : c.ended = none) (o : ReadOutcome) (os : List ReadOutcome) :
    c.readAll (o :: os) = (c.onRead o).readAll os := by
  simp [readAll, h]

/-- The whole loop goes on from where it is. -/
theorem Reached.exists_outcomes (h : c.Reached cycles) :
    ∃ past, ∀ later, run cycles (past ++ later) = c.readAll later := by
  induction h with
  | start => exact ⟨[], fun _ => rfl⟩
  | read o _ hn _ ih =>
    obtain ⟨past, hpast⟩ := ih
    refine ⟨past ++ [o], fun later => ?_⟩
    rw [List.append_assoc, hpast, List.singleton_append, readAll_of_going hn]

/-- A connector that has left its loop is what the whole loop comes to against some reads. -/
theorem Reached.eq_run (h : c.Reached cycles) (hended : c.ended ≠ none) :
    ∃ outcomes, run cycles outcomes = c := by
  obtain ⟨past, hpast⟩ := h.exists_outcomes
  obtain ⟨r, hr⟩ := Option.ne_none_iff_exists'.1 hended
  exact ⟨past, by rw [← List.append_nil past, hpast, readAll_of_ended hr]⟩

end Connector

end Standstill.Socket
