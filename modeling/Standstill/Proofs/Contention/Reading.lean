import Mathlib
import Standstill.Contention.Snapshot
import Standstill.Proofs.Contention.Runs

/-!
# When a snapshot was read

Reads come one after the other and the workers step in between, so each value
of a snapshot is one of another moment. What is known of these moments is
their order: who was seen to have ended had ended before any count of cycles
was read, and those counts were all read before the counters of the locks.

Results:
* `observes_ended`: workers seen to have ended have ended afterwards.
* `observes_cycles`: each count of cycles was right at some moment.
* `observes_locks`: so was each counter of a lock, the peak after the
  acquisitions.
* `observes_all`: the three together.
* `lookAll_counterLooks`: all counters, read at one moment.
-/
namespace Standstill.Contention

/-! ## What only grows -/

namespace Machine

/-- The steps of a worker that are still to come become fewer. -/
theorem toCome_of_reaches {m m' : Machine} (h : m.Reaches m') {i : Nat} {w : Worker}
    (hw : m.workers[i]? = some w) :
    ∃ w', m'.workers[i]? = some w' ∧ w'.binding = w.binding ∧
      w'.toCome .completing ≤ w.toCome .completing := by
  obtain ⟨past, hpast⟩ := h.runs
  obtain ⟨w', hw', hsince⟩ := hpast.worker_at hw
  have hsum := hsince.completing
  exact ⟨w', hw', hsince.binding, by omega⟩

theorem ended_of_reaches {m m' : Machine} (h : m.Reaches m') {i : Nat}
    (hw : ∃ w, m.workers[i]? = some w ∧ w.phase = .ended) :
    ∃ w, m'.workers[i]? = some w ∧ w.phase = .ended := by
  obtain ⟨w, hw, hended⟩ := hw
  obtain ⟨w', hw', -, hle⟩ := toCome_of_reaches h hw
  rw [(w.toCome_eq_zero_iff).2 hended] at hle
  exact ⟨w', hw', w'.toCome_eq_zero_iff.1 (Nat.le_zero.1 hle)⟩

theorem tally_toCome_step {m m' : Machine} {i : Nat} (h : m.step i = some m') (j : Nat)
    {p : Phase} (hp : p ≠ .ended) :
    tally m'.workers j (Worker.toCome p) ≤ tally m.workers j (Worker.toCome p) := by
  obtain ⟨w, l, w', l', hw, -, hstep, rfl⟩ := step_inv h
  have hlock : w'.lock = w.lock := congrArg Prod.snd (Worker.binding_step hstep)
  have hless := Worker.toCome_step hp hstep
  by_cases hj : w.lock.toNat = j
  · obtain ⟨rest, hbefore, hafter⟩ := tally_split (Worker.toCome p) hw hlock hj
    rw [hbefore, hafter]
    omega
  · rw [tally_set_ne _ hw hlock hj]

theorem tally_toCome_of_reaches {m m' : Machine} (h : m.Reaches m') (j : Nat) {p : Phase}
    (hp : p ≠ .ended) :
    tally m'.workers j (Worker.toCome p) ≤ tally m.workers j (Worker.toCome p) := by
  induction h with
  | refl => exact Nat.le_refl _
  | tail _ _ hs ih => exact (tally_toCome_step hs j hp).trans ih

end Machine

namespace Snapshot

/-! ## Reading at one moment -/

theorem lookAll_append (s : Snapshot) (m : Machine) (ls ls' : List Look) :
    s.lookAll m (ls ++ ls') = (s.lookAll m ls).lookAll m ls' := List.foldl_append

theorem lookAll_cycles (s : Snapshot) (m : Machine) (n : Nat) :
    s.lookAll m ((List.range n).map Look.cycles) =
      { s with cycles := s.cycles ++ (m.workers.take n).map (·.completed) } := by
  induction n with
  | zero => simp [lookAll]
  | succ n ih =>
    rw [List.range_succ, List.map_append, lookAll_append, ih, List.take_add_one]
    cases h : m.workers[n]? <;> simp [lookAll, look, h]

theorem lookAll_locks (s : Snapshot) (m : Machine) (n : Nat) :
    s.lookAll m ((List.range n).flatMap fun j => [.acquisitions j, .peak j]) =
      { s with
        acquisitions := s.acquisitions ++ (m.locks.take n).map (·.acquisitions)
        peaks := s.peaks ++ (m.locks.take n).map (·.peakHolders) } := by
  induction n with
  | zero => simp [lookAll]
  | succ n ih =>
    rw [List.range_succ, List.flatMap_append, lookAll_append, ih, List.take_add_one]
    cases h : m.locks[n]? <;> simp [lookAll, look, h]

theorem lookAll_counterLooks (s : Snapshot) (m : Machine) :
    s.lookAll m (counterLooks m.workers.length m.locks.length) =
      { s with
        cycles := s.cycles ++ m.workers.map (·.completed)
        acquisitions := s.acquisitions ++ m.locks.map (·.acquisitions)
        peaks := s.peaks ++ m.locks.map (·.peakHolders) } := by
  rw [counterLooks, lookAll_append, lookAll_cycles, lookAll_locks, List.take_length,
    List.take_length]

/-! ## The three kinds of reads -/

/-- The worker at `i` has counted `v` at some moment from `m` to `n`. -/
def CountedBetween (m n : Machine) (i : Nat) (v : UInt32) : Prop :=
  ∃ k w, m.Reaches k ∧ k.Reaches n ∧ k.workers[i]? = some w ∧ w.completed = v

/-- The lock at `j` had counted the acquisitions `v.1` at some moment from `m` on, and had the
peak `v.2` at one after that. -/
def CountedFrom (m : Machine) (j : Nat) (v : UInt64 × UInt64) : Prop :=
  ∃ k l k' l', m.Reaches k ∧ k.locks[j]? = some l ∧ l.acquisitions = v.1 ∧
    k.Reaches k' ∧ k'.locks[j]? = some l' ∧ l'.peakHolders = v.2

theorem CountedBetween.of_reaches {m m' n : Machine} (h : m.Reaches m') {i : Nat} {v : UInt32}
    (hv : CountedBetween m' n i v) : CountedBetween m n i v := by
  obtain ⟨k, w, hk, hrest⟩ := hv
  exact ⟨k, w, h.trans hk, hrest⟩

theorem CountedFrom.of_reaches {m m' : Machine} (h : m.Reaches m') {j : Nat}
    {v : UInt64 × UInt64} (hv : CountedFrom m' j v) : CountedFrom m j v := by
  obtain ⟨k, l, k', l', hk, hrest⟩ := hv
  exact ⟨k, l, k', l', h.trans hk, hrest⟩

section Reads
variable {m : Machine} {s s' : Snapshot} {ls : List Look}

theorem observes_ended {is : List Nat} (h : Observes m s (is.map Look.ended ++ ls) s') :
    ∃ n seen, m.Reaches n ∧ List.Sublist seen is ∧
      (∀ i ∈ seen, ∃ w, n.workers[i]? = some w ∧ w.phase = .ended) ∧
      Observes n { s with ended := s.ended + seen.length } ls s' := by
  induction is generalizing m s with
  | nil => exact ⟨m, [], .refl m, .slnil, by simp, h⟩
  | cons i is ih =>
    rw [List.map_cons, List.cons_append] at h
    cases h with
    | unseen hr ho =>
      obtain ⟨n, seen, hn, hsub, hended, hrest⟩ := ih ho
      exact ⟨n, seen, hr.trans hn, hsub.cons i, hended, hrest⟩
    | @look _ m' _ _ _ _ hr ho =>
      by_cases hseen : m'.workers[i]?.any Worker.hasEnded = true
      · simp only [look, hseen, if_true] at ho
        obtain ⟨n, seen, hn, hsub, hended, hrest⟩ := ih ho
        obtain ⟨w, hw, hat⟩ := (Option.any_eq_true ..).1 hseen
        have hafter := Machine.ended_of_reaches hn ⟨w, hw, by simpa [Worker.hasEnded] using hat⟩
        refine ⟨n, i :: seen, hr.trans hn, hsub.cons_cons i,
          List.forall_mem_cons.2 ⟨hafter, hended⟩, ?_⟩
        rw [List.length_cons, Nat.add_comm seen.length, ← Nat.add_assoc]
        exact hrest
      · simp only [look, hseen] at ho
        obtain ⟨n, seen, hn, hsub, hended, hrest⟩ := ih ho
        exact ⟨n, seen, hr.trans hn, hsub.cons i, hended, hrest⟩

theorem observes_cycles {is : List Nat} (hin : ∀ i ∈ is, i < m.workers.length)
    (h : Observes m s (is.map Look.cycles ++ ls) s') :
    ∃ n read, m.Reaches n ∧ List.Forall₂ (CountedBetween m n) is read ∧
      Observes n { s with cycles := s.cycles ++ read } ls s' := by
  induction is generalizing m s with
  | nil => exact ⟨m, [], .refl m, .nil, by simpa using h⟩
  | cons i is ih =>
    rw [List.map_cons, List.cons_append] at h
    cases h with
    | @look _ m' _ _ _ _ hr ho =>
      have hlen := Machine.length_workers_of_reaches hr
      have hw := List.getElem?_eq_getElem (show i < m'.workers.length by
        rw [hlen]; exact hin i (by simp))
      obtain ⟨n, read, hn, hread, hrest⟩ := ih (fun x hx => by
        rw [hlen]; exact hin x (by simp [hx])) ho
      refine ⟨n, _ :: read, hr.trans hn, .cons ⟨m', _, hr, hn, hw, rfl⟩
        (hread.imp fun _ _ => CountedBetween.of_reaches hr), ?_⟩
      simpa [look, hw] using hrest

theorem observes_locks {js : List Nat} (hin : ∀ j ∈ js, j < m.locks.length)
    (h : Observes m s (js.flatMap fun j => [.acquisitions j, .peak j]) s') :
    ∃ read, List.Forall₂ (CountedFrom m) js read ∧
      s' = { s with
        acquisitions := s.acquisitions ++ read.map (·.1)
        peaks := s.peaks ++ read.map (·.2) } := by
  induction js generalizing m s with
  | nil =>
    cases h with
    | done => exact ⟨[], .nil, by simp⟩
  | cons j js ih =>
    rw [List.flatMap_cons, List.cons_append, List.cons_append, List.nil_append] at h
    cases h with
    | @look _ k _ _ _ _ hk h =>
      cases h with
      | @look _ k' _ _ _ _ hk' h =>
        have hlen := (Machine.bindings_of_reaches hk).2
        have hlen' := (Machine.bindings_of_reaches hk').2.trans hlen
        have hl := List.getElem?_eq_getElem (show j < k.locks.length by
          rw [hlen]; exact hin j (by simp))
        have hl' := List.getElem?_eq_getElem (show j < k'.locks.length by
          rw [hlen']; exact hin j (by simp))
        obtain ⟨read, hread, hrest⟩ := ih (fun x hx => by
          rw [hlen']; exact hin x (by simp [hx])) h
        refine ⟨(_, _) :: read, .cons ⟨k, _, k', _, hk, hl, rfl, hk', hl', rfl⟩
          (hread.imp fun _ _ => CountedFrom.of_reaches (hk.trans hk')), ?_⟩
        simpa [look, hl, hl'] using hrest

end Reads

/-! ## All reads -/

/-- Values related to the numbers below `n` in order are those of a function. -/
theorem exists_map_range {α : Type} [Inhabited α] {R : Nat → α → Prop} {n : Nat} {xs : List α}
    (h : List.Forall₂ R (List.range n) xs) :
    ∃ f : Nat → α, xs = (List.range n).map f ∧ ∀ i < n, R i (f i) := by
  obtain ⟨hlen, hget⟩ := List.forall₂_iff_get.1 h
  rw [List.length_range] at hlen
  refine ⟨fun i => xs[i]?.getD default, ?_, fun i hi => ?_⟩
  · refine List.ext_getElem (by simp [hlen]) fun i hi _ => ?_
    simp [hi]
  · have hrel := hget i (by simpa using hi) (hlen ▸ hi)
    simpa [hlen ▸ hi] using hrel

/-- **All reads.** What a snapshot says, and of which moments. -/
theorem observes_all {m : Machine} {s : Snapshot}
    (h : Observes m {} (allLooks m.workers.length m.locks.length) s) :
    ∃ (n n' : Machine) (seen : List Nat) (cycles : Nat → UInt32)
      (counters : Nat → UInt64 × UInt64), m.Reaches n ∧ n.Reaches n' ∧
      List.Sublist seen (List.range m.workers.length) ∧
      (∀ i ∈ seen, ∃ w, n.workers[i]? = some w ∧ w.phase = .ended) ∧
      (∀ i < m.workers.length, CountedBetween n n' i (cycles i)) ∧
      (∀ j < m.locks.length, CountedFrom n' j (counters j)) ∧
      s = {
        ended := seen.length
        cycles := (List.range m.workers.length).map cycles
        acquisitions := (List.range m.locks.length).map fun j => (counters j).1
        peaks := (List.range m.locks.length).map fun j => (counters j).2 } := by
  rw [allLooks, endedLooks, counterLooks] at h
  obtain ⟨n, seen, hn, hsub, hended, h⟩ := observes_ended h
  obtain ⟨n', cycles, hn', hcycles, h⟩ := observes_cycles (fun i hi => by
    rw [Machine.length_workers_of_reaches hn]; exact List.mem_range.1 hi) h
  obtain ⟨counters, hcounters, h⟩ := observes_locks (fun j hj => by
    rw [(Machine.bindings_of_reaches hn').2, (Machine.bindings_of_reaches hn).2]
    exact List.mem_range.1 hj) h
  obtain ⟨done, rfl, hdone⟩ := exists_map_range hcycles
  obtain ⟨taken, rfl, htaken⟩ := exists_map_range hcounters
  refine ⟨n, n', seen, done, taken, hn, hn', hsub, hended, hdone, htaken, ?_⟩
  rw [h, List.map_map, List.map_map]
  simp only [Nat.zero_add, List.nil_append]
  rfl

end Snapshot

end Standstill.Contention
