import Mathlib
import Standstill.Proofs.Contention.Outcome

/-!
# What a report of running workers says

A coordinator that does not wait for the workers reads each count at another
moment. Its report is right all the same in one direction: it first asks who
has ended, then reads the cycles, then the acquisitions, and a worker counts
its acquisition before its cycle. So no cycle is reported whose acquisition is
not, and who is reported to have ended has all its cycles reported.

Results:
* `cycles_of_countedBetween`, `acquisitions_of_countedFrom`: one value read.
* `sum_add_tally_le`: the cycles read of the workers of a lock, added up.
* `exists_values_of_observes`: what all the reads amount to.
* `timed_report_consistent`: all of a report.
-/
namespace Standstill.Contention

namespace Report

/-- The cycles reported of the workers of a lock. -/
def cyclesOn (r : Report) (lock : UInt64) : Nat :=
  (r.workers.map fun w => if w.lock = lock then w.cycles.toNat else 0).sum

/-- The workers reported with a lock. -/
def workersOn (r : Report) (lock : UInt64) : Nat := r.workers.countP fun w => w.lock = lock

/-- The workers reported with a number of cycles. -/
def workersWith (r : Report) (cycles : UInt32) : Nat := r.workers.countP fun w => w.cycles = cycles

end Report

namespace Config

open Snapshot (CountedBetween CountedFrom)

section Values
variable {c : Config} {m n : Machine} {i j : Nat}

/-! ## One value -/

/-- A count of cycles, from what has ended before it was read and what was still to come after. -/
theorem cycles_of_countedBetween (hl : c.locks ≠ 0) (hm : c.begin.Reaches m)
    (hi : i < c.workers.toNat) {v : UInt32} (h : CountedBetween m n i v) :
    v ≤ c.cycles ∧
      (∀ w, n.workers[i]? = some w → v.toNat + w.toCome .completing ≤ c.cycles.toNat) ∧
      ((∃ w, m.workers[i]? = some w ∧ w.phase = .ended) → v = c.cycles) := by
  obtain ⟨k, u, hk, hn, hu, rfl⟩ := h
  obtain ⟨u', hu', -, hsum⟩ := worker_of_reaches (hm.trans hk) hl hi
  obtain rfl := Option.some.inj (hu.symm.trans hu')
  refine ⟨UInt32.le_iff_toNat_le.2 (by omega), ?_, ?_⟩
  · intro w hw
    obtain ⟨w', hw', -, hle⟩ := Machine.toCome_of_reaches hn hu
    obtain rfl := Option.some.inj (hw.symm.trans hw')
    omega
  · intro hended
    obtain ⟨w, hw, hat⟩ := Machine.ended_of_reaches hk hended
    obtain rfl := Option.some.inj (hu.symm.trans hw)
    rw [Worker.toCome_ended hat] at hsum
    exact UInt32.toNat_inj.1 hsum

/-- The counters of a lock, against the cycles that were still to come before they were read. -/
theorem acquisitions_of_countedFrom (hl : c.locks ≠ 0)
    (hfew : c.workers.toNat * c.cycles.toNat < UInt64.size) (hm : c.begin.Reaches m)
    (hj : j < c.locks.toNat) {v : UInt64 × UInt64} (h : CountedFrom m j v) :
    c.takes j ≤ v.1.toNat + tally m.workers j (Worker.toCome .completing) ∧
      v.1.toNat ≤ c.takes j ∧ v.2 ≤ 1 ∧ (0 < v.1 → v.2 = 1) ∧ (c.takes j = 0 → v.2 = 0) := by
  obtain ⟨k, l, k', l', hk, hget, hacquired, hk', hget', hpeak⟩ := h
  obtain ⟨a, p⟩ := v
  dsimp only at hacquired hpeak ⊢
  subst hacquired hpeak
  obtain ⟨l₁, hget₁, hsound, -⟩ := lock_of_reaches (hm.trans hk) hl hj
  obtain rfl := Option.some.inj (hget.symm.trans hget₁)
  obtain ⟨l₂, hget₂, hsound', -⟩ := lock_of_reaches ((hm.trans hk).trans hk') hl hj
  obtain rfl := Option.some.inj (hget'.symm.trans hget₂)
  have hless := takes_lt hl hfew hj
  have htakes := hsound.takes_le
  have hvalue : l.acquisitions.toNat = c.takes j - tally k.workers j (Worker.toCome .raised) := by
    rw [hsound.acquisitions_eq, UInt64.toNat_ofNat_of_lt' (by omega)]
  -- A cycle to come when the reads began covers an acquisition to come when this one was made.
  have hcome : tally k.workers j (Worker.toCome .raised) ≤
      tally m.workers j (Worker.toCome .completing) := calc
    _ ≤ tally k.workers j (Worker.toCome .completing) :=
      tally_le_tally fun w _ _ => Worker.toCome_le (by decide) w
    _ ≤ _ := Machine.tally_toCome_of_reaches hk j (by simp)
  -- The peak was read later, and whoever counts an acquisition raised it before.
  have hraised : tally k'.workers j (Worker.toCome (.counted 1)) ≤
      tally k.workers j (Worker.toCome .raised) := calc
    _ ≤ tally k'.workers j (Worker.toCome .raised) :=
      tally_le_tally fun w _ _ => Worker.toCome_le (by decide) w
    _ ≤ _ := Machine.tally_toCome_of_reaches hk' j (by simp)
  refine ⟨by omega, by omega, hsound'.peakHolders_le_one, ?_, ?_⟩
  · intro hpos
    have hsome : 0 < l.acquisitions.toNat := UInt64.lt_iff_toNat_lt.1 hpos
    rw [hsound'.peak_eq, if_pos (by omega)]
  · intro hzero
    rw [hsound'.peak_eq, if_neg (by omega)]

/-! ## The workers of a lock -/

/-- Cycles read of the workers of a lock, with those still to come afterwards, are not more than
the lock's workers have. -/
theorem sum_add_tally_le (hl : c.locks ≠ 0) (hm : c.begin.Reaches m) (hj : j < c.locks.toNat)
    {done : Nat → Nat} (hdone : ∀ i < c.workers.toNat, ∀ w, m.workers[i]? = some w →
      done i + w.toCome .completing ≤ c.cycles.toNat) :
    ((List.range c.workers.toNat).map fun i => if i % c.locks.toNat = j then done i else 0).sum +
      tally m.workers j (Worker.toCome .completing) ≤ c.takes j := by
  have hlen := (length_of_reaches hm).1
  have hlist : m.workers =
      (List.range c.workers.toNat).map fun i => m.workers[i]?.getD (c.worker 0 i) := by
    refine List.ext_getElem (by simp [hlen]) fun i hi _ => ?_
    simp [hi]
  rw [tally, hlist, List.map_map, ← List.sum_map_add, takes, share, ← sum_share _ _ _ _ hj]
  refine List.sum_le_sum fun i hi => ?_
  obtain ⟨w, hw, hbinding, -⟩ := worker_of_reaches hm hl (List.mem_range.1 hi)
  have hlock : w.lock.toNat = i % c.locks.toNat := by
    rw [show w.lock = _ from congrArg Prod.snd hbinding]
    exact UInt64.toNat_ofNat_of_lt' ((mod_locks_lt hl i).trans c.locks.toNat_lt_size)
  simp only [Function.comp_apply, hw, Option.getD_some, hlock]
  split
  · exact hdone i (List.mem_range.1 hi) w hw
  · exact Nat.le_refl 0

/-! ## A snapshot -/

/-- **A snapshot.** What the reads of a run amount to, with the moments left out. -/
theorem exists_values_of_observes (hl : c.locks ≠ 0)
    (hfew : c.workers.toNat * c.cycles.toNat < UInt64.size) {s : Snapshot}
    (h : Snapshot.Observes c.begin {}
      (Snapshot.allLooks c.begin.workers.length c.begin.locks.length) s) :
    ∃ (seen : List Nat) (cycles : Nat → UInt32) (counters : Nat → UInt64 × UInt64),
      s = {
        ended := seen.length
        cycles := (List.range c.workers.toNat).map cycles
        acquisitions := (List.range c.locks.toNat).map fun j => (counters j).1
        peaks := (List.range c.locks.toNat).map fun j => (counters j).2 } ∧
      List.Sublist seen (List.range c.workers.toNat) ∧
      (∀ i < c.workers.toNat, cycles i ≤ c.cycles) ∧
      (∀ i ∈ seen, cycles i = c.cycles) ∧
      ∀ j < c.locks.toNat,
        ((List.range c.workers.toNat).map fun i =>
          if i % c.locks.toNat = j then (cycles i).toNat else 0).sum ≤ (counters j).1.toNat ∧
        (counters j).1.toNat ≤ c.takes j ∧ (counters j).2 ≤ 1 ∧
        (0 < (counters j).1 → (counters j).2 = 1) ∧ (c.takes j = 0 → (counters j).2 = 0) := by
  obtain ⟨n, n', seen, cycles, counters, hn, hn', hsub, hended, hcycles, hcounters, rfl⟩ :=
    Snapshot.observes_all h
  rw [length_begin_workers] at hsub hcycles
  rw [length_begin_locks] at hcounters
  have hread := fun i hi => cycles_of_countedBetween hl hn hi (hcycles i hi)
  refine ⟨seen, cycles, counters, ?_, hsub, fun i hi => (hread i hi).1, ?_, ?_⟩
  · rw [length_begin_workers, length_begin_locks]
  · intro i hi
    exact (hread i (List.mem_range.1 (hsub.subset hi))).2.2 (hended i hi)
  · intro j hj
    have hreach := hn.trans hn'
    obtain ⟨hlow, hrest⟩ := acquisitions_of_countedFrom hl hfew hreach hj (hcounters j hj)
    have hsum := sum_add_tally_le hl hreach hj fun i hi => (hread i hi).2.1
    exact ⟨by omega, hrest⟩

end Values

/-! ## Reports -/

section Reports
variable {c : Config} {ticks : UInt32}

/-- A report of what was read of each worker and each lock. -/
def readReport (c : Config) (completion : CompletionMode) (ended : Nat) (cycles : Nat → UInt32)
    (counters : Nat → UInt64 × UInt64) : Report where
  completion := completion
  workers := (List.range c.workers.toNat).map fun i =>
    ⟨UInt64.ofNat i, UInt64.ofNat (i % c.locks.toNat), cycles i⟩
  locks := (List.range c.locks.toNat).map fun j =>
    ⟨UInt64.ofNat j, (counters j).1, (counters j).2⟩
  finishedWorkers := UInt64.ofNat ended

variable {completion : CompletionMode} {ended : Nat} {cycles : Nat → UInt32}
  {counters : Nat → UInt64 × UInt64}

theorem timedReport_eq (hl : c.locks ≠ 0) :
    timedReport ticks c.begin {
        ended := ended
        cycles := (List.range c.workers.toNat).map cycles
        acquisitions := (List.range c.locks.toNat).map fun j => (counters j).1
        peaks := (List.range c.locks.toNat).map fun j => (counters j).2 } =
      c.readReport (.timedWait ticks) ended cycles counters := by
  unfold timedReport Snapshot.report readReport
  rw [bindings_begin hl, List.zip_map', List.zip_map', List.map_map]
  congr 1
  refine List.ext_getElem (by simp) fun j _ _ => ?_
  simp

/-- The order in which workers and locks are reported. -/
theorem indices_readReport (hl : c.locks ≠ 0) :
    ((c.readReport completion ended cycles counters).workers.map fun w =>
        (w.index.toNat, w.lock.toNat)) =
      ((List.range c.workers.toNat).map fun i => (i, i % c.locks.toNat)) ∧
    ((c.readReport completion ended cycles counters).locks.map fun l => l.index.toNat) =
      List.range c.locks.toNat := by
  unfold readReport
  rw [List.map_map, List.map_map]
  constructor
  · refine List.map_congr_left fun i hi => Prod.ext ?_ ?_
    · exact UInt64.toNat_ofNat_of_lt' ((List.mem_range.1 hi).trans c.workers.toNat_lt_size)
    · exact UInt64.toNat_ofNat_of_lt' ((mod_locks_lt hl i).trans c.locks.toNat_lt_size)
  · refine (List.map_congr_left fun j hj => ?_).trans (List.map_id _)
    exact UInt64.toNat_ofNat_of_lt' ((List.mem_range.1 hj).trans c.locks.toNat_lt_size)

theorem ofNat_mod_eq_iff (hl : c.locks ≠ 0) {i j : Nat} (hj : j < c.locks.toNat) :
    UInt64.ofNat (i % c.locks.toNat) = UInt64.ofNat j ↔ i % c.locks.toNat = j := by
  have hsize := c.locks.toNat_lt_size
  rw [← UInt64.toNat_inj, UInt64.toNat_ofNat_of_lt' ((mod_locks_lt hl i).trans hsize),
    UInt64.toNat_ofNat_of_lt' (hj.trans hsize)]

theorem cyclesOn_readReport (hl : c.locks ≠ 0) {j : Nat} (hj : j < c.locks.toNat) :
    (c.readReport completion ended cycles counters).cyclesOn (UInt64.ofNat j) =
      ((List.range c.workers.toNat).map fun i =>
        if i % c.locks.toNat = j then (cycles i).toNat else 0).sum := by
  unfold Report.cyclesOn readReport
  simp only [List.map_map, Function.comp_def, ofNat_mod_eq_iff hl hj]

theorem countP_eq_sum {α : Type} (p : α → Bool) (xs : List α) :
    xs.countP p = (xs.map fun x => if p x then 1 else 0).sum := by
  induction xs with
  | nil => rfl
  | cons x xs ih => rw [List.countP_cons, ih, List.map_cons, List.sum_cons, Nat.add_comm]

theorem workersOn_readReport (hl : c.locks ≠ 0) {j : Nat} (hj : j < c.locks.toNat) :
    (c.readReport completion ended cycles counters).workersOn (UInt64.ofNat j) = c.share j := by
  unfold Report.workersOn readReport share
  rw [countP_eq_sum]
  simp only [List.map_map, Function.comp_def, ofNat_mod_eq_iff hl hj, decide_eq_true_eq]
  rw [sum_share _ _ _ _ hj, Nat.one_mul]

/-- Workers seen to have ended, all of whose cycles were read, are reported so. -/
theorem length_le_workersWith {seen : List Nat}
    (hsub : List.Sublist seen (List.range c.workers.toNat))
    (hall : ∀ i ∈ seen, cycles i = c.cycles) :
    seen.length ≤ (c.readReport completion ended cycles counters).workersWith c.cycles := by
  unfold Report.workersWith readReport
  rw [List.countP_map]
  refine Nat.le_trans (Nat.le_of_eq (Eq.symm ?_)) hsub.countP_le
  exact List.countP_eq_length.2 fun i hi => decide_eq_true (hall i hi)

/-- The cycles read of the workers of a lock when all of them were done. -/
theorem sum_of_all {j : Nat} (hj : j < c.locks.toNat)
    (hcycles : ∀ i < c.workers.toNat, cycles i = c.cycles) :
    ((List.range c.workers.toNat).map fun i =>
      if i % c.locks.toNat = j then (cycles i).toNat else 0).sum = c.takes j := by
  rw [takes, share, ← sum_share _ _ _ _ hj]
  congr 1
  exact List.map_congr_left fun i hi => by rw [hcycles i (List.mem_range.1 hi)]

/-- The counters of a lock that was taken as often as it was to be. -/
theorem counters_eq {v : UInt64 × UInt64} {takes : Nat} (htakes : v.1.toNat = takes)
    (hone : 0 < v.1 → v.2 = 1) (hzero : takes = 0 → v.2 = 0) :
    v = (UInt64.ofNat takes, if 0 < takes then 1 else 0) := by
  subst htakes
  refine Prod.ext UInt64.ofNat_toNat.symm ?_
  dsimp only
  split
  · rename_i hpos
    exact hone (UInt64.lt_iff_toNat_lt.2 hpos)
  · rename_i hnone
    exact hzero (Nat.eq_zero_of_not_pos hnone)

/-- A report with all that there was to read is the full one. -/
theorem readReport_eq_fullReport (hcycles : ∀ i < c.workers.toNat, cycles i = c.cycles)
    (hcounters : ∀ j < c.locks.toNat,
      counters j = (UInt64.ofNat (c.takes j), if 0 < c.takes j then 1 else 0)) :
    { c.readReport completion c.workers.toNat cycles counters with completion := .join } =
      ({ c with completion := .join } : Config).fullReport := by
  unfold readReport fullReport
  simp only [Report.mk.injEq, true_and]
  refine ⟨List.map_congr_left fun i hi => ?_, List.map_congr_left fun j hj => ?_,
    UInt64.ofNat_toNat⟩
  · rw [hcycles i (List.mem_range.1 hi)]
  · rw [hcounters j (List.mem_range.1 hj)]
    rfl

/-- **A report of running workers.** Whenever the reads are made, and whatever the workers do
meanwhile: no worker has more cycles than it was to do, whoever has ended has all of them, a
lock has an acquisition for each cycle reported, and nobody shared it. -/
theorem timed_report_consistent (hv : c.validate = .ok ())
    (hwait : c.completion = .timedWait ticks)
    (hfew : c.workers.toNat * c.cycles.toNat < UInt64.size) :
    (∀ host, c.Starts host → ∃ r, (run c host).result = .ok r) ∧
    (∀ host r, (run c host).result = .ok r → MayReport c.begin (.timedWait ticks) r) ∧
    ∀ r, MayReport c.begin (.timedWait ticks) r →
      r.completion = c.completion ∧
      (r.workers.map fun w => (w.index.toNat, w.lock.toNat)) =
        ((List.range c.workers.toNat).map fun i => (i, i % c.locks.toNat)) ∧
      (r.locks.map fun l => l.index.toNat) = List.range c.locks.toNat ∧
      (∀ w ∈ r.workers, w.cycles ≤ c.cycles) ∧
      r.finishedWorkers.toNat ≤ r.workersWith c.cycles ∧
      (∀ l ∈ r.locks,
        r.cyclesOn l.index ≤ l.acquisitions.toNat ∧
        l.acquisitions.toNat ≤ c.cycles.toNat * r.workersOn l.index ∧
        l.peakHolders ≤ 1 ∧
        (0 < l.acquisitions → l.peakHolders = 1)) ∧
      (r.allFinished = true →
        (∀ r', MayReport ({ c with completion := .join } : Config).begin .join r' →
          r' = { r with completion := .join }) ∧
        ∀ host, c.Starts host → (run { c with completion := .join } host).result =
          .ok { r with completion := .join }) := by
  have hl := (pos_of_validate hv).2.1
  refine ⟨?_, ?_, fun r hr => ?_⟩
  · intro host h
    exact exists_report_iff.2 ⟨hv, h⟩
  · intro host r hr
    exact hwait ▸ mayReport_of_run hr
  cases hr with
  | timed looks =>
    obtain ⟨seen, cycles, counters, rfl, hsub, hmost, hdone, hlocks⟩ :=
      exists_values_of_observes hl hfew looks
    have hseen : seen.length ≤ c.workers.toNat := by simpa using hsub.length_le
    have hfinished : (UInt64.ofNat seen.length).toNat = seen.length :=
      UInt64.toNat_ofNat_of_lt' (Nat.lt_of_le_of_lt hseen c.workers.toNat_lt_size)
    rw [timedReport_eq hl]
    refine ⟨hwait.symm, (indices_readReport hl).1, (indices_readReport hl).2, ?_, ?_, ?_, ?_⟩
    · intro w hw
      obtain ⟨i, hi, rfl⟩ := List.mem_map.1 hw
      exact hmost i (List.mem_range.1 hi)
    · exact Nat.le_trans (Nat.le_of_eq hfinished) (length_le_workersWith hsub hdone)
    · intro l hmem
      obtain ⟨j, hj, rfl⟩ := List.mem_map.1 hmem
      have hj := List.mem_range.1 hj
      obtain ⟨hlow, hhigh, hpeak, hone, -⟩ := hlocks j hj
      rw [cyclesOn_readReport hl hj, workersOn_readReport hl hj]
      exact ⟨hlow, hhigh, hpeak, hone⟩
    · intro hall
      have hlen : seen.length = c.workers.toNat := by
        simp only [Report.allFinished, readReport, hfinished, List.length_map, List.length_range,
          beq_iff_eq] at hall
        exact hall
      have hevery : seen = List.range c.workers.toNat := hsub.eq_of_length (by simp [hlen])
      have hcycles : ∀ i < c.workers.toNat, cycles i = c.cycles :=
        fun i hi => hdone i (hevery ▸ List.mem_range.2 hi)
      have hcounters : ∀ j < c.locks.toNat,
          counters j = (UInt64.ofNat (c.takes j), if 0 < c.takes j then 1 else 0) := by
        intro j hj
        obtain ⟨hlow, hhigh, -, hone, hzero⟩ := hlocks j hj
        rw [sum_of_all hj hcycles] at hlow
        exact counters_eq (Nat.le_antisymm hhigh hlow) hone hzero
      rw [hlen, readReport_eq_fullReport hcycles hcounters]
      constructor
      · intro r' hr'
        exact @eq_fullReport_of_mayReport { c with completion := .join } hl rfl r' hr'
      · intro host h
        exact run_eq_fullReport (validate_join hv) rfl ⟨h.locks, h.workers, h.threads⟩

/-- Two workers share a lock: a report read before anybody stepped, and one read when both have
ended, which is that of a joined run. -/
theorem first_and_last_report :
    (∃ r, MayReport (begin { workers := 2, locks := 1, cycles := 1, completion := .timedWait 9 })
        (.timedWait 9) r ∧ r.finishedWorkers = 0 ∧ r.finishedWorkers.toNat ≤ r.workersWith 1) ∧
      (run { workers := 2, locks := 1, cycles := 1, completion := .join } {}).result =
        .ok ⟨.join, [⟨0, 0, 1⟩, ⟨1, 0, 1⟩], [⟨0, 2, 1⟩], 2⟩ := by
  have hstarts : Starts { workers := 2, locks := 1, cycles := 1, completion := .timedWait 9 } {} :=
    ⟨by decide, by decide, fun _ _ => rfl⟩
  obtain ⟨hreports, hmay, hall⟩ := @timed_report_consistent
    { workers := 2, locks := 1, cycles := 1, completion := .timedWait 9 } 9
    (by decide) rfl (by decide)
  obtain ⟨r, hr⟩ := hreports {} hstarts
  have hfirst := mayReport_momentReport
    (.refl (begin { workers := 2, locks := 1, cycles := 1, completion := .timedWait 9 })) 9
  obtain ⟨-, -, -, -, hfinished, -⟩ := hall _ hfirst
  obtain ⟨-, -, -, -, -, -, hjoined⟩ := hall r (hmay {} r hr)
  obtain rfl : (⟨.timedWait 9, [⟨0, 0, 1⟩, ⟨1, 0, 1⟩], [⟨0, 2, 1⟩], 2⟩ : Report) = r :=
    Except.ok.inj hr
  exact ⟨⟨_, hfirst, by decide, hfinished⟩, (hjoined (by decide)).2 {} hstarts⟩

end Reports

end Config

end Standstill.Contention
