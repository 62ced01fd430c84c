import Mathlib
import Standstill.Proofs.Contention.Progress
import Standstill.Proofs.Contention.Reading
import Standstill.Proofs.Contention.Start

/-!
# What a joined run reports

When all workers have ended, what they and their locks have counted no longer
depends on the order of their steps: each worker has done its cycles, and each
lock was taken as often as its workers have cycles. A coordinator that waits
for the workers reports just that.

Results:
* `worker_of_reaches`, `lock_of_reaches`: what a worker and a lock have counted
  at any moment.
* `joinedReport_eq_fullReport`: the report when all workers have ended.
* `run_mayReport`, `exists_report_iff`: a run in which everything starts, and
  no other, has a report.
* `joined_run_any_order`: no deadlock, no endless run, and one report only.
-/
namespace Standstill.Contention

/-! ## Totals -/

namespace Report

/-- All acquisitions together. -/
def acquired (r : Report) : Nat := (r.locks.map fun l => l.acquisitions.toNat).sum

/-- A total is in a word what all acquisitions are together. -/
theorem totalAcquisitions_eq (r : Report) : r.totalAcquisitions = UInt64.ofNat r.acquired := by
  have hfold : ∀ (locks : List LockReport) (n : UInt64),
      locks.foldl (fun n l => n + l.acquisitions) n =
        n + UInt64.ofNat (locks.map fun l => l.acquisitions.toNat).sum := by
    intro locks
    induction locks with
    | nil => simp
    | cons l locks ih =>
      intro n
      rw [List.foldl_cons, ih, List.map_cons, List.sum_cons, UInt64.ofNat_add, UInt64.ofNat_toNat,
        UInt64.add_assoc]
  rw [totalAcquisitions, hfold, UInt64.zero_add, acquired]

/-- Two locks that were together taken too often for a word. -/
example : totalAcquisitions ⟨.join, [], [⟨0, 9223372036854775808, 1⟩,
    ⟨1, 9223372036854775808, 1⟩], 0⟩ = 0 := by rfl

theorem toNat_totalAcquisitions {r : Report} (h : r.acquired < UInt64.size) :
    r.totalAcquisitions.toNat = r.acquired := by
  rw [totalAcquisitions_eq, UInt64.toNat_ofNat_of_lt' h]

end Report

/-! ## The joined report -/

theorem joinedReport_eq (m : Machine) :
    joinedReport m = {
      completion := .join
      workers := m.workers.map fun w => ⟨w.index, w.lock, w.completed⟩
      locks := m.locks.zipIdx.map fun (l, j) => ⟨UInt64.ofNat j, l.acquisitions, l.peakHolders⟩
      finishedWorkers := UInt64.ofNat m.workers.length } := by
  unfold joinedReport
  rw [Snapshot.lookAll_counterLooks]
  simp only [Snapshot.report, List.nil_append, Machine.bindings, List.zip_map', List.map_map,
    List.zipIdx_map, Report.mk.injEq, true_and, and_true]
  exact ⟨rfl, rfl⟩

namespace Config

/-! ## The full report -/

/-- The report of workers that have all done their cycles. -/
def fullReport (c : Config) : Report where
  completion := c.completion
  workers := (List.range c.workers.toNat).map fun i =>
    ⟨UInt64.ofNat i, UInt64.ofNat (i % c.locks.toNat), c.cycles⟩
  locks := (List.range c.locks.toNat).map fun j =>
    ⟨UInt64.ofNat j, UInt64.ofNat (c.takes j), if 0 < c.takes j then 1 else 0⟩
  finishedWorkers := c.workers

section Full
variable {c : Config}

theorem totalAcquisitions_fullReport (hl : c.locks ≠ 0)
    (hfew : c.workers.toNat * c.cycles.toNat < UInt64.size) :
    c.fullReport.totalAcquisitions.toNat = c.workers.toNat * c.cycles.toNat := by
  have hacquired : c.fullReport.acquired = c.workers.toNat * c.cycles.toNat := by
    rw [← sum_takes hl]
    unfold Report.acquired fullReport
    rw [List.map_map]
    congr 1
    exact List.map_congr_left fun j hj =>
      UInt64.toNat_ofNat_of_lt' (takes_lt hl hfew (List.mem_range.1 hj))
  rw [Report.toNat_totalAcquisitions (hacquired ▸ hfew), hacquired]

theorem mutualExclusionHeld_fullReport (c : Config) : c.fullReport.mutualExclusionHeld = true := by
  refine List.all_eq_true.2 fun l hl => ?_
  obtain ⟨j, -, rfl⟩ := List.mem_map.1 hl
  dsimp only
  split <;> decide

theorem allFinished_fullReport (c : Config) : c.fullReport.allFinished = true := by
  simp [Report.allFinished, fullReport]

/-- Each worker is reported with a lock of the set and all its cycles. -/
theorem workers_fullReport (hl : c.locks ≠ 0) {i : Nat} (hi : i < c.workers.toNat) :
    ∃ w, c.fullReport.workers[i]? = some w ∧ w.index.toNat = i ∧
      w.lock.toNat = i % c.locks.toNat ∧ w.lock < c.locks ∧ w.cycles = c.cycles := by
  have hlt := mod_locks_lt hl i
  have hlock := UInt64.toNat_ofNat_of_lt' (hlt.trans c.locks.toNat_lt_size)
  have hget : c.fullReport.workers[i]? =
      some ⟨UInt64.ofNat i, UInt64.ofNat (i % c.locks.toNat), c.cycles⟩ := by simp [fullReport, hi]
  refine ⟨_, hget, UInt64.toNat_ofNat_of_lt' (hi.trans c.workers.toNat_lt_size), hlock, ?_, rfl⟩
  rw [UInt64.lt_iff_toNat_lt, hlock]
  exact hlt

/-- Each lock is reported with as many acquisitions as its workers have cycles. -/
theorem locks_fullReport (hl : c.locks ≠ 0)
    (hfew : c.workers.toNat * c.cycles.toNat < UInt64.size) {j : Nat} (hj : j < c.locks.toNat) :
    ∃ l, c.fullReport.locks[j]? = some l ∧ l.index.toNat = j ∧
      l.acquisitions.toNat = c.cycles.toNat * (c.workers.toNat / c.locks.toNat +
        if j < c.workers.toNat % c.locks.toNat then 1 else 0) ∧
      l.peakHolders = if 0 < l.acquisitions.toNat then 1 else 0 := by
  have hacquired := UInt64.toNat_ofNat_of_lt' (takes_lt hl hfew hj)
  have hget : c.fullReport.locks[j]? = some ⟨UInt64.ofNat j, UInt64.ofNat (c.takes j),
      if 0 < c.takes j then 1 else 0⟩ := by simp [fullReport, hj]
  refine ⟨_, hget, UInt64.toNat_ofNat_of_lt' (hj.trans c.locks.toNat_lt_size), hacquired, ?_⟩
  rw [hacquired]

end Full

/-! ## What is counted at any moment -/

section Moments
variable {c : Config} {m : Machine}

theorem length_of_reaches (h : c.begin.Reaches m) :
    m.workers.length = c.workers.toNat ∧ m.locks.length = c.locks.toNat := by
  rw [Machine.length_workers_of_reaches h, (Machine.bindings_of_reaches h).2]
  exact ⟨length_begin_workers c, length_begin_locks c⟩

/-- What is true of each machine that a run comes to, and that nobody else has a permit there. -/
theorem sound_of_begin (h : c.begin.Reaches m) :
    m.Sound c.begin.goal ∧ m.Unkept := by
  have hfresh := c.fresh_begin
  exact ⟨Machine.sound_of_reaches (Machine.sound_of_fresh hfresh) h,
    Machine.unkept_of_reaches (Machine.unkept_of_fresh hfresh) h⟩

theorem worker_of_reaches (h : c.begin.Reaches m) (hl : c.locks ≠ 0) {i : Nat}
    (hi : i < c.workers.toNat) :
    ∃ w, m.workers[i]? = some w ∧
      w.binding = (UInt64.ofNat i, UInt64.ofNat (i % c.locks.toNat)) ∧
      w.completed.toNat + w.toCome .completing = c.cycles.toNat := by
  obtain ⟨past, hpast⟩ := h.runs
  obtain ⟨w, hw, hsince⟩ := hpast.worker_at (getElem?_begin_workers hi)
  have hsum := hsince.completing
  have hcompleted := hsince.completed
  rw [toCome_worker hl] at hsum hcompleted
  refine ⟨w, hw, hsince.binding.trans (binding_worker hl hi _), ?_⟩
  -- What was counted started at zero and has not wrapped around.
  rw [← hsum, UInt32.ofNat_add, ← UInt32.add_assoc] at hcompleted
  have hcount := (UInt32.add_left_inj _).1 hcompleted
  have hsize := c.cycles.toNat_lt_size
  rw [show (c.worker c.locks.toNat i).completed = 0 from rfl, UInt32.zero_add] at hcount
  rw [hcount, UInt32.toNat_ofNat_of_lt' (by omega)]
  exact hsum

theorem lock_of_reaches (h : c.begin.Reaches m) (hl : c.locks ≠ 0) {j : Nat}
    (hj : j < c.locks.toNat) :
    ∃ l, m.locks[j]? = some l ∧
      l.Sound (tally m.workers j Worker.holders) (tally m.workers j Worker.uncounted)
        (tally m.workers j (Worker.toCome (.counted 1))) (tally m.workers j (Worker.toCome .raised))
        (c.takes j) ∧ l.kept = 0 := by
  obtain ⟨hsound, hkept⟩ := sound_of_begin h
  have hlen : j < m.locks.length := (length_of_reaches h).2 ▸ hj
  have hget := List.getElem?_eq_getElem hlen
  have hlock := hsound.locks j _ hget
  rw [goal_begin hl hj] at hlock
  exact ⟨_, hget, hlock, hkept _ (List.getElem_mem hlen)⟩

/-- A lock whose workers have all ended is free and was taken as often as it was to be. -/
theorem lock_of_allEnded (h : c.begin.Reaches m) (hended : m.allEnded = true) (hl : c.locks ≠ 0)
    {j : Nat} (hj : j < c.locks.toNat) :
    ∃ l, m.locks[j]? = some l ∧ l.semaphore.available = 1 ∧
      l.acquisitions = UInt64.ofNat (c.takes j) ∧
      l.peakHolders = if 0 < c.takes j then 1 else 0 := by
  obtain ⟨l, hget, -⟩ := lock_of_reaches h hl hj
  have hlock := Machine.lock_of_ended c.fresh_begin h hended hget
  rw [goal_begin hl hj] at hlock
  obtain ⟨hfree, -, hacquired, hpeak⟩ := hlock
  exact ⟨l, hget, hfree, hacquired, hpeak⟩

/-- **The report.** All orders of steps that end the run lead to the same one. -/
theorem joinedReport_eq_fullReport (h : c.begin.Reaches m) (hended : m.allEnded = true)
    (hl : c.locks ≠ 0) (hjoin : c.completion = .join) : joinedReport m = c.fullReport := by
  obtain ⟨hworkers, hlocks⟩ := length_of_reaches h
  rw [joinedReport_eq, fullReport, hjoin, hworkers, UInt64.ofNat_toNat]
  congr 1
  · refine List.ext_getElem (by simp [hworkers]) fun i hi hi' => ?_
    have hlt : i < c.workers.toNat := by simpa using hi'
    obtain ⟨w, hw, hbinding, hcompleted⟩ := worker_of_reaches h hl hlt
    obtain ⟨_, hget⟩ := List.getElem?_eq_some_iff.1 hw
    have hat := Machine.allEnded_iff.1 hended w (List.mem_of_getElem? hw)
    rw [Worker.toCome_ended hat, Nat.add_zero] at hcompleted
    simp only [List.getElem_map, List.getElem_range, hget, WorkerReport.mk.injEq]
    exact ⟨congrArg Prod.fst hbinding, congrArg Prod.snd hbinding, UInt32.toNat_inj.1 hcompleted⟩
  · refine List.ext_getElem (by simp [hlocks]) fun j hj hj' => ?_
    have hlt : j < c.locks.toNat := by simpa using hj'
    obtain ⟨l, hget, -, hacquired, hpeak⟩ := lock_of_allEnded h hended hl hlt
    obtain ⟨_, hget⟩ := List.getElem?_eq_some_iff.1 hget
    simp only [List.getElem_map, List.getElem_zipIdx, List.getElem_range, hget, Nat.zero_add,
      hacquired, hpeak]

end Moments

/-! ## Runs -/

section Runs
variable {c : Config} {host : Host}

/-- **A report.** A run in which everything starts has one that an order of steps leads to. -/
theorem run_mayReport (hv : c.validate = .ok ()) (h : c.Starts host) :
    ∃ r, (run c host).result = .ok r ∧ MayReport c.begin c.completion r := by
  have hl := (pos_of_validate hv).2.1
  rw [run_eq_of_starts hv h]
  have hok : ∃ r, (complete c c.begin).result = .ok r := by
    unfold complete
    cases c.completion with
    | join => exact ⟨_, rfl⟩
    | timedWait ticks =>
      simp only
      split <;> exact ⟨_, rfl⟩
  obtain ⟨r, hr⟩ := hok
  refine ⟨r, by rw [hr]; rfl, mayReport_complete (fun _ => ?_) hr⟩
  exact Machine.allEnded_settle_of_fresh c.fresh_begin (.refl _)

/-- What has a report went through all steps before it. -/
theorem starts_of_run {r : Report} (hr : (run c host).result = .ok r) :
    c.validate = .ok () ∧ c.Starts host := by
  unfold run at hr
  split at hr
  · cases hr
  next hv =>
  obtain ⟨-, -, hr⟩ := Traced.of_result_bind hr
  obtain ⟨-, -, hr⟩ := Traced.of_result_bind hr
  obtain ⟨locks, hmade, hr⟩ := Traced.of_result_bind hr
  obtain ⟨s, hstarted, hr⟩ := Traced.of_result_bind hr
  obtain ⟨-, -, hr⟩ := Traced.of_result_bind hr
  obtain ⟨hlocks, -⟩ := reserve_of_bind (Traced.of_result_mapError hmade)
  cases hf : s.failure with
  | some f =>
    rw [hf] at hr
    cases hr
  | none =>
    obtain ⟨hworkers, hthreads⟩ :=
      starts_of_startWorkers (pos_of_validate hv).2.1 (Traced.of_result_mapError hstarted) hf
    exact ⟨hv, hlocks, hworkers, hthreads⟩

/-- A run has a report if and only if its configuration is valid and everything starts. -/
theorem exists_report_iff :
    (∃ r, (run c host).result = .ok r) ↔ c.validate = .ok () ∧ c.Starts host := by
  constructor
  · rintro ⟨r, hr⟩
    exact starts_of_run hr
  · rintro ⟨hv, h⟩
    obtain ⟨r, hr, -⟩ := run_mayReport hv h
    exact ⟨r, hr⟩

/-- **One report.** A joined run reports what it does in every order of steps. -/
theorem eq_fullReport_of_mayReport (hl : c.locks ≠ 0) (hjoin : c.completion = .join) {r : Report}
    (h : MayReport c.begin .join r) : r = c.fullReport := by
  cases h with
  | joined hreach hended => exact joinedReport_eq_fullReport hreach hended hl hjoin

/-- What a run reports is what some order of steps leads to. -/
theorem mayReport_of_run {r : Report} (hr : (run c host).result = .ok r) :
    MayReport c.begin c.completion r := by
  obtain ⟨hv, hstarts⟩ := starts_of_run hr
  obtain ⟨r', hr', hmay⟩ := run_mayReport hv hstarts
  obtain rfl := Except.ok.inj (hr.symm.trans hr')
  exact hmay

theorem run_eq_fullReport (hv : c.validate = .ok ()) (hjoin : c.completion = .join)
    (h : c.Starts host) : (run c host).result = .ok c.fullReport := by
  obtain ⟨r, hr, hmay⟩ := run_mayReport hv h
  rw [hjoin] at hmay
  rw [hr, eq_fullReport_of_mayReport (pos_of_validate hv).2.1 hjoin hmay]

/-- **Any order.** A joined run in which everything starts never gets stuck, goes on for a bounded
number of steps, and reports the same whatever the order of its steps was. -/
theorem joined_run_any_order (hv : c.validate = .ok ()) (hjoin : c.completion = .join)
    (h : c.Starts host) (hfew : c.workers.toNat * c.cycles.toNat < UInt64.size) :
    makeLocks host.gives c.locks.toNat = .ok c.begin.locks ∧
    (∃ s, startWorkers c c.locks.toNat host = .ok s ∧ s.workers = c.begin.workers ∧
      s.failure = none) ∧
    (∀ m, c.begin.Reaches m →
      (m.allEnded = false → ∃ i m', m.step i = some m') ∧
      (∀ i m', m.step i = some m' → m'.stepsLeft < m.stepsLeft) ∧
      (∃ m', m.Reaches m' ∧ m'.allEnded = true) ∧
      (m.allEnded = true →
        joinedReport m = c.fullReport ∧ ∀ l ∈ m.locks, l.semaphore.available = 1)) ∧
    (∀ steps : Nat → Machine, ¬∀ n, ∃ i, (steps n).step i = some (steps (n + 1))) ∧
    (run c host).result = .ok c.fullReport ∧
    (∀ r, MayReport c.begin .join r → r = c.fullReport) ∧
    c.fullReport.workers.length = c.workers.toNat ∧
    (∀ i < c.workers.toNat, ∃ w, c.fullReport.workers[i]? = some w ∧ w.index.toNat = i ∧
      w.lock.toNat = i % c.locks.toNat ∧ w.lock < c.locks ∧ w.cycles = c.cycles) ∧
    c.fullReport.locks.length = c.locks.toNat ∧
    (∀ j < c.locks.toNat, ∃ l, c.fullReport.locks[j]? = some l ∧ l.index.toNat = j ∧
      l.acquisitions.toNat = c.cycles.toNat * (c.workers.toNat / c.locks.toNat +
        if j < c.workers.toNat % c.locks.toNat then 1 else 0) ∧
      l.peakHolders = if 0 < l.acquisitions.toNat then 1 else 0) ∧
    c.fullReport.finishedWorkers = c.workers ∧
    c.fullReport.totalAcquisitions.toNat = c.workers.toNat * c.cycles.toNat ∧
    c.fullReport.mutualExclusionHeld = true ∧
    c.fullReport.allFinished = true := by
  have hl := (pos_of_validate hv).2.1
  refine ⟨makeLocks_of_ok h.locks, ⟨_, startWorkers_of_starts hl h, rfl, rfl⟩, ?_,
    Machine.not_endless, run_eq_fullReport hv hjoin h,
    fun r => eq_fullReport_of_mayReport hl hjoin, by simp [fullReport],
    fun i => workers_fullReport hl, by simp [fullReport], fun j => locks_fullReport hl hfew, rfl,
    totalAcquisitions_fullReport hl hfew, mutualExclusionHeld_fullReport c,
    allFinished_fullReport c⟩
  intro m hm
  refine ⟨?_, ?_, ?_, ?_⟩
  · obtain ⟨hsound, hkept⟩ := sound_of_begin hm
    exact Machine.exists_step hsound hkept
  · intro i m' hs
    have := Machine.stepsLeft_step hs
    omega
  · exact ⟨_, Machine.reaches_settle true m, Machine.allEnded_settle_of_fresh c.fresh_begin hm⟩
  · intro hended
    refine ⟨joinedReport_eq_fullReport hm hended hl hjoin, ?_⟩
    intro l hmem
    obtain ⟨j, hget⟩ := List.getElem?_of_mem hmem
    have hj : j < c.locks.toNat :=
      (length_of_reaches hm).2 ▸ (List.getElem?_eq_some_iff.1 hget).1
    obtain ⟨l', hget', havail, -⟩ := lock_of_allEnded hm hended hl hj
    obtain rfl := Option.some.inj (hget.symm.trans hget')
    exact havail

/-- Two workers share the first of two locks, the third worker has the other one. -/
theorem three_workers_two_locks :
    (run { workers := 3, locks := 2, cycles := 2 } {}).result = .ok {
      completion := .join
      workers := [⟨0, 0, 2⟩, ⟨1, 1, 2⟩, ⟨2, 0, 2⟩]
      locks := [⟨0, 4, 1⟩, ⟨1, 2, 1⟩]
      finishedWorkers := 3 } := by
  have hstarts : ({ workers := 3, locks := 2, cycles := 2 } : Config).Starts {} :=
    ⟨by decide, by decide, fun _ _ => rfl⟩
  obtain ⟨-, -, -, -, hresult, -⟩ := joined_run_any_order rfl rfl hstarts (by decide)
  exact hresult

end Runs

end Config

end Standstill.Contention
