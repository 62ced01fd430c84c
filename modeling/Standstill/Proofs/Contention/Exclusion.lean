import Mathlib
import Standstill.Contention.Spawn
import Standstill.Proofs.Contention.Runs

/-!
# Mutual exclusion

Threads run loops over a set of locks, each with cycles and a counter of its
own, while other parties keep permits and give them back. The counters of a
lock are compared with the steps that its loops have taken, whoever stepped
when.

Results:
* `stepsAt_add_tally`: what the loops of a lock have done and will still do.
* `acquisitions_of_runs`, `stepsAt_of_ended`: the acquisitions of a lock, from
  those steps, and when its loops have ended.
* `exclusion_at_every_instant`: permits, holders, peak and acquisitions of
  every lock, and the cycles of every loop, at each moment of each run.
-/
namespace Standstill.Contention

/-! ## Loops of threads -/

/-- A loop that a thread runs on a lock of a set. -/
structure Loop where
  lock : UInt64
  cycles : UInt32
  /-- What its count of cycles starts at. -/
  completed : UInt32
deriving Repr, DecidableEq

/-- The loop of the thread at an index, before it begins. -/
def Loop.worker (l : Loop) (index : Nat) : Worker :=
  .start (UInt64.ofNat index) l.lock true l.cycles l.completed

/-- How often loops of the lock `j` have stepped from the phase `p`. -/
def stepsAt (loops : List Loop) (past : List (Nat × Phase)) (j : Nat) (p : Phase) : Nat :=
  (loops.zipIdx.map fun x => if x.1.lock.toNat = j then past.count (x.2, p) else 0).sum

/-- The cycles of all loops of the lock `j`. -/
def cyclesOf (loops : List Loop) (j : Nat) : Nat :=
  (loops.map fun l => if l.lock.toNat = j then l.cycles.toNat else 0).sum

namespace Machine

/-- A set of new locks, and loops that have not begun. -/
def ofLoops (locks : Nat) (loops : List Loop) : Machine :=
  ⟨freshLocks locks, loops.mapIdx fun i l => l.worker i⟩

theorem fresh_ofLoops {locks : Nat} {loops : List Loop}
    (h : ∀ l ∈ loops, l.lock.toNat < locks) : (ofLoops locks loops).Fresh := by
  refine ⟨fun l hl => List.eq_of_mem_replicate hl, ?_⟩
  intro w hw
  obtain ⟨i, hi, rfl⟩ := List.mem_mapIdx.1 hw
  have hlt : loops[i].lock.toNat < (freshLocks locks).length := by
    rw [freshLocks, List.length_replicate]
    exact h _ (List.getElem_mem hi)
  by_cases hc : loops[i].cycles = 0
  · exact .inl (by simp [Loop.worker, Worker.start, hc])
  · exact .inr ⟨by simp [Loop.worker, Worker.start, hc], hlt⟩

theorem getElem?_ofLoops {locks : Nat} {loops : List Loop} {i : Nat} {loop : Loop}
    (h : loops[i]? = some loop) : (ofLoops locks loops).workers[i]? = some (loop.worker i) := by
  simp [ofLoops, h]

theorem toCome_loop (loop : Loop) (i : Nat) (p : Phase) :
    (loop.worker i).toCome p = loop.cycles.toNat :=
  (Worker.toCome_start ..).trans (if_pos rfl)

theorem goal_ofLoops (locks : Nat) (loops : List Loop) (j : Nat) :
    (ofLoops locks loops).goal j = cyclesOf loops j := by
  unfold goal tally cyclesOf
  congr 1
  refine List.ext_getElem (by simp [ofLoops]) fun i hi hi' => ?_
  simp only [ofLoops, List.getElem_map, List.getElem_mapIdx, toCome_loop]
  rfl

section Loops
variable {locks : Nat} {loops : List Loop} {past : List (Nat × Phase)} {m : Machine}

/-- What loops of a lock have done and what they still will do add up to their goal. -/
theorem stepsAt_add_tally (h : (ofLoops locks loops).Runs past m) {p : Phase}
    (hp : ∀ {v w : Worker} {steps : Phase → Nat}, Since v steps w →
      steps p + w.toCome p = v.toCome p) (j : Nat) :
    stepsAt loops past j p + tally m.workers j (Worker.toCome p) =
      tally (ofLoops locks loops).workers j (Worker.toCome p) := by
  have hlen : m.workers.length = loops.length :=
    h.length_workers.trans (by rw [ofLoops, List.length_mapIdx])
  unfold stepsAt tally
  rw [List.sum_add_sum_eq_sum_zipWith_of_length_eq _ _ (by simp [hlen])]
  congr 1
  refine List.ext_getElem (by simp [hlen, ofLoops]) fun i hi hi' => ?_
  have hlt : i < loops.length := by simpa [ofLoops] using hi'
  obtain ⟨w, hw, hsince⟩ := h.worker_at (getElem?_ofLoops (List.getElem?_eq_getElem hlt))
  obtain ⟨_, hw⟩ := List.getElem?_eq_some_iff.1 hw
  have hlock : w.lock = loops[i].lock := congrArg Prod.snd hsince.binding
  have hstart : (loops[i].worker i).lock = loops[i].lock := rfl
  have hsum := hp hsince
  simp only [List.getElem_zipWith, List.getElem_map, List.getElem_zipIdx, hw, hlock, ofLoops,
    List.getElem_mapIdx, Nat.zero_add, hstart]
  by_cases hj : loops[i].lock.toNat = j
  · simp only [hj, if_true]
    exact hsum
  · simp only [hj, if_false]

/-- Loops take no step that is not one of the run. -/
theorem stepsAt_le (loops : List Loop) (past : List (Nat × Phase)) (j : Nat) (p : Phase) :
    stepsAt loops past j p ≤ past.countP fun e => e.2 = p := by
  have hindices : stepsAt loops past j p ≤
      ((List.range loops.length).map fun i => past.count (i, p)).sum := by
    rw [List.range_eq_range', ← List.zipIdx_map_snd, List.map_map]
    refine List.sum_le_sum fun x _ => ?_
    split
    · exact Nat.le_refl _
    · exact Nat.zero_le _
  refine hindices.trans ?_
  clear hindices
  induction past with
  | nil => simp
  | cons e past ih =>
    have hone : ((List.range loops.length).map fun i => if e = (i, p) then 1 else 0).sum ≤
        if e.2 = p then 1 else 0 := by
      obtain ⟨a, q⟩ := e
      rw [← List.sum_toFinset _ List.nodup_range]
      by_cases hq : q = p
      · simp only [hq, Prod.mk.injEq, and_true, Finset.sum_ite_eq, if_true]
        split <;> simp
      · simp [hq]
    simp only [List.count_cons, List.countP_cons, List.sum_map_add, beq_iff_eq, decide_eq_true_eq]
    omega

/-- What a lock counts as acquisitions is how often its loops counted one. -/
theorem acquisitions_of_runs (h : (ofLoops locks loops).Runs past m)
    (hs : m.Sound (ofLoops locks loops).goal) (hfresh : (ofLoops locks loops).Fresh)
    (hfew : (past.countP fun e => e.2 = .raised) < UInt64.size) {j : Nat} {l : Lock}
    (hl : m.locks[j]? = some l) :
    l.acquisitions.toNat = stepsAt loops past j .raised ∧
      l.acquisitions.toNat =
        stepsAt loops past j .completing + tally m.workers j Worker.underway := by
  have hraised := stepsAt_add_tally h Since.raised j
  have hcompleting := stepsAt_add_tally h Since.completing j
  have hunderway := tally_completing m.workers j
  rw [hfresh.tally_toCome] at hraised hcompleting
  have hfewer : stepsAt loops past j .raised < UInt64.size :=
    Nat.lt_of_le_of_lt (stepsAt_le loops past j .raised) hfew
  have hdone : (ofLoops locks loops).goal j - tally m.workers j (Worker.toCome .raised) =
      stepsAt loops past j .raised := by omega
  have hacquired : l.acquisitions.toNat = stepsAt loops past j .raised := by
    rw [(hs.locks j l hl).acquisitions_eq, hdone, UInt64.toNat_ofNat_of_lt' hfewer]
  exact ⟨hacquired, by omega⟩

/-- When the loops of a lock have ended, they have counted an acquisition for each cycle. -/
theorem stepsAt_of_ended (h : (ofLoops locks loops).Runs past m)
    (hfresh : (ofLoops locks loops).Fresh) {j : Nat}
    (hended : ∀ w ∈ m.workers, w.lock.toNat = j → w.phase = .ended) :
    stepsAt loops past j .raised = cyclesOf loops j := by
  have hraised := stepsAt_add_tally h Since.raised j
  have hnone : tally m.workers j (Worker.toCome .raised) = 0 :=
    tally_eq_zero fun w hw hj => Worker.toCome_ended (hended w hw hj) _
  rw [hfresh.tally_toCome, goal_ofLoops, hnone, Nat.add_zero] at hraised
  exact hraised

/-- **Every instant.** Whoever stepped and in whatever order: each lock has one permit in all,
one holder at most, and counters that agree with the steps of its loops. -/
theorem exclusion_at_every_instant (hplaced : ∀ l ∈ loops, l.lock.toNat < locks)
    (h : (ofLoops locks loops).Runs past m)
    (hfew : (past.countP fun e => e.2 = .raised) < UInt64.size) :
    m.locks.length = locks ∧
    (∀ (j : Nat) (l : Lock), m.locks[j]? = some l →
      l.semaphore.available.toNat + tally m.workers j Worker.permits + l.kept = 1 ∧
      l.holders.toNat ≤ 1 ∧
      (l.semaphore.available ≠ 0 ∨ 0 < l.kept → l.holders = 0) ∧
      (∀ w ∈ m.workers, w.lock.toNat = j → w.phase = .leaving → l.holders = 1) ∧
      (0 < l.kept → ∀ m', m.Step m' →
        ∃ l', m'.locks[j]? = some l' ∧ l'.counters = l.counters) ∧
      l.peakHolders ≤ 1 ∧
      (l.acquisitions ≠ 0 → l.peakHolders = 1) ∧
      l.acquisitions.toNat = stepsAt loops past j .raised ∧
      l.acquisitions.toNat =
        stepsAt loops past j .completing + tally m.workers j Worker.underway ∧
      ((∀ w ∈ m.workers, w.lock.toNat = j → w.phase = .ended) →
        l.acquisitions.toNat = cyclesOf loops j)) ∧
    ∀ (i : Nat) (loop : Loop), loops[i]? = some loop →
      ∃ w, m.workers[i]? = some w ∧ w.lock = loop.lock ∧
        w.completed = loop.completed + UInt32.ofNat (past.count (i, .completing)) ∧
        past.count (i, .completing) ≤ loop.cycles.toNat ∧
        (w.phase = .ended ↔ past.count (i, .completing) = loop.cycles.toNat) := by
  have hfresh := fresh_ofLoops hplaced
  have hs := h.sound (sound_of_fresh hfresh)
  refine ⟨by rw [h.length_locks, ofLoops, freshLocks, List.length_replicate], ?_, ?_⟩
  · intro j l hl
    have hlock := hs.locks j l hl
    have hpermit := hlock.permit
    have hholders := hlock.holders_eq
    have hsplit := tally_permits m.workers j
    obtain ⟨hacquired, hcounted⟩ := acquisitions_of_runs h hs hfresh hfew hl
    have hraises : tally m.workers j (Worker.toCome (.counted 1)) ≤
        tally m.workers j (Worker.toCome .raised) :=
      tally_le_tally fun w _ _ => Worker.toCome_le (by decide) w
    refine ⟨by omega, hlock.holders_le_one, hlock.holders_eq_zero, ?_, ?_,
      hlock.peakHolders_le_one, hlock.peakHolders_eq_one hraises, hacquired, hcounted, ?_⟩
    · intro w hw hj hat
      obtain ⟨i, hi⟩ := List.getElem?_of_mem hw
      have hle := le_tally Worker.holders hi hj
      simp only [Worker.holders, hat, Phase.isHolder, Bool.toNat_true] at hle
      exact UInt64.toNat_inj.1 (show l.holders.toNat = 1 by omega)
    · intro hkept m' hm'
      exact counters_step_of_kept hs hl hkept hm'
    · intro hended
      exact hacquired.trans (stepsAt_of_ended h hfresh hended)
  · intro i loop hloop
    obtain ⟨w, hw, hsince⟩ := h.worker_at (getElem?_ofLoops hloop)
    have hcycles := toCome_loop loop i .completing
    have hsum := hsince.completing
    have hcompleted := hsince.completed
    refine ⟨w, hw, congrArg Prod.snd hsince.binding, ?_, by omega,
      w.toCome_eq_zero_iff.symm.trans (by omega)⟩
    rw [← hsum, UInt32.ofNat_add, ← UInt32.add_assoc] at hcompleted
    exact (UInt32.add_left_inj _).1 hcompleted

end Loops

/-- A permit was kept and given back, one loop ran its only cycle and its count wrapped around,
another loop is counted in. -/
theorem second_holder_after_first :
    ∃ m l w, (ofLoops 1 [⟨0, 1, 4294967295⟩, ⟨0, 2, 5⟩]).Runs
        [(0, .wanting), (0, .entering), (0, .counted 1), (0, .raised), (0, .holding),
          (0, .leaving), (0, .releasing), (0, .resting), (0, .completing), (1, .wanting),
          (1, .entering)] m ∧
      m.locks[0]? = some l ∧ m.workers[0]? = some w ∧ l.holders.toNat ≤ 1 ∧
      l.peakHolders = 1 ∧ l.acquisitions.toNat = 1 ∧ w.completed = 0 := by
  have hrun := ((Runs.refl (m := ofLoops 1 [⟨0, 1, 4294967295⟩, ⟨0, 2, 5⟩])).keep
    (j := 0) rfl).giveBack (j := 0) rfl
  have hrun := (((hrun.worker (i := 0) rfl rfl).worker (i := 0) rfl rfl).worker (i := 0) rfl
    rfl).worker (i := 0) rfl rfl
  have hrun := ((((hrun.worker (i := 0) rfl rfl).worker (i := 0) rfl rfl).worker (i := 0) rfl
    rfl).worker (i := 0) rfl rfl).worker (i := 0) rfl rfl
  have hrun := (hrun.worker (i := 1) rfl rfl).worker (i := 1) rfl rfl
  obtain ⟨-, hlocks, hloops⟩ := exclusion_at_every_instant (by decide) hrun (by decide)
  obtain ⟨-, hone, -, -, -, -, hpeak, hacquired, -, -⟩ := hlocks 0 _ rfl
  obtain ⟨w, hw, -, hcompleted, -⟩ := hloops 0 _ rfl
  exact ⟨_, _, w, hrun, rfl, hw, hone, hpeak (by decide), hacquired, hcompleted⟩

end Machine

end Standstill.Contention
