import Mathlib
import Standstill.Proofs.Contention.Tally

/-!
# What the counters of a lock say

A worker takes its lock, counts itself in and out and gives the lock back,
each change being a step of its own; other parties keep the permit of a lock
for a while. `Lock.Sound` ties what a lock counts to where its workers are
and to which of their steps are still to come. The workers other than the one
that steps enter as numbers, so each lemma is about one worker and one lock.

Results:
* `Sound.step`: a worker's step keeps its lock sound.
* `Sound.keep`, `Sound.giveBack`: so do the steps of other parties.
* `counters_moves_of_kept`: a lock kept by another party counts nothing.
-/
namespace Standstill.Contention.Lock

/-- What is true of a lock while `holders` workers are counted in and
`uncounted` have its permit without being so, when they will still raise the
peak `raises` times and count `takes` acquisitions out of `goal` in all. -/
structure Sound (l : Lock) (holders uncounted raises takes goal : Nat) : Prop where
  single : l.semaphore.initial = 1
  permit : l.semaphore.available.toNat + holders + uncounted + l.kept = 1
  holders_eq : l.holders.toNat = holders
  peak_eq : l.peakHolders = if raises < goal then 1 else 0
  acquisitions_eq : l.acquisitions = UInt64.ofNat (goal - takes)
  raises_le : raises ≤ goal
  takes_le : takes ≤ goal

section Consequences
variable {l : Lock} {holders uncounted raises takes goal : Nat}

theorem Sound.holders_le_one (hs : l.Sound holders uncounted raises takes goal) :
    l.holders.toNat ≤ 1 := by
  have hpermit := hs.permit
  have hholders := hs.holders_eq
  omega

/-- Nobody is counted while the permit is available or with another party. -/
theorem Sound.holders_eq_zero (hs : l.Sound holders uncounted raises takes goal)
    (h : l.semaphore.available ≠ 0 ∨ 0 < l.kept) : l.holders = 0 := by
  have hpermit := hs.permit
  have hholders := hs.holders_eq
  have hfree : l.semaphore.available.toNat ≠ 0 ∨ 0 < l.kept :=
    h.imp_left fun havail hz => havail (UInt64.toNat_inj.1 hz)
  exact UInt64.toNat_inj.1 (show l.holders.toNat = 0 by omega)

theorem Sound.peakHolders_le_one (hs : l.Sound holders uncounted raises takes goal) :
    l.peakHolders ≤ 1 := by
  rw [hs.peak_eq]
  split <;> decide

/-- Whoever counted an acquisition raised the peak before. -/
theorem Sound.peakHolders_eq_one (hs : l.Sound holders uncounted raises takes goal)
    (hle : raises ≤ takes) (h : l.acquisitions ≠ 0) : l.peakHolders = 1 := by
  rw [hs.peak_eq, if_pos]
  by_contra hnone
  have htakes := hs.takes_le
  refine h (hs.acquisitions_eq.trans ?_)
  rw [show goal - takes = 0 by omega]
  rfl

end Consequences

/-- What is counted alongside a lock. -/
def counters (l : Lock) : UInt64 × UInt64 × UInt64 := (l.holders, l.peakHolders, l.acquisitions)

section Moves
variable {w w' : Worker} {l l' : Lock} {H U R T goal : Nat}

/-- The permit is available, with one worker, or kept. -/
theorem permit_moves (h : w.Moves l w' l')
    (hp : l.semaphore.available.toNat + (H + w.holders) + (U + w.uncounted) + l.kept = 1) :
    l'.semaphore.available.toNat + (H + w'.holders) + (U + w'.uncounted) + l'.kept = 1 := by
  cases h with
  | take s htake hat =>
    have htaken := (Semaphore.available_tryAcquire.1 htake).2
    simp only [Worker.holders, Worker.uncounted, Worker.goTo, hat, Phase.isHolder,
      Phase.isUncounted, Bool.toNat_false, Bool.toNat_true] at hp ⊢
    omega
  | release hat =>
    simp only [Worker.holders, Worker.uncounted, Worker.goTo, hat, Phase.isHolder,
      Phase.isUncounted, Bool.toNat_false, Bool.toNat_true] at hp ⊢
    have hnone : l.semaphore.available.toNat = 0 := by omega
    have hgiven := Semaphore.available_release (s := l.semaphore) (by rw [hnone]; decide)
    omega
  | complete hat =>
    unfold Worker.complete
    cases w.later <;>
      simpa only [Worker.holders, Worker.uncounted, hat, Phase.isHolder, Phase.isUncounted] using hp
  | _ =>
    rename_i hat
    simpa only [Worker.holders, Worker.uncounted, Worker.goTo, hat, Phase.isHolder,
      Phase.isUncounted, Bool.toNat_false, Bool.toNat_true, Nat.add_assoc, Nat.add_left_comm,
      Nat.add_comm, Nat.add_zero, Nat.zero_add] using hp

/-- The worker that counts itself in is the only holder. -/
theorem holders_eq_zero_of_entering (hat : w.phase = .entering)
    (hp : l.semaphore.available.toNat + (H + w.holders) + (U + w.uncounted) + l.kept = 1)
    (hh : l.holders.toNat = H + w.holders) : l.holders = 0 := by
  simp only [Worker.holders, Worker.uncounted, hat, Phase.isHolder, Phase.isUncounted,
    Bool.toNat_false, Bool.toNat_true] at hp hh
  exact UInt64.toNat_inj.1 (by rw [UInt64.toNat_zero]; omega)

theorem holders_moves (h : w.Moves l w' l')
    (hp : l.semaphore.available.toNat + (H + w.holders) + (U + w.uncounted) + l.kept = 1)
    (hh : l.holders.toNat = H + w.holders) : l'.holders.toNat = H + w'.holders := by
  cases h with
  | count hat =>
    have hzero := holders_eq_zero_of_entering hat hp hh
    simp only [Worker.holders, Worker.goTo, hat, hzero, Phase.isHolder, Bool.toNat_false,
      Bool.toNat_true, UInt64.toNat_zero, UInt64.zero_add, UInt64.toNat_one] at hh ⊢
    omega
  | uncount hat =>
    simp only [Worker.holders, Worker.goTo, hat, Phase.isHolder, Bool.toNat_false,
      Bool.toNat_true] at hp hh ⊢
    have hone : l.holders = 1 := UInt64.toNat_inj.1 (by rw [UInt64.toNat_one]; omega)
    rw [hone] at hh ⊢
    simp only [UInt64.toNat_one] at hh
    simp only [UInt64.sub_self, UInt64.toNat_zero]
    omega
  | complete hat =>
    unfold Worker.complete
    cases w.later <;> simpa only [Worker.holders, hat, Phase.isHolder] using hh
  | _ =>
    rename_i hat
    simpa only [Worker.holders, Worker.goTo, hat, Phase.isHolder] using hh

/-- What a worker counted is one, since nobody else was counted. -/
theorem counted_moves (h : w.Moves l w' l')
    (hp : l.semaphore.available.toNat + (H + w.holders) + (U + w.uncounted) + l.kept = 1)
    (hh : l.holders.toNat = H + w.holders) {n : UInt64} (hn : w'.phase = .counted n) : n = 1 := by
  cases h with
  | count hat =>
    have hzero := holders_eq_zero_of_entering hat hp hh
    simp only [Worker.goTo, hzero, Phase.counted.injEq] at hn
    exact hn.symm
  | complete hat =>
    unfold Worker.complete at hn
    cases hl : w.later <;> simp [hl] at hn
  | _ => simp [Worker.goTo] at hn

theorem peak_moves (h : w.Moves l w' l')
    (hsteps : w'.toCome (.counted 1) + (if w.phase.rank = (Phase.counted 1).rank then 1 else 0) =
      w.toCome (.counted 1))
    (hone : ∀ n, w.phase = .counted n → n = 1) (hle : R + w.toCome (.counted 1) ≤ goal)
    (hpeak : l.peakHolders = if R + w.toCome (.counted 1) < goal then 1 else 0) :
    l'.peakHolders = if R + w'.toCome (.counted 1) < goal then 1 else 0 := by
  cases h with
  | raise n hat =>
    simp only [hat, Phase.rank, if_true] at hsteps
    rw [if_pos (by omega)]
    show max l.peakHolders n = 1
    rw [hone n hat, hpeak]
    split <;> rfl
  | _ =>
    rename_i hat
    simp only [hat, Phase.rank, Nat.reduceEqDiff, if_false, Nat.add_zero] at hsteps
    rw [hsteps]
    exact hpeak

theorem acquisitions_moves (h : w.Moves l w' l')
    (hsteps : w'.toCome .raised + (if w.phase.rank = Phase.raised.rank then 1 else 0) =
      w.toCome .raised)
    (hle : T + w.toCome .raised ≤ goal)
    (hacq : l.acquisitions = UInt64.ofNat (goal - (T + w.toCome .raised))) :
    l'.acquisitions = UInt64.ofNat (goal - (T + w'.toCome .raised)) := by
  cases h with
  | acquire hat =>
    simp only [hat, Phase.rank, if_true] at hsteps
    have hone : goal - (T + (w.goTo .holding).toCome .raised) =
        goal - (T + w.toCome .raised) + 1 := by omega
    rw [hone, UInt64.ofNat_add, ← hacq]
    rfl
  | _ =>
    rename_i hat
    simp only [hat, Phase.rank, Nat.reduceEqDiff, if_false, Nat.add_zero] at hsteps
    rw [hsteps]
    exact hacq

/-- While another party keeps the permit, no worker changes a counter. -/
theorem counters_moves_of_kept (h : w.Moves l w' l')
    (hp : l.semaphore.available.toNat + (H + w.holders) + (U + w.uncounted) + l.kept = 1)
    (hkept : 0 < l.kept) : l'.counters = l.counters := by
  have hnone : w.phase.isHolder.toNat = 0 ∧ w.phase.isUncounted.toNat = 0 := by
    simp only [Worker.holders, Worker.uncounted] at hp
    omega
  cases h with
  | count hat => simp [hat, Phase.isUncounted] at hnone
  | raise n hat => simp [hat, Phase.isHolder] at hnone
  | acquire hat => simp [hat, Phase.isHolder] at hnone
  | uncount hat => simp [hat, Phase.isHolder] at hnone
  | _ => rfl

/-- **A worker's step.** The lock stays sound, and so does what the worker counted. -/
theorem Sound.step (hs : l.Sound (H + w.holders) (U + w.uncounted) (R + w.toCome (.counted 1))
      (T + w.toCome .raised) goal)
    (hone : ∀ n, w.phase = .counted n → n = 1) (h : w.step l = some (w', l')) :
    l'.Sound (H + w'.holders) (U + w'.uncounted) (R + w'.toCome (.counted 1))
      (T + w'.toCome .raised) goal ∧ ∀ n, w'.phase = .counted n → n = 1 := by
  have hm := Worker.moves_of_step h
  have hraises := Worker.toCome_step (p := .counted 1) (by simp) h
  have htakes := Worker.toCome_step (p := .raised) (by simp) h
  refine ⟨⟨?_, permit_moves hm hs.permit, holders_moves hm hs.permit hs.holders_eq,
    peak_moves hm hraises hone hs.raises_le hs.peak_eq,
    acquisitions_moves hm htakes hs.takes_le hs.acquisitions_eq, ?_, ?_⟩,
    fun n => counted_moves hm hs.permit hs.holders_eq⟩
  · cases hm with
    | take s htake => exact (Semaphore.available_tryAcquire.1 htake).1.trans hs.single
    | _ => exact hs.single
  · have := hs.raises_le
    omega
  · have := hs.takes_le
    omega

end Moves

section Kept
variable {l l' : Lock} {holders uncounted raises takes goal : Nat}

theorem counters_keep (h : l.keep = some l') : l'.counters = l.counters := by
  obtain ⟨s, -, rfl⟩ := Option.map_eq_some_iff.1 h
  rfl

theorem counters_giveBack (h : l.giveBack = some l') : l'.counters = l.counters := by
  unfold Lock.giveBack at h
  split at h
  · cases h
  · cases h
    rfl

theorem Sound.keep (hs : l.Sound holders uncounted raises takes goal) (h : l.keep = some l') :
    l'.Sound holders uncounted raises takes goal := by
  obtain ⟨s, htake, rfl⟩ := Option.map_eq_some_iff.1 h
  obtain ⟨hsame, hless⟩ := Semaphore.available_tryAcquire.1 htake
  have hpermit := hs.permit
  refine ⟨hsame.trans hs.single, ?_, hs.holders_eq, hs.peak_eq, hs.acquisitions_eq, hs.raises_le,
    hs.takes_le⟩
  show s.available.toNat + holders + uncounted + (l.kept + 1) = 1
  omega

theorem Sound.giveBack (hs : l.Sound holders uncounted raises takes goal)
    (h : l.giveBack = some l') : l'.Sound holders uncounted raises takes goal := by
  unfold Lock.giveBack at h
  split at h
  · cases h
  rename_i hkept
  cases h
  have hpermit := hs.permit
  have hnone : l.semaphore.available.toNat = 0 := by omega
  have hgiven := Semaphore.available_release (s := l.semaphore) (by rw [hnone]; decide)
  refine ⟨hs.single, ?_, hs.holders_eq, hs.peak_eq, hs.acquisitions_eq, hs.raises_le,
    hs.takes_le⟩
  show l.semaphore.release.available.toNat + holders + uncounted + (l.kept - 1) = 1
  omega

end Kept

end Standstill.Contention.Lock
