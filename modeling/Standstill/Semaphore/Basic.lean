import Standstill.Failure

/-!
# Counting semaphores

A semaphore is made with a number of permits and counts those that are
available. Taking one lowers the count, giving one back raises it.

Results:
* `available_tryAcquire`: a permit is taken exactly if one is available.
* `available_release`: a permit given back is available.
-/
namespace Standstill

structure Semaphore where
  /-- The permits there are in all. -/
  initial : UInt64
  available : UInt64
deriving Repr, DecidableEq

namespace Semaphore

/-- A semaphore with all its permits; one without any permit is a misuse. -/
def make (initial : UInt64) : Except Defect Semaphore :=
  if initial = 0 then .error .noPermits else .ok ⟨initial, initial⟩

/-- A semaphore with one permit. -/
def binary : Semaphore := ⟨1, 1⟩

/-- Take a permit; `none` if none is available. -/
def tryAcquire (s : Semaphore) : Option Semaphore :=
  if s.available = 0 then none else some { s with available := s.available - 1 }

/-- Give a permit back. -/
def release (s : Semaphore) : Semaphore := { s with available := s.available + 1 }

theorem available_tryAcquire {s t : Semaphore} :
    s.tryAcquire = some t ↔
      t.initial = s.initial ∧ t.available.toNat + 1 = s.available.toNat := by
  unfold tryAcquire
  by_cases h : s.available = 0
  · simp [h]
  · have hp : 0 < s.available.toNat := by
      rcases Nat.eq_zero_or_pos s.available.toNat with hz | hp
      · exact absurd (UInt64.toNat_inj.1 (by simpa using hz)) h
      · exact hp
    have hs : (s.available - 1).toNat = s.available.toNat - 1 := by
      rw [UInt64.toNat_sub_of_le _ _ (UInt64.le_iff_toNat_le.2 (by simpa using Nat.succ_le_of_lt hp))]
      rfl
    obtain ⟨ti, ta⟩ := t
    simp only [h, ↓reduceIte, Option.some.injEq, mk.injEq]
    constructor
    · rintro ⟨rfl, rfl⟩
      exact ⟨rfl, by omega⟩
    · rintro ⟨rfl, ha⟩
      exact ⟨rfl, UInt64.toNat_inj.1 (by omega)⟩

/-- A permit given back is one more available, if the count can hold it. -/
theorem available_release {s : Semaphore} (h : s.available.toNat + 1 < UInt64.size) :
    s.release.available.toNat = s.available.toNat + 1 := by
  rw [release, UInt64.toNat_add]
  exact Nat.mod_eq_of_lt h

end Semaphore

end Standstill
