import Standstill.Failure

/-!
# How long a list may be

The entries of a list stand side by side in one block of memory. A list is
refused before it is begun if its block would be larger than what addresses
can tell apart, or if the host does not give it. The block of an empty list
is not asked for.

Results:
* `reserve_eq_ok_iff`: which lists are begun.
* `reserve_of_bind`: nothing is made without its list.
-/
namespace Standstill

/-- The most bytes a block may have: as many words of eight bytes as fit into
what a signed word of 64 bits counts. -/
def blockLimit : Nat := 9223372036854775800

/-- Begin a list of `count` entries of `size` bytes each. `gives` tells of how
many bytes the host gives a block. -/
def reserve (gives : Nat → Bool) (count size : Nat) : Except Defect Unit :=
  if count * size = 0 then .ok ()
  else if blockLimit < count * size then .error .capacityOverflow
  else if gives (count * size) then .ok ()
  else .error (.outOfMemory (count * size))

theorem reserve_eq_ok_iff {gives : Nat → Bool} {count size : Nat} :
    reserve gives count size = .ok () ↔
      count * size = 0 ∨ count * size ≤ blockLimit ∧ gives (count * size) = true := by
  unfold reserve
  split
  · next hempty => simp [hempty]
  next hsome =>
  split
  · next hlarge =>
    have hnot : ¬count * size ≤ blockLimit := Nat.not_le.2 hlarge
    simp [hsome, hnot]
  next hlarge =>
  have hfits : count * size ≤ blockLimit := Nat.not_lt.1 hlarge
  split
  · next hgives => simp [hfits, hgives]
  · next hgives => simp [hsome, hgives]

/-- What is made in a list is made once the list is begun. -/
theorem reserve_of_bind {α : Type} {gives : Nat → Bool} {count size : Nat}
    {f : Unit → Except Defect α} {a : α} (h : reserve gives count size >>= f = .ok a) :
    reserve gives count size = .ok () ∧ f () = .ok a := by
  cases hr : reserve gives count size with
  | error d =>
    rw [hr] at h
    cases h
  | ok u =>
    rw [hr] at h
    exact ⟨rfl, h⟩

end Standstill
