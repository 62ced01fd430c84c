import Standstill.Contention.Lock

/-!
# Workers

A worker takes its lock, holds it for one tick, gives it back and rests for
one tick, as often as it has cycles. Each change of a counter and each end
of a sleep is a step of its own, so that steps of several workers can come
in any order.

Results:
* `binding_step`: a worker keeps its index and its lock.
* `stepsLeft_step`: each step leaves one step less to do.
* `isSome_step`: only an ended worker, or one whose lock is taken, has no step.
-/
namespace Standstill.Contention

/-- Where a worker is in its cycle. -/
inductive Phase
  /-- About to take the permit. -/
  | wanting
  /-- With the permit, not counted as a holder yet. -/
  | entering
  /-- Counted as a holder; `holders` is what it counted. -/
  | counted (holders : UInt64)
  /-- The peak is raised, the acquisition not counted yet. -/
  | raised
  /-- Asleep with the permit. -/
  | holding
  /-- Awake, still counted as a holder. -/
  | leaving
  /-- No longer counted, about to give the permit back. -/
  | releasing
  /-- Asleep without the permit. -/
  | resting
  /-- About to count the cycle. -/
  | completing
  | ended
deriving Repr, DecidableEq

namespace Phase

/-- The steps from here to the end of the cycle. -/
def rank : Phase → Nat
  | .wanting => 9
  | .entering => 8
  | .counted _ => 7
  | .raised => 6
  | .holding => 5
  | .leaving => 4
  | .releasing => 3
  | .resting => 2
  | .completing => 1
  | .ended => 0

def isAsleep : Phase → Bool
  | .holding | .resting => true
  | _ => false

/-- Whether the permit is held here. -/
def hasPermit : Phase → Bool
  | .entering | .counted _ | .raised | .holding | .leaving | .releasing => true
  | _ => false

end Phase

structure Worker where
  index : UInt64
  /-- The index of its lock. -/
  lock : UInt64
  /-- Cycles to come after the one under way. -/
  later : Nat
  /-- Cycles counted. -/
  completed : UInt32
  phase : Phase
deriving Repr, DecidableEq

namespace Worker

/-- A worker at its start. Without a lock or a cycle it has nothing to do. -/
def start (index lock : UInt64) (hasLock : Bool) (cycles completed : UInt32) : Worker where
  index := index
  lock := lock
  later := cycles.toNat - 1
  completed := completed
  phase := if hasLock ∧ cycles ≠ 0 then .wanting else .ended

def hasEnded (w : Worker) : Bool := w.phase == .ended

/-- A worker in another phase. -/
def goTo (w : Worker) (p : Phase) : Worker := { w with phase := p }

/-- The end of a cycle. -/
def complete (w : Worker) : Worker :=
  match w.later with
  | 0 => { w with completed := w.completed + 1, phase := .ended }
  | n + 1 => { w with completed := w.completed + 1, later := n, phase := .wanting }

/-- One step of a worker with its lock; `none` if there is none to take now. -/
def step (w : Worker) (l : Lock) : Option (Worker × Lock) :=
  match w.phase with
  | .wanting => l.semaphore.tryAcquire.map fun s => (w.goTo .entering, { l with semaphore := s })
  | .entering => some (w.goTo (.counted (l.holders + 1)), { l with holders := l.holders + 1 })
  | .counted n => some (w.goTo .raised, { l with peakHolders := max l.peakHolders n })
  | .raised => some (w.goTo .holding, { l with acquisitions := l.acquisitions + 1 })
  | .holding => some (w.goTo .leaving, l)
  | .leaving => some (w.goTo .releasing, { l with holders := l.holders - 1 })
  | .releasing => some (w.goTo .resting, { l with semaphore := l.semaphore.release })
  | .resting => some (w.goTo .completing, l)
  | .completing => some (w.complete, l)
  | .ended => none

/-- The steps a worker still has to take. -/
def stepsLeft (w : Worker) : Nat :=
  if w.phase = .ended then 0 else w.later * Phase.wanting.rank + w.phase.rank

/-- What binds a worker: its index and that of its lock. -/
def binding (w : Worker) : UInt64 × UInt64 := (w.index, w.lock)

theorem binding_step {w w' : Worker} {l l' : Lock} (h : w.step l = some (w', l')) :
    w'.binding = w.binding := by
  cases hp : w.phase <;> simp only [step, hp, Option.map_eq_some_iff, Option.some.injEq,
    Prod.mk.injEq, reduceCtorEq] at h
  case wanting =>
    obtain ⟨s, -, rfl, -⟩ := h
    rfl
  case completing =>
    obtain ⟨rfl, -⟩ := h
    unfold complete
    cases w.later <;> rfl
  all_goals
    obtain ⟨rfl, -⟩ := h
    rfl

theorem stepsLeft_step {w w' : Worker} {l l' : Lock} (h : w.step l = some (w', l')) :
    w'.stepsLeft + 1 = w.stepsLeft := by
  cases hp : w.phase <;> simp only [step, hp, Option.map_eq_some_iff, Option.some.injEq,
    Prod.mk.injEq, reduceCtorEq] at h
  case wanting =>
    obtain ⟨s, -, rfl, -⟩ := h
    simp [stepsLeft, goTo, hp, Phase.rank]
  case completing =>
    obtain ⟨rfl, -⟩ := h
    unfold complete
    cases hl : w.later <;> simp [stepsLeft, hp, hl, Phase.rank]
    omega
  all_goals
    obtain ⟨rfl, -⟩ := h
    simp [stepsLeft, goTo, hp, Phase.rank]

theorem isSome_step (w : Worker) (l : Lock) :
    (w.step l).isSome = true ↔
      w.phase ≠ .ended ∧ (w.phase = .wanting → l.semaphore.available ≠ 0) := by
  cases hp : w.phase <;> simp [step, hp, Semaphore.tryAcquire]

end Worker

end Standstill.Contention
