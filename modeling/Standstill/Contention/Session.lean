import Standstill.Contention.Spawn

/-!
# One party and its workers

A session uses a set of locks step by step. It may keep the permit of a
lock; a worker started meanwhile queues for it in a thread of its own, and
runs once the permit is given back. Otherwise a worker runs to its end.
-/
namespace Standstill.Contention

/-- What a session is told to do with a lock. -/
inductive Order
  | look
  | keep
  /-- Run a worker with some cycles, its count starting at `completed`. -/
  | work (cycles completed : UInt32)
  | giveBack
deriving Repr, DecidableEq

/-- What comes of an order. -/
inductive Outcome
  | seen
  | tried (taken : Bool)
  /-- A worker has ended, with this count. -/
  | worked (completed : UInt32)
  /-- A worker waits for the lock. -/
  | queued
  /-- A worker in its own thread had nothing to do. -/
  | finished
  | notHeld
  /-- The counts of the workers that were queued. -/
  | drained (completed : List UInt32)
deriving Repr, DecidableEq

/-- A machine, and for each lock whose permit is kept the workers started since. -/
structure Session where
  machine : Machine
  queues : List (Nat × List Nat) := []
deriving Repr, DecidableEq

namespace Session

/-- A session over new locks. -/
def start (gives : Nat → Bool) (locks : Nat) : Except Defect Session :=
  (makeLocks gives locks).map fun ls => ⟨⟨ls, []⟩, []⟩

/-- The count of the worker at an index. -/
def completed (m : Machine) (i : Nat) : UInt32 := (m.workers[i]?.map (·.completed)).getD 0

/-- Carry out an order for the lock `j`, which is in the set. -/
def obey (s : Session) (j : Nat) : Order → Outcome × Session
  | .look => (.seen, s)
  | .keep =>
    match s.queues.lookup j with
    | some _ => (.tried false, s)
    | none =>
      match s.machine.keep j with
      | none => (.tried false, s)
      | some m => (.tried true, ⟨m, (j, []) :: s.queues⟩)
  | .work cycles start =>
    let i := s.machine.workers.length
    let w := Worker.start (UInt64.ofNat i) (UInt64.ofNat j) true cycles start
    let m := { s.machine with workers := s.machine.workers ++ [w] }
    match s.queues.lookup j with
    | none =>
      let m := m.settle true
      (.worked (completed m i), ⟨m, s.queues⟩)
    | some queue =>
      (if w.hasEnded then .finished else .queued,
        ⟨m, (j, queue ++ [i]) :: s.queues.filter (·.1 != j)⟩)
  | .giveBack =>
    match s.queues.lookup j with
    | none => (.notHeld, s)
    | some queue =>
      let m := ((s.machine.giveBack j).getD s.machine).settle true
      (.drained (queue.map (completed m)), ⟨m, s.queues.filter (·.1 != j)⟩)

/-- What a session shows of an order, which is the outcome and the lock, and
the session after it. Nothing comes of an order for a lock that is not in the set. -/
def turn (s : Session) (j : Nat) (o : Order) : Option (Outcome × Lock) × Session :=
  match s.machine.locks[j]? with
  | none => (none, s)
  | some _ =>
    let (outcome, t) := s.obey j o
    (t.machine.locks[j]?.map fun l => (outcome, l), t)

end Session

end Standstill.Contention
