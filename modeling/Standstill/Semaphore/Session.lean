import Standstill.Semaphore.Pool

/-!
# One party and its waiting threads

A session uses a semaphore step by step. Where it would block, a thread of
its own waits in its place; a permit given back goes to a waiting thread if
there is one.

Results:
* `length_run`: each order has one entry.
-/
namespace Standstill.Semaphore

/-- What a session is told to do. -/
inductive Order
  | tryAcquire
  /-- Try to take a permit and give it back at once. -/
  | tryAcquireDropped
  | acquire
  /-- Give back the permit at an index among those held. -/
  | release (permit : Nat)
deriving Repr, DecidableEq

/-- What comes of an order. -/
inductive Outcome
  | tried (taken : Bool)
  | acquired
  | blocked
  | noSuchPermit
  | released
  | handedOver
deriving Repr, DecidableEq

/-- What a session shows after an order. -/
structure Entry where
  outcome : Outcome
  available : UInt64
  initial : UInt64
  held : Nat
  waiting : Nat
deriving Repr, DecidableEq

namespace Pool

/-- The pool after an action, or as it is if the action is not possible. -/
def after (p : Pool) (a : Action) : Pool := (p.step a).getD p

/-- Give a permit back and let a woken thread run until it is free or parked. -/
def handBack (p : Pool) : Pool :=
  let q := p.after (.release 0)
  match q.threads.idxOf? .parked with
  | none => q.after (.notify 0 [])
  | some j => (q.after (.notify 0 [j])).after (.recheck j)

/-- Carry out an order. The session is thread zero. -/
def obey (p : Pool) : Order → Outcome × Pool
  | .tryAcquire =>
    (.tried (p.semaphore.available != 0), p.after (.tryAcquire 0))
  | .tryAcquireDropped =>
    if p.semaphore.available = 0 then (.tried false, p.after (.tryAcquire 0))
    else (.tried true, (p.after (.tryAcquire 0)).handBack)
  | .acquire =>
    if p.semaphore.available = 0 then
      let q := { p with threads := p.threads ++ [Standing.free] }
      (.blocked, q.after (.acquire p.threads.length))
    else (.acquired, p.after (.acquire 0))
  | .release i =>
    if p.permits ≤ i then (.noSuchPermit, p)
    else if p.parkedCount = 0 then (.released, p.handBack)
    else (.handedOver, p.handBack)

def entry (p : Pool) (o : Outcome) : Entry :=
  ⟨o, p.semaphore.available, p.semaphore.initial, p.permits, p.parkedCount⟩

/-- The entries of a session and the pool it ends with. -/
def run (p : Pool) : List Order → List Entry × Pool
  | [] => ([], p)
  | o :: os =>
    let (outcome, q) := p.obey o
    let (entries, r) := q.run os
    (q.entry outcome :: entries, r)

/-- Give back permits until none is held, `n` times at most. -/
def drain (p : Pool) : Nat → Pool
  | 0 => p
  | n + 1 => if p.permits = 0 then p else p.handBack.drain n

/-- The permits available once all permits and waiting threads are gone. -/
def finallyAvailable (p : Pool) : UInt64 :=
  (p.drain (p.permits + p.parkedCount)).semaphore.available

theorem length_run (p : Pool) (os : List Order) : (p.run os).1.length = os.length := by
  induction os generalizing p with
  | nil => rfl
  | cons o os ih => simp [run, ih]

end Pool

/-- A session with a semaphore of `initial` permits: its entries, and the
permits available at the end. -/
def session (initial : UInt64) (orders : List Order) : Except Defect (List Entry × UInt64) :=
  (make initial).map fun s =>
    let (entries, p) := (Pool.start s 1).run orders
    (entries, p.finallyAvailable)

end Standstill.Semaphore
