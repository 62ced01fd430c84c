import Standstill.Contention.Config
import Standstill.Contention.Machine
import Standstill.Log
import Standstill.System.Capacity

/-!
# Starting the workers

Workers are started in order of their index, each in a thread of its own.
The first thread that cannot be started ends the attempt; the workers
started before it go on by themselves. The list of the locks, and that of the
workers, is begun before the first of them is made. What memory and which
threads there are is up to the host.

Results:
* `length_workers_add`: each attempt started a worker or was the failed one.
* `makeLocks_of_ok`: locks that find room in a list are all made.
-/
namespace Standstill.Contention

/-- What a run asks for and may not get. Nothing is refused unless it is said. -/
structure Host where
  /-- Whether there is a block of memory of so many bytes. -/
  gives : Nat → Bool := fun _ => true
  /-- What starting the thread of the worker with an index fails with. -/
  start : Nat → Option IoFault := fun _ => none

/-- What comes of starting workers. -/
structure Spawned where
  /-- The workers started. -/
  workers : List Worker := []
  failure : Option Failure := none
  /-- The threads asked for. -/
  attempts : Nat := 0
  events : List Event := []
deriving Repr, DecidableEq

/-- The name of the thread of a worker. -/
def threadName (index : UInt64) : String := "sem-worker-" ++ toString index.toNat

/-- Start `count` workers from `index` on, over a set of `locks` locks. -/
def startFrom (c : Config) (locks : Nat) (start : Nat → Option IoFault) :
    (count : Nat) → (index : Nat) → Except Defect Spawned
  | 0, _ => .ok {}
  | n + 1, index => do
    let i := UInt64.ofNat index
    let lock ← c.lockFor i
    match start index with
    | some f =>
      pure { failure := some (.spawn i f), attempts := 1, events := [.threadAsked (threadName i)] }
    | none =>
      let rest ← startFrom c locks start n (index + 1)
      pure {
        workers := .start i lock (lock.toNat < locks) c.cycles 0 :: rest.workers
        failure := rest.failure
        attempts := rest.attempts + 1
        events := .threadAsked (threadName i) :: .workerStarted i lock :: rest.events }

/-- The bytes that a worker takes up in a list: a word for what it shares with
its thread, and three for the thread's handle. -/
def workerSize : Nat := 32

/-- Start the workers of a configuration. -/
def startWorkers (c : Config) (locks : Nat) (host : Host) : Except Defect Spawned := do
  reserve host.gives c.workers.toNat workerSize
  startFrom c locks host.start c.workers.toNat 0

/-- A set of new locks. -/
def freshLocks (count : Nat) : List Lock := List.replicate count {}

/-- The bytes that a lock takes up in a list: four words for its semaphore, and
one for each of its three counters. -/
def lockSize : Nat := 56

/-- Make a set of new locks. -/
def makeLocks (gives : Nat → Bool) (count : Nat) : Except Defect (List Lock) := do
  reserve gives count lockSize
  pure (freshLocks count)

theorem makeLocks_of_ok {gives : Nat → Bool} {count : Nat}
    (h : reserve gives count lockSize = .ok ()) :
    makeLocks gives count = .ok (freshLocks count) := by
  rw [makeLocks, h]
  rfl

theorem length_workers_add {c : Config} {locks : Nat} {start : Nat → Option IoFault}
    {n index : Nat} {s : Spawned} (h : startFrom c locks start n index = .ok s) :
    s.workers.length + s.failure.toList.length = s.attempts := by
  induction n generalizing index s with
  | zero => cases h; rfl
  | succ n ih =>
    simp only [startFrom, bind, Except.bind] at h
    split at h
    · cases h
    · split at h
      · cases h; rfl
      · split at h
        · cases h
        · rename_i rest hr
          cases h
          have := ih hr
          simp only [List.length_cons]
          omega

end Standstill.Contention
