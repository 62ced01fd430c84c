import Standstill.Contention.Completion
import Standstill.Socket.Config

/-!
# Configurations of a contention run

The defaults, the checks in their order, the binding of workers to locks and
the JSON. Worker `i` shares the lock whose index is the remainder of `i` by
the number of locks.

Results:
* `validate_eq_ok_iff`: what an accepted configuration has.
* `lockFor_lt`: with at least one lock, each worker has a lock of the set.
-/
namespace Standstill.Contention

def defaultWorkers : UInt64 := 8

def defaultLocks : UInt64 := 2

/-- The timed wait of as many ticks as a worker has cycles when none are given. -/
def CompletionMode.legacy : CompletionMode := .timedWait defaultCycles

structure Config where
  workers : UInt64 := defaultWorkers
  locks : UInt64 := defaultLocks
  /-- Cycles of each worker. -/
  cycles : UInt32 := defaultCycles
  tick : Span := defaultTick
  completion : CompletionMode := .join
deriving Repr, DecidableEq

namespace Config

def validate (c : Config) : Except ConfigFault Unit :=
  if c.workers = 0 then .error .noWorkers
  else if c.locks = 0 then .error .noLocks
  else if c.cycles = 0 then .error .noCycles
  else match c.completion with
    | .join => .ok ()
    | .timedWait ticks =>
      if (c.tick.times ticks).isNone then .error (.waitTooLong ticks c.tick) else .ok ()

theorem validate_eq_ok_iff {c : Config} :
    c.validate = .ok () ↔ c.workers ≠ 0 ∧ c.locks ≠ 0 ∧ c.cycles ≠ 0 ∧
      ∀ ticks, c.completion = .timedWait ticks → c.tick.times ticks ≠ none := by
  unfold validate
  split
  · next hw => simp [hw]
  split
  · next hl => simp [hl]
  split
  · next hc => simp [hc]
  next hw hl hc =>
  split
  · next hjoin => simp [hw, hl, hc, hjoin]
  · next ticks hwait =>
    cases ht : c.tick.times ticks <;> simp [hw, hl, hc, hwait, ht]

/-- How long the coordinator sleeps before it reports, unless it waits for the workers. -/
def coordinatorDelay (c : Config) : Option Span :=
  match c.completion with
  | .join => none
  | .timedWait ticks => some (c.tick.timesCapped ticks)

/-- The lock of a worker; without any lock there is none. -/
def lockFor (c : Config) (worker : UInt64) : Except Defect UInt64 :=
  if c.locks = 0 then .error .noLockToShare else .ok (worker % c.locks)

theorem lockFor_lt {c : Config} {worker lock : UInt64} (h : c.lockFor worker = .ok lock) :
    lock < c.locks := by
  unfold lockFor at h
  split at h
  · cases h
  · rename_i hl
    cases h
    exact UInt64.mod_lt _ (UInt64.pos_iff_ne_zero.2 hl)

def record : Json.Record Config where
  title := "struct ContentionConfig"
  arity := "struct ContentionConfig with 5 elements"
  fields :=
    .cons "workers" .size none <|
    .cons "locks" .size none <|
    .cons "cycles" .word32 none <|
    .cons "tick" Span.codec none <|
    .cons "completion" CompletionMode.codec none .nil
  build := fun (workers, locks, cycles, tick, completion, ()) =>
    .ok ⟨workers, locks, cycles, tick, completion⟩
  parts := fun c => (c.workers, c.locks, c.cycles, c.tick, c.completion, ())
  closed := false

def codec : Json.Codec Config := record.codec

end Config

end Standstill.Contention
