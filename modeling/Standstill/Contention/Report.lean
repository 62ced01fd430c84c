import Standstill.Contention.Completion

/-!
# Reports of a contention run

What each worker and each lock came to, and how many workers had ended when
the report was taken.
-/
namespace Standstill.Contention

structure WorkerReport where
  index : UInt64
  lock : UInt64
  /-- Cycles done. -/
  cycles : UInt32
deriving Repr, DecidableEq

structure LockReport where
  index : UInt64
  acquisitions : UInt64
  /-- The most workers seen holding the lock at once. -/
  peakHolders : UInt64
deriving Repr, DecidableEq

structure Report where
  completion : CompletionMode
  workers : List WorkerReport
  locks : List LockReport
  finishedWorkers : UInt64
deriving Repr, DecidableEq

namespace Report

/-- All acquisitions together, in a word, in which more than fit wrap around. -/
def totalAcquisitions (r : Report) : UInt64 := r.locks.foldl (fun n l => n + l.acquisitions) 0

/-- Whether no lock had two holders at once. -/
def mutualExclusionHeld (r : Report) : Bool := r.locks.all fun l => l.peakHolders ≤ 1

def allFinished (r : Report) : Bool := r.finishedWorkers.toNat == r.workers.length

end Report

/-! ## JSON -/

def WorkerReport.record : Json.Record WorkerReport where
  title := "struct WorkerReport"
  arity := "struct WorkerReport with 3 elements"
  fields := .cons "index" .size none <| .cons "lock" .size none <| .cons "cycles" .word32 none .nil
  build := fun (index, lock, cycles, ()) => .ok ⟨index, lock, cycles⟩
  parts := fun r => (r.index, r.lock, r.cycles, ())
  closed := false

def WorkerReport.codec : Json.Codec WorkerReport := WorkerReport.record.codec

def LockReport.record : Json.Record LockReport where
  title := "struct LockReport"
  arity := "struct LockReport with 3 elements"
  fields :=
    .cons "index" .size none <|
    .cons "acquisitions" .word64 none <|
    .cons "peak_holders" .size none .nil
  build := fun (index, acquisitions, peak, ()) => .ok ⟨index, acquisitions, peak⟩
  parts := fun r => (r.index, r.acquisitions, r.peakHolders, ())
  closed := false

def LockReport.codec : Json.Codec LockReport := LockReport.record.codec

def Report.record : Json.Record Report where
  title := "struct ContentionReport"
  arity := "struct ContentionReport with 4 elements"
  fields :=
    .cons "completion" CompletionMode.codec none <|
    .cons "workers" (.list WorkerReport.codec) none <|
    .cons "locks" (.list LockReport.codec) none <|
    .cons "finished_workers" .size none .nil
  build := fun (completion, workers, locks, finished, ()) =>
    .ok ⟨completion, workers, locks, finished⟩
  parts := fun r => (r.completion, r.workers, r.locks, r.finishedWorkers, ())
  closed := false

def Report.codec : Json.Codec Report := Report.record.codec

end Standstill.Contention
