import Standstill.Contention.Machine
import Standstill.Contention.Report

/-!
# Reading a report off running workers

The coordinator reads one thing after the other: which workers have ended,
then their counts of cycles, then for each lock its acquisitions and its
peak. Workers may step between two reads.

Results:
* `observes_lookAll`: reading everything at one moment is one of the ways.
* `observes_of_reaches`: the reads may start later.
-/
namespace Standstill.Contention

/-- One read of the coordinator. -/
inductive Look
  | ended (worker : Nat)
  | cycles (worker : Nat)
  | acquisitions (lock : Nat)
  | peak (lock : Nat)
deriving Repr, DecidableEq

/-- What was read so far. -/
structure Snapshot where
  /-- Workers seen to have ended. -/
  ended : Nat := 0
  cycles : List UInt32 := []
  acquisitions : List UInt64 := []
  peaks : List UInt64 := []
deriving Repr, DecidableEq

namespace Snapshot

/-- The snapshot after a read. -/
def look (s : Snapshot) (m : Machine) : Look → Snapshot
  | .ended i =>
    if m.workers[i]?.any Worker.hasEnded then { s with ended := s.ended + 1 } else s
  | .cycles i => { s with cycles := s.cycles ++ (m.workers[i]?.map (·.completed)).toList }
  | .acquisitions j =>
    { s with acquisitions := s.acquisitions ++ (m.locks[j]?.map (·.acquisitions)).toList }
  | .peak j => { s with peaks := s.peaks ++ (m.locks[j]?.map (·.peakHolders)).toList }

/-- The reads that ask whether workers have ended. -/
def endedLooks (workers : Nat) : List Look := (List.range workers).map Look.ended

/-- The reads of all counters. -/
def counterLooks (workers locks : Nat) : List Look :=
  (List.range workers).map Look.cycles ++
    (List.range locks).flatMap fun j => [.acquisitions j, .peak j]

/-- All reads of a coordinator that does not wait for the workers. -/
def allLooks (workers locks : Nat) : List Look := endedLooks workers ++ counterLooks workers locks

/-- Reads at one moment. -/
def lookAll (s : Snapshot) (m : Machine) (looks : List Look) : Snapshot :=
  looks.foldl (fun s l => s.look m l) s

/-- Reads in order, with steps of workers before each of them. -/
inductive Observes : Machine → Snapshot → List Look → Snapshot → Prop
  | done (m : Machine) (s : Snapshot) : Observes m s [] s
  | look {m m' : Machine} {s s' : Snapshot} {l : Look} {ls : List Look} :
    m.Reaches m' → Observes m' (s.look m' l) ls s' → Observes m s (l :: ls) s'
  /-- That a worker has ended may be seen some time after it has. -/
  | unseen {m m' : Machine} {s s' : Snapshot} {i : Nat} {ls : List Look} :
    m.Reaches m' → Observes m' s ls s' → Observes m s (.ended i :: ls) s'

theorem observes_lookAll (m : Machine) (s : Snapshot) (looks : List Look) :
    Observes m s looks (s.lookAll m looks) := by
  induction looks generalizing s with
  | nil => exact .done m s
  | cons l ls ih => exact .look (.refl m) (ih _)

theorem observes_of_reaches {m m' : Machine} (h : m.Reaches m') {s s' : Snapshot}
    {looks : List Look} (hs : Observes m' s looks s') : Observes m s looks s' := by
  cases hs with
  | done => exact .done m s
  | look hr ho => exact .look (h.trans hr) ho
  | unseen hr ho => exact .unseen (h.trans hr) ho

/-- The report that reads amount to, for workers bound to the locks given. -/
def report (s : Snapshot) (completion : CompletionMode) (bound : List (UInt64 × UInt64))
    (ended : Nat) : Report where
  completion := completion
  workers := (bound.zip s.cycles).map fun ((index, lock), cycles) => ⟨index, lock, cycles⟩
  locks := (s.acquisitions.zip s.peaks).zipIdx.map fun ((acquisitions, peak), j) =>
    ⟨UInt64.ofNat j, acquisitions, peak⟩
  finishedWorkers := UInt64.ofNat ended

end Snapshot

end Standstill.Contention
