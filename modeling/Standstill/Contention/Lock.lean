import Standstill.Semaphore.Basic

/-!
# Locks

A lock is a semaphore with one permit and three counters that its workers
keep: how many hold it, the most that held it at once, and how often it was
taken. A permit may also be kept by a party that is no worker; that leaves
the counters as they are.
-/
namespace Standstill.Contention

structure Lock where
  semaphore : Semaphore := .binary
  holders : UInt64 := 0
  peakHolders : UInt64 := 0
  acquisitions : UInt64 := 0
  /-- Permits held by parties that are no workers. -/
  kept : Nat := 0
deriving Repr, DecidableEq

namespace Lock

/-- Take the permit without being a worker; `none` if it is not available. -/
def keep (l : Lock) : Option Lock :=
  l.semaphore.tryAcquire.map fun s => { l with semaphore := s, kept := l.kept + 1 }

/-- Give back a permit taken so; `none` if there is none. -/
def giveBack (l : Lock) : Option Lock :=
  if l.kept = 0 then none
  else some { l with semaphore := l.semaphore.release, kept := l.kept - 1 }

end Lock

end Standstill.Contention
