import Standstill.Contention.Snapshot
import Standstill.Contention.Spawn

/-!
# A contention run

The configuration is checked, the locks are made and the workers started.
The coordinator then waits for all workers to end, or sleeps for its ticks,
and reads the report off what the workers have come to.

Results:
* `mayReport_complete`: the report is one that some order of steps leads to.
* `run_eq_of_invalid`: a refused configuration is the only thing reported of
  its run.
-/
namespace Standstill.Contention

/-- The report of a coordinator that waits for all workers, read off the
machine in which they have ended. -/
def joinedReport (m : Machine) : Report :=
  let s := Snapshot.lookAll {} m (Snapshot.counterLooks m.workers.length m.locks.length)
  s.report .join m.bindings m.workers.length

/-- The report of a coordinator that slept for its ticks and then read this. -/
def timedReport (ticks : UInt32) (m : Machine) (s : Snapshot) : Report :=
  s.report (.timedWait ticks) m.bindings s.ended

/-- The report of a coordinator that reads at one moment. -/
def momentReport (ticks : UInt32) (m : Machine) : Report :=
  timedReport ticks m (Snapshot.lookAll {} m (Snapshot.allLooks m.workers.length m.locks.length))

/-- The reports that a coordinator may come to, in all orders of steps. -/
inductive MayReport (m : Machine) : CompletionMode → Report → Prop
  /-- All workers have ended. -/
  | joined {m' : Machine} (run : m.Reaches m') (ended : m'.allEnded = true) :
    MayReport m .join (joinedReport m')
  /-- The reads start at any moment, and workers may step between them. -/
  | timed {ticks : UInt32} {s : Snapshot}
    (looks : Snapshot.Observes m {} (Snapshot.allLooks m.workers.length m.locks.length) s) :
    MayReport m (.timedWait ticks) (timedReport ticks m s)

/-- Wait for the end of the run and report. -/
def complete (c : Config) (m : Machine) : Traced Failure Report := do
  Traced.notes (c.coordinatorDelay.toList.map .sleepAsked)
  match c.completion with
  | .join => pure (joinedReport (m.settle true))
  | .timedWait ticks =>
    let r := momentReport ticks ((m.settle false).elapse ticks.toNat)
    let running := r.workers.length - r.finishedWorkers.toNat
    if 0 < running then Traced.note (.waitElapsed running r.workers.length)
    pure r

theorem mayReport_momentReport {m m' : Machine} (h : m.Reaches m') (ticks : UInt32) :
    MayReport m (.timedWait ticks) (momentReport ticks m') := by
  unfold momentReport timedReport
  rw [(Machine.bindings_of_reaches h).1, (Machine.bindings_of_reaches h).2,
    Machine.length_workers_of_reaches h]
  exact .timed (Snapshot.observes_of_reaches h (Snapshot.observes_lookAll ..))

/-- What is reported is one of the reports there may be, provided that a
coordinator that waits for the workers sees them all end. -/
theorem mayReport_complete {c : Config} {m : Machine}
    (h : c.completion = .join → (m.settle true).allEnded = true) {r : Report}
    (hr : (complete c m).result = .ok r) : MayReport m c.completion r := by
  unfold complete at hr
  split at hr
  · rename_i hc
    cases hr
    rw [hc]
    exact .joined (Machine.reaches_settle true m) (h hc)
  · rename_i ticks hc
    have : r = momentReport ticks ((m.settle false).elapse ticks.toNat) := by
      simp only at hr
      split at hr <;> cases hr <;> rfl
    rw [hc, this]
    exact mayReport_momentReport
      ((Machine.reaches_settle false m).trans (Machine.reaches_elapse ..)) ticks

/-- A whole run. -/
def run (c : Config) (host : Host) : Traced Halt Report :=
  match c.validate with
  | .error f => Traced.error (.failure (.config f))
  | .ok () => do
    Traced.note (.contentionStarted c.workers c.locks c.cycles c.tick)
    Traced.note (.locksMade c.locks.toNat)
    let locks ← (Traced.ofExcept (makeLocks host.gives c.locks.toNat)).mapError .defect
    let s ← (Traced.ofExcept (startWorkers c c.locks.toNat host)).mapError .defect
    Traced.notes s.events
    match s.failure with
    | some f => Traced.error (.failure f)
    | none => do
      let r ← (complete c ⟨locks, s.workers⟩).mapError .failure
      Traced.note (.contentionFinished r.totalAcquisitions r.finishedWorkers.toNat
        r.workers.length)
      pure r

theorem run_eq_of_invalid {c : Config} {f : ConfigFault} (h : c.validate = .error f)
    (host : Host) : run c host = ⟨[], .error (.failure (.config f))⟩ := by
  simp [run, h, Traced.error]

end Standstill.Contention
