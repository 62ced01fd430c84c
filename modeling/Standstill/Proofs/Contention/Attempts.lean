import Mathlib
import Standstill.Proofs.Contention.Progress
import Standstill.Proofs.Contention.Start

/-!
# Starting workers when threads may fail to start

Threads are started by a spawner: it is called with the name of a thread and
the worker that is to run in it, has a state of its own, and either starts the
worker or fails. `startWorkersBy` is `startWorkers` with the calls made one
after the other, so that the state at the end tells which calls were made.

There is memory for the list of the workers. The locks that they share may be
fewer or more than the configuration has. A worker whose lock is not there has
nothing to do; the others take theirs as often as they have cycles, also when
the attempt has failed and nobody waits for them any more. A worker that is
started late is one that has not stepped yet, so all of them are there from the
beginning.

Results:
* `startWorkersBy_eq`: what a spawner answers is all that matters of it, and
  it is called once for each thread that was asked for.
* `startWorkers_of_noLocks`: without a lock the attempt ends before any call.
* `goal_crew`: how often the workers started will take a lock.
* `started_until_first_failure`: all of it, for each spawner and each order
  of the workers' steps.
-/
namespace Standstill.Contention.Config

/-! ## Spawners -/

/-- A call to start a thread with a name for a worker: what it fails with, if it does, and the
state after it. -/
abbrev Spawner (σ : Type) := String → Worker → σ → Option IoFault × σ

section Calls
variable {σ : Type} (c : Config) (locks : Nat) (gives : Nat → Bool) (spawn : Spawner σ)

/-- `startFrom` by calls of a spawner. -/
def startFromBy : (count : Nat) → (index : Nat) → σ → Except Defect Spawned × σ
  | 0, _, s => (.ok {}, s)
  | n + 1, index, s =>
    match c.lockFor (UInt64.ofNat index) with
    | .error d => (.error d, s)
    | .ok _ =>
      match spawn (threadName (UInt64.ofNat index)) (c.worker locks index) s with
      | (some f, t) =>
        (.ok {
          failure := some (.spawn (UInt64.ofNat index) f)
          attempts := 1
          events := [.threadAsked (threadName (UInt64.ofNat index))] }, t)
      | (none, t) =>
        let (rest, u) := startFromBy n (index + 1) t
        (rest.map fun r => {
          workers := c.worker locks index :: r.workers
          failure := r.failure
          attempts := r.attempts + 1
          events := c.workerEvents index ++ r.events }, u)

/-- `startWorkers` by calls of a spawner. -/
def startWorkersBy (s : σ) : Except Defect Spawned × σ :=
  match reserve gives c.workers.toNat workerSize with
  | .error d => (.error d, s)
  | .ok () => c.startFromBy locks spawn c.workers.toNat 0 s

/-- The state of a spawner that has been called for all workers before an index. -/
def stateAt (s : σ) : Nat → σ
  | 0 => s
  | i + 1 => (spawn (threadName (UInt64.ofNat i)) (c.worker locks i) (stateAt s i)).2

/-- What a spawner answers for the worker at an index, after the calls for those before. -/
def answerAt (s : σ) (i : Nat) : Option IoFault :=
  (spawn (threadName (UInt64.ofNat i)) (c.worker locks i) (c.stateAt locks spawn s i)).1

end Calls

/-- How many threads were asked for. -/
def asked : Except Defect Spawned → Nat
  | .ok r => r.attempts
  | .error _ => 0

section Calls
variable {σ : Type} {c : Config} {locks : Nat} {spawn : Spawner σ} {s : σ}

/-- With a lock to share, the attempt comes to a result. -/
theorem exists_startFrom (hl : c.locks ≠ 0) (locks : Nat) (start : Nat → Option IoFault)
    (n index : Nat) :
    ∃ r, startFrom c locks start n index = .ok r := by
  induction n generalizing index with
  | zero => exact ⟨{}, rfl⟩
  | succ n ih =>
    unfold startFrom
    simp only [lockFor_eq hl, bind, Except.bind]
    cases start index with
    | some f => exact ⟨_, rfl⟩
    | none =>
      obtain ⟨rest, hrest⟩ := ih (index + 1)
      simp only [hrest]
      exact ⟨_, rfl⟩

/-- **Calls.** A spawner is called once for each thread that was asked for, in order, and what it
answers is all that matters of it. -/
theorem startFromBy_eq (n index : Nat) :
    c.startFromBy locks spawn n index (c.stateAt locks spawn s index) =
      (startFrom c locks (c.answerAt locks spawn s) n index,
        c.stateAt locks spawn s
          (index + asked (startFrom c locks (c.answerAt locks spawn s) n index))) := by
  induction n generalizing index with
  | zero => rfl
  | succ n ih =>
    by_cases hl : c.locks = 0
    · simp [startFromBy, startFrom, lockFor, hl, bind, Except.bind, asked]
    · have hcall : spawn (threadName (UInt64.ofNat index)) (c.worker locks index)
          (c.stateAt locks spawn s index) =
          (c.answerAt locks spawn s index, c.stateAt locks spawn s (index + 1)) := rfl
      unfold startFromBy startFrom
      simp only [lockFor_eq hl, bind, Except.bind, hcall]
      cases c.answerAt locks spawn s index with
      | some f => rfl
      | none =>
        obtain ⟨rest, hrest⟩ := exists_startFrom hl locks (c.answerAt locks spawn s) n (index + 1)
        have hstate : index + 1 + rest.attempts = index + (rest.attempts + 1) := by omega
        simp only [ih, hrest, asked, Except.map, pure, Except.pure, hstate]
        rfl

theorem startWorkersBy_eq (c : Config) (locks : Nat) (gives : Nat → Bool) (spawn : Spawner σ)
    (s : σ) :
    let attempt := startWorkers c locks ⟨gives, c.answerAt locks spawn s⟩
    c.startWorkersBy locks gives spawn s = (attempt, c.stateAt locks spawn s (asked attempt)) := by
  unfold startWorkersBy startWorkers
  cases reserve gives c.workers.toNat workerSize with
  | error d => rfl
  | ok u =>
    have hcalls := @startFromBy_eq σ c locks spawn s c.workers.toNat 0
    rw [Nat.zero_add] at hcalls
    exact hcalls

end Calls

/-! ## The attempt -/

section Attempt
variable {c : Config} {locks : Nat} {host : Host}

/-- Without a lock to share the first worker cannot be made, so that no thread is asked for. -/
theorem startWorkers_of_noLocks (hl : c.locks = 0) (hw : c.workers ≠ 0)
    (hroom : reserve host.gives c.workers.toNat workerSize = .ok ()) :
    startWorkers c locks host = .error .noLockToShare := by
  obtain ⟨n, hn⟩ := Nat.exists_eq_succ_of_ne_zero fun hz => hw (UInt64.toNat_inj.1 hz)
  rw [startWorkers, hroom, hn]
  simp [startFrom, lockFor, hl, bind, Except.bind]

theorem startWorkers_of_noWorkers (hw : c.workers = 0) : startWorkers c locks host = .ok {} := by
  rw [startWorkers, hw]
  rfl

end Attempt

/-! ## The workers that were started -/

section Crew
variable {c : Config} {locks started : Nat} {m : Machine}

/-- A lock of the set is taken in each cycle of the workers that are bound to it. -/
theorem goal_crew (h : started ≤ c.workers.toNat) {j : Nat} (hj : j < locks) :
    (c.crew locks started).goal j =
      c.cycles.toNat * started.count fun i => i % c.locks.toNat = j := by
  rw [Machine.goal, tally, crew, List.map_map, ← sum_ite_eq_count]
  congr 1
  refine List.map_congr_left fun i hi => ?_
  have hlt : i < c.workers.toNat := by
    have := List.mem_range.1 hi
    omega
  simp only [Function.comp_apply, toNat_lock_worker hlt, toCome_worker_of_lt hlt]
  by_cases hbound : i % c.locks.toNat = j
  · simp [hbound, hj]
  · simp [hbound]

/-- The locks of the set once all have ended. -/
theorem lock_of_crew_ended (h : started ≤ c.workers.toNat) (hm : (c.crew locks started).Reaches m)
    (hended : m.allEnded = true) {j : Nat} (hj : j < locks) :
    ∃ l, m.locks[j]? = some l ∧
      l.acquisitions = UInt64.ofNat
        (c.cycles.toNat * started.count fun i => i % c.locks.toNat = j) ∧
      (l.peakHolders =
        if 0 < c.cycles.toNat * started.count fun i => i % c.locks.toNat = j then 1 else 0) ∧
      l.semaphore.available = 1 ∧ l.holders = 0 := by
  have hlen : j < m.locks.length := by
    rw [(Machine.bindings_of_reaches hm).2, crew, freshLocks, List.length_replicate]
    exact hj
  have hget := List.getElem?_eq_getElem hlen
  have hlock := Machine.lock_of_ended (c.fresh_crew locks started) hm hended hget
  rw [goal_crew h hj] at hlock
  obtain ⟨hfree, hnobody, hacquired, hpeak⟩ := hlock
  exact ⟨_, hget, hacquired, hpeak, hfree, hnobody⟩

/-- The workers started once all have ended. -/
theorem worker_of_crew_ended (hl : c.locks ≠ 0) (h : started ≤ c.workers.toNat)
    (hm : (c.crew locks started).Reaches m) (hended : m.allEnded = true) {i : Nat}
    (hi : i < started) :
    ∃ w, m.workers[i]? = some w ∧
      w.binding = (UInt64.ofNat i, UInt64.ofNat (i % c.locks.toNat)) ∧
      w.completed = if i % c.locks.toNat < locks then c.cycles else 0 := by
  have hlt : i < c.workers.toNat := by omega
  have hget : (c.crew locks started).workers[i]? = some (c.worker locks i) := by
    simp [crew, hi]
  obtain ⟨w, hw, hbinding, hcompleted⟩ := Machine.worker_of_ended hm hended hget
  rw [toCome_worker_of_lt hlt, show (c.worker locks i).completed = 0 from rfl] at hcompleted
  refine ⟨w, hw, hbinding.trans (binding_worker hl hlt locks), ?_⟩
  rw [hcompleted]
  split
  · simp
  · rfl

end Crew

/-- **Any failure.** Without a lock to share nothing is asked for, and without a worker to start
neither. Otherwise threads are asked for in order up to the first that fails, which is reported with
its index, or for all workers. Either way those that were started can come to their end from
wherever they are, and once they have, the locks of the set have counted each of their cycles, in
words of 64 bits, and are free again. -/
theorem started_until_first_failure {σ : Type} (c : Config) (locks : Nat) (gives : Nat → Bool)
    (spawn : Spawner σ) (s : σ) (hroom : reserve gives c.workers.toNat workerSize = .ok ()) :
    let result := c.startWorkersBy locks gives spawn s
    let answer := c.answerAt locks spawn s
    let state := c.stateAt locks spawn s
    result.1 = startWorkers c locks ⟨gives, answer⟩ ∧
    (c.locks = 0 → c.workers ≠ 0 → result = (.error .noLockToShare, s) ∧
      Defect.noLockToShare.message = "attempt to calculate the remainder with a divisor of zero") ∧
    (c.workers = 0 → result = (.ok {}, s)) ∧
    (c.locks ≠ 0 → ∀ k < c.workers.toNat, ∀ f, (∀ i < k, answer i = none) → answer k = some f →
      result = (.ok {
        workers := (c.crew locks k).workers
        failure := some (.spawn (UInt64.ofNat k) f)
        attempts := k + 1
        events := (List.range k).flatMap c.workerEvents ++
          [.threadAsked (threadName (UInt64.ofNat k))] }, state (k + 1))) ∧
    (c.locks ≠ 0 → (∀ i < c.workers.toNat, answer i = none) →
      result = (.ok {
        workers := (c.crew locks c.workers.toNat).workers
        failure := none
        attempts := c.workers.toNat
        events := (List.range c.workers.toNat).flatMap c.workerEvents }, state c.workers.toNat)) ∧
    ∀ started ≤ c.workers.toNat, c.locks ≠ 0 →
      (c.crew locks started).bindings = (List.range started).map (fun i =>
        (UInt64.ofNat i, UInt64.ofNat (i % c.locks.toNat))) ∧
      ∀ m, (c.crew locks started).Reaches m →
        (∃ m', m.Reaches m' ∧ m'.allEnded = true) ∧
        (m.allEnded = true →
          (∀ j < locks, ∃ l, m.locks[j]? = some l ∧
            l.acquisitions = UInt64.ofNat
              (c.cycles.toNat * started.count fun i => i % c.locks.toNat = j) ∧
            (l.peakHolders =
              if 0 < c.cycles.toNat * started.count fun i => i % c.locks.toNat = j then 1 else 0) ∧
            l.semaphore.available = 1 ∧ l.holders = 0) ∧
          ∀ i < started, ∃ w, m.workers[i]? = some w ∧
            w.binding = (UInt64.ofNat i, UInt64.ofNat (i % c.locks.toNat)) ∧
            w.completed = if i % c.locks.toNat < locks then c.cycles else 0) := by
  intro result answer state
  have hresult : result = (startWorkers c locks ⟨gives, answer⟩,
      state (asked (startWorkers c locks ⟨gives, answer⟩))) :=
    startWorkersBy_eq c locks gives spawn s
  refine ⟨congrArg Prod.fst hresult, ?_, ?_, ?_, ?_, ?_⟩
  · intro hl hw
    rw [hresult, startWorkers_of_noLocks hl hw hroom]
    exact ⟨rfl, rfl⟩
  · intro hw
    rw [hresult, startWorkers_of_noWorkers hw]
    rfl
  · intro hl k hk f hbefore hfault
    rw [hresult, startWorkers_of_fault hl hroom hk hbefore hfault]
    rfl
  · intro hl hnone
    rw [hresult, startWorkers_of_none hl hroom hnone]
    rfl
  · intro started hle hl
    refine ⟨bindings_crew hl hle locks, ?_⟩
    intro m hm
    constructor
    · exact ⟨m.settle true, Machine.reaches_settle true m,
        Machine.allEnded_settle_of_fresh (c.fresh_crew locks started) hm⟩
    · intro hended
      constructor
      · intro j hj
        exact lock_of_crew_ended hle hm hended hj
      · intro i hi
        exact worker_of_crew_ended hl hle hm hended hi

/-- Four workers of three cycles, for whose list there is just enough memory, are to be started
over one lock instead of two, and the third thread is refused: three calls were made, and of the
two workers that run one has a lock. -/
theorem third_thread_refused :
    let c : Config := { workers := 4, cycles := 3 }
    let gives : Nat → Bool := fun bytes => bytes ≤ 128
    let spawn : Spawner Nat := fun _ _ n => (if n = 2 then some (.errno ⟨11⟩) else none, n + 1)
    (∃ r, c.startWorkersBy 1 gives spawn 0 = (.ok r, 3) ∧ r.failure = some (.spawn 2 (.errno ⟨11⟩)) ∧
      r.workers.length = 2) ∧
    ∃ m l w, (c.crew 1 2).Reaches m ∧ m.allEnded = true ∧ m.locks[0]? = some l ∧
      l.acquisitions = 3 ∧ l.peakHolders = 1 ∧ m.workers[1]? = some w ∧ w.completed = 0 := by
  intro c gives spawn
  obtain ⟨-, -, -, hfailed, -, hcrew⟩ :=
    started_until_first_failure c 1 gives spawn 0 (by decide)
  have hl : c.locks ≠ 0 := by decide
  obtain ⟨-, hends⟩ := hcrew 2 (by decide) hl
  obtain ⟨⟨m, hm, hended⟩, -⟩ := hends _ (.refl _)
  obtain ⟨-, hcounted⟩ := hends m hm
  obtain ⟨hlocks, hworkers⟩ := hcounted hended
  obtain ⟨l, hl0, hacquired, hpeak, -, -⟩ := hlocks 0 (by decide)
  obtain ⟨w, hw, -, hcompleted⟩ := hworkers 1 (by decide)
  constructor
  · exact ⟨_, hfailed hl 2 (by decide) (.errno ⟨11⟩) (by decide) rfl, rfl, rfl⟩
  · exact ⟨m, l, w, hm, hended, hl0, hacquired, hpeak, hw, hcompleted⟩

end Standstill.Contention.Config
