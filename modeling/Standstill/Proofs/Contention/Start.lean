import Mathlib
import Standstill.Contention.Run
import Standstill.Proofs.Contention.Runs

/-!
# A run in which everything starts

When the host gives the memory for the lists of the locks and of the workers
and starts each thread, a run begins with new locks and all the workers of its
configuration, each bound to the lock whose index is the remainder of its
own. So the lock `j` is shared by every worker whose index leaves the
remainder `j`.

Results:
* `startFrom_add`, `startFrom_of_fault`: the workers that can be started come
  before the rest, and the first that cannot is the last.
* `startWorkers_of_none`, `startWorkers_of_fault`: the whole attempt.
* `run_of_starts`: the run is what its coordinator does with `begin`.
* `goal_begin`: how often each lock will be taken.
-/
namespace Standstill.Contention.Config

/-! ## Starting -/

/-- The worker at an index, before it steps. -/
def worker (c : Config) (locks index : Nat) : Worker :=
  .start (UInt64.ofNat index) (UInt64.ofNat index % c.locks)
    ((UInt64.ofNat index % c.locks).toNat < locks) c.cycles 0

/-- What is told of a worker that is started. -/
def workerEvents (c : Config) (index : Nat) : List Event :=
  [.threadAsked (threadName (UInt64.ofNat index)),
    .workerStarted (UInt64.ofNat index) (UInt64.ofNat index % c.locks)]

/-- The workers before an index, with a set of new locks. -/
def crew (c : Config) (locks started : Nat) : Machine :=
  ⟨freshLocks locks, (List.range started).map (c.worker locks)⟩

/-- The locks and the workers of a run in which everything starts. -/
def begin (c : Config) : Machine :=
  ⟨freshLocks c.locks.toNat, (List.range c.workers.toNat).map (c.worker c.locks.toNat)⟩

/-- There is memory for the locks and the workers, and a thread for each worker. -/
structure Starts (c : Config) (host : Host) : Prop where
  locks : reserve host.gives c.locks.toNat lockSize = .ok ()
  workers : reserve host.gives c.workers.toNat workerSize = .ok ()
  threads : ∀ i < c.workers.toNat, host.start i = none

/-- What a configuration that passes the check has. -/
theorem pos_of_validate {c : Config} (h : c.validate = .ok ()) :
    c.workers ≠ 0 ∧ c.locks ≠ 0 ∧ c.cycles ≠ 0 := by
  obtain ⟨hw, hl, hc, -⟩ := validate_eq_ok_iff.1 h
  exact ⟨hw, hl, hc⟩

/-- The same configuration may wait for its workers. -/
theorem validate_join {c : Config} (h : c.validate = .ok ()) :
    ({ c with completion := .join } : Config).validate = .ok () := by
  obtain ⟨hw, hl, hc⟩ := pos_of_validate h
  exact validate_eq_ok_iff.2 ⟨hw, hl, hc, nofun⟩

section Start
variable {c : Config} {locks : Nat} {start : Nat → Option IoFault} {host : Host}

theorem lockFor_eq (hl : c.locks ≠ 0) (i : UInt64) : c.lockFor i = .ok (i % c.locks) := by
  rw [lockFor, if_neg hl]

/-- **Starting workers.** Those that can be started are, in order, before what comes after. -/
theorem startFrom_add (hl : c.locks ≠ 0) {k index : Nat}
    (h : ∀ i, index ≤ i → i < index + k → start i = none) (n : Nat) :
    startFrom c locks start (k + n) index = (startFrom c locks start n (index + k)).map fun s =>
      { workers := (List.range' index k).map (c.worker locks) ++ s.workers
        failure := s.failure
        attempts := k + s.attempts
        events := (List.range' index k).flatMap c.workerEvents ++ s.events } := by
  induction k generalizing index with
  | zero =>
    rw [Nat.zero_add, Nat.add_zero]
    cases startFrom c locks start n index <;> simp [Except.map]
  | succ k ih =>
    have hfirst := h index (Nat.le_refl _) (by omega)
    have hrest := @ih (index + 1) fun i hle hlt => h i (by omega) (by omega)
    rw [show k + 1 + n = k + n + 1 by omega, startFrom, lockFor_eq hl, hfirst, hrest,
      show index + 1 + k = index + (k + 1) by omega]
    cases startFrom c locks start n (index + (k + 1)) with
    | error e => rfl
    | ok s =>
      simp only [Except.map, bind, Except.bind, pure, Except.pure, List.range'_succ,
        List.map_cons, List.flatMap_cons, workerEvents, List.cons_append, List.nil_append, worker,
        Except.ok.injEq, Spawned.mk.injEq, true_and]
      exact ⟨by omega, trivial⟩

/-- The first worker that cannot be started is the last one asked for. -/
theorem startFrom_of_fault (hl : c.locks ≠ 0) {k index : Nat}
    (h : ∀ i, index ≤ i → i < index + k → start i = none) {f : IoFault}
    (hfault : start (index + k) = some f) (n : Nat) :
    startFrom c locks start (k + (n + 1)) index = .ok {
      workers := (List.range' index k).map (c.worker locks)
      failure := some (.spawn (UInt64.ofNat (index + k)) f)
      attempts := k + 1
      events := (List.range' index k).flatMap c.workerEvents ++
        [.threadAsked (threadName (UInt64.ofNat (index + k)))] } := by
  rw [startFrom_add hl h, startFrom, lockFor_eq hl, hfault]
  simp [Except.map, bind, Except.bind, pure, Except.pure]

/-- **All start.** Without a failure all workers are started, in order. -/
theorem startWorkers_of_none (hl : c.locks ≠ 0)
    (hroom : reserve host.gives c.workers.toNat workerSize = .ok ())
    (h : ∀ i < c.workers.toNat, host.start i = none) :
    startWorkers c locks host = .ok {
      workers := (c.crew locks c.workers.toNat).workers
      attempts := c.workers.toNat
      events := (List.range c.workers.toNat).flatMap c.workerEvents } := by
  have hall : startFrom c locks host.start (c.workers.toNat + 0) 0 = _ :=
    startFrom_add hl (fun i _ hi => h i (by omega)) 0
  rw [startWorkers, hroom]
  refine Eq.trans hall ?_
  simp [startFrom, Except.map, crew, List.range_eq_range']

/-- **One does not.** The first failure ends the attempt, after the workers before it. -/
theorem startWorkers_of_fault (hl : c.locks ≠ 0)
    (hroom : reserve host.gives c.workers.toNat workerSize = .ok ()) {k : Nat}
    (hk : k < c.workers.toNat) (h : ∀ i < k, host.start i = none) {f : IoFault}
    (hfault : host.start k = some f) :
    startWorkers c locks host = .ok {
      workers := (c.crew locks k).workers
      failure := some (.spawn (UInt64.ofNat k) f)
      attempts := k + 1
      events := (List.range k).flatMap c.workerEvents ++
        [.threadAsked (threadName (UInt64.ofNat k))] } := by
  have hstop : startFrom c locks host.start (k + (c.workers.toNat - k - 1 + 1)) 0 = _ :=
    startFrom_of_fault hl (fun i _ hi => h i (by omega)) (by rwa [Nat.zero_add]) _
  rw [show k + (c.workers.toNat - k - 1 + 1) = c.workers.toNat by omega] at hstop
  rw [startWorkers, hroom]
  refine Eq.trans hstop ?_
  simp [crew, List.range_eq_range']

theorem startWorkers_of_starts (hl : c.locks ≠ 0) (h : c.Starts host) :
    startWorkers c c.locks.toNat host = .ok {
      workers := c.begin.workers
      attempts := c.workers.toNat
      events := (List.range c.workers.toNat).flatMap c.workerEvents } :=
  startWorkers_of_none hl h.workers h.threads

/-- Only if there was memory for all workers and a thread for each did all of them start. -/
theorem starts_of_startWorkers (hl : c.locks ≠ 0) {s : Spawned}
    (h : startWorkers c locks host = .ok s) (hs : s.failure = none) :
    reserve host.gives c.workers.toNat workerSize = .ok () ∧
      ∀ i < c.workers.toNat, host.start i = none := by
  obtain ⟨hroom, -⟩ := reserve_of_bind h
  refine ⟨hroom, ?_⟩
  by_contra hsome
  push Not at hsome
  obtain ⟨hlt, hfault⟩ := Nat.find_spec hsome
  obtain ⟨f, hf⟩ := Option.ne_none_iff_exists'.1 hfault
  have hbefore : ∀ i < Nat.find hsome, host.start i = none := by
    intro i hi
    by_contra hne
    exact Nat.find_min hsome hi ⟨by omega, hne⟩
  obtain rfl := Except.ok.inj (h.symm.trans (startWorkers_of_fault hl hroom hlt hbefore hf))
  cases hs

/-- A run in which everything starts leaves the rest to its coordinator. -/
theorem run_of_starts (hv : c.validate = .ok ()) (h : c.Starts host) :
    run c host = (do
      Traced.notes (.contentionStarted c.workers c.locks c.cycles c.tick ::
        .locksMade c.locks.toNat :: (List.range c.workers.toNat).flatMap c.workerEvents)
      let r ← (complete c c.begin).mapError .failure
      Traced.note (.contentionFinished r.totalAcquisitions r.finishedWorkers.toNat
        r.workers.length)
      pure r) := by
  have hl := (pos_of_validate hv).2.1
  unfold run
  rw [hv, makeLocks_of_ok h.locks, startWorkers_of_starts hl h]
  rfl

/-- The result of a run is that of its coordinator. -/
theorem run_eq_of_starts (hv : c.validate = .ok ()) (h : c.Starts host) :
    (run c host).result = (complete c c.begin).result.mapError .failure := by
  rw [run_of_starts hv h, Traced.notes_bind]
  change (Traced.bind ((complete c c.begin).mapError Halt.failure) _).result = _
  unfold Traced.bind Traced.mapError
  cases (complete c c.begin).result <;> rfl

end Start

/-! ## Sharing -/

/-- How many workers share the lock `j`. -/
def share (c : Config) (j : Nat) : Nat :=
  c.workers.toNat / c.locks.toNat + if j < c.workers.toNat % c.locks.toNat then 1 else 0

/-- How often the lock `j` is taken in all. -/
def takes (c : Config) (j : Nat) : Nat := c.cycles.toNat * c.share j

section Sharing
variable {c : Config}

theorem length_begin_locks (c : Config) : c.begin.locks.length = c.locks.toNat :=
  List.length_replicate

theorem length_begin_workers (c : Config) : c.begin.workers.length = c.workers.toNat := by
  rw [begin, List.length_map, List.length_range]

theorem getElem?_begin_workers {i : Nat} (h : i < c.workers.toNat) :
    c.begin.workers[i]? = some (c.worker c.locks.toNat i) := by
  simp [begin, h]

/-- A worker's lock is the remainder of its index. -/
theorem toNat_lock_worker {i : Nat} (h : i < c.workers.toNat) (locks : Nat) :
    (c.worker locks i).lock.toNat = i % c.locks.toNat := by
  have hsize : i < UInt64.size := h.trans c.workers.toNat_lt_size
  show (UInt64.ofNat i % c.locks).toNat = _
  rw [UInt64.toNat_mod, UInt64.toNat_ofNat_of_lt' hsize]

theorem mod_locks_lt (hl : c.locks ≠ 0) (i : Nat) : i % c.locks.toNat < c.locks.toNat :=
  Nat.mod_lt _ (Nat.pos_of_ne_zero fun hz => hl (UInt64.toNat_inj.1 hz))

theorem binding_worker (hl : c.locks ≠ 0) {i : Nat} (hi : i < c.workers.toNat) (locks : Nat) :
    (c.worker locks i).binding = (UInt64.ofNat i, UInt64.ofNat (i % c.locks.toNat)) := by
  refine Prod.ext rfl (UInt64.toNat_inj.1 ((toNat_lock_worker hi locks).trans (Eq.symm ?_)))
  exact UInt64.toNat_ofNat_of_lt' ((mod_locks_lt hl i).trans c.locks.toNat_lt_size)

theorem bindings_crew (hl : c.locks ≠ 0) {started : Nat} (h : started ≤ c.workers.toNat)
    (locks : Nat) :
    (c.crew locks started).bindings = (List.range started).map fun i =>
      (UInt64.ofNat i, UInt64.ofNat (i % c.locks.toNat)) := by
  rw [Machine.bindings, crew, List.map_map]
  refine List.map_congr_left fun i hi => binding_worker hl ?_ locks
  have := List.mem_range.1 hi
  omega

theorem bindings_begin (hl : c.locks ≠ 0) :
    c.begin.bindings = (List.range c.workers.toNat).map fun i =>
      (UInt64.ofNat i, UInt64.ofNat (i % c.locks.toNat)) :=
  bindings_crew hl (Nat.le_refl _) _

/-- A worker whose lock is in the set takes it once in each cycle, and another one has none. -/
theorem toCome_worker_of_lt {i : Nat} (h : i < c.workers.toNat) (locks : Nat) (p : Phase) :
    (c.worker locks i).toCome p = if i % c.locks.toNat < locks then c.cycles.toNat else 0 := by
  have hlock : (UInt64.ofNat i % c.locks).toNat = i % c.locks.toNat := toNat_lock_worker h locks
  unfold worker
  rw [Worker.toCome_start, hlock]
  simp

theorem toCome_worker (hl : c.locks ≠ 0) (i : Nat) (p : Phase) :
    (c.worker c.locks.toNat i).toCome p = c.cycles.toNat := by
  have hplaced : (UInt64.ofNat i % c.locks).toNat < c.locks.toNat :=
    UInt64.mod_lt _ (UInt64.pos_iff_ne_zero.2 hl)
  exact (Worker.toCome_start ..).trans (if_pos (decide_eq_true hplaced))

/-- Workers that are just started have not begun, and those without a lock never do. -/
theorem fresh_crew (c : Config) (locks started : Nat) : (c.crew locks started).Fresh := by
  refine ⟨fun l hl => List.eq_of_mem_replicate hl, ?_⟩
  intro w hw
  obtain ⟨i, -, rfl⟩ := List.mem_map.1 hw
  by_cases hbusy : (UInt64.ofNat i % c.locks).toNat < locks ∧ c.cycles ≠ 0
  · right
    constructor
    · simp only [worker, Worker.start, decide_eq_true_eq]
      exact if_pos hbusy
    · show (UInt64.ofNat i % c.locks).toNat < (freshLocks locks).length
      rw [freshLocks, List.length_replicate]
      exact hbusy.1
  · left
    simp only [worker, Worker.start, decide_eq_true_eq]
    exact if_neg hbusy

theorem fresh_begin (c : Config) : c.begin.Fresh := c.fresh_crew _ _

/-- A measure that some indices have and the others do not, added up. -/
theorem sum_ite_eq_count (f n : Nat) (p : Nat → Prop) [DecidablePred p] :
    ((List.range n).map fun i => if p i then f else 0).sum = f * n.count p := by
  induction n with
  | zero => rfl
  | succ n ih =>
    rw [List.range_succ, List.map_append, List.sum_append, ih, Nat.count_succ, Nat.mul_add]
    simp

/-- Every lock is shared by as many workers as leave its remainder. -/
theorem sum_share (f n L j : Nat) (hj : j < L) :
    ((List.range n).map fun i => if i % L = j then f else 0).sum =
      f * (n / L + if j < n % L then 1 else 0) := by
  have hsame : n.count (· % L = j) = n.count (· ≡ j [MOD L]) := by
    simp only [Nat.ModEq, Nat.mod_eq_of_lt hj]
  rw [sum_ite_eq_count, hsame, Nat.count_modEq_card _ (by omega), Nat.mod_eq_of_lt hj]

theorem sum_lt_indicator (n r : Nat) :
    ((List.range n).map fun j => if j < r then 1 else 0).sum = min n r := by
  induction n with
  | zero => simp
  | succ n ih =>
    rw [List.range_succ, List.map_append, List.sum_append, ih, List.map_singleton,
      List.sum_singleton]
    split <;> omega

/-- All workers are shared out among the locks. -/
theorem sum_takes (hl : c.locks ≠ 0) :
    ((List.range c.locks.toNat).map c.takes).sum = c.workers.toNat * c.cycles.toNat := by
  have hless := (mod_locks_lt hl c.workers.toNat).le
  unfold takes share
  rw [List.sum_map_mul_left, List.sum_map_add, List.map_const', List.sum_replicate,
    List.length_range, smul_eq_mul, sum_lt_indicator, Nat.min_eq_right hless, Nat.div_add_mod,
    Nat.mul_comm]

/-- No lock is taken more often than all of them together. -/
theorem takes_lt (hl : c.locks ≠ 0) (hfew : c.workers.toNat * c.cycles.toNat < UInt64.size)
    {j : Nat} (hj : j < c.locks.toNat) : c.takes j < UInt64.size := by
  have hmem := List.mem_map_of_mem (f := c.takes) (List.mem_range.2 hj)
  have hle := List.single_le_sum (fun _ _ => Nat.zero_le _) _ hmem
  rw [sum_takes hl] at hle
  exact Nat.lt_of_le_of_lt hle hfew

theorem goal_begin (hl : c.locks ≠ 0) {j : Nat} (hj : j < c.locks.toNat) :
    c.begin.goal j = c.takes j := by
  unfold Machine.goal tally begin takes share
  rw [List.map_map, ← sum_share _ _ _ _ hj]
  congr 1
  refine List.map_congr_left fun i hi => ?_
  simp only [Function.comp_apply, toNat_lock_worker (List.mem_range.1 hi), toCome_worker hl]

end Sharing

end Standstill.Contention.Config
