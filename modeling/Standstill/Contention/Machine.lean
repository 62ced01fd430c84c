import Standstill.Contention.Worker

/-!
# Workers and locks together

A machine is a set of locks and the workers that share them. Any worker may
take the next step, and so may a party that keeps a permit or gives it back:
`Step` is the relation of all orders. `settle` runs a machine in one of these
orders, until no worker that may step can; `elapse` runs it by ticks, all
sleepers waking at each tick.

Results:
* `stepsLeft_step`: a step of a worker leaves the machine one step less.
* `bindings_of_reaches`: workers keep their locks through a run.
* `reaches_settle`, `reaches_elapse`: what is run here is a run by steps.
-/
namespace Standstill.Contention

structure Machine where
  locks : List Lock
  workers : List Worker
deriving Repr, DecidableEq

namespace Machine

/-- A step of the worker at an index; `none` if it has none to take now. -/
def step (m : Machine) (i : Nat) : Option Machine :=
  match m.workers[i]? with
  | none => none
  | some w =>
    match m.locks[w.lock.toNat]? with
    | none => none
    | some l =>
      (w.step l).map fun (w', l') =>
        ⟨m.locks.set w.lock.toNat l', m.workers.set i w'⟩

/-- Take the permit of a lock without being a worker. -/
def keep (m : Machine) (j : Nat) : Option Machine :=
  match m.locks[j]? with
  | none => none
  | some l => l.keep.map fun l' => { m with locks := m.locks.set j l' }

/-- Give back a permit taken so. -/
def giveBack (m : Machine) (j : Nat) : Option Machine :=
  match m.locks[j]? with
  | none => none
  | some l => l.giveBack.map fun l' => { m with locks := m.locks.set j l' }

/-- One step of any party. -/
inductive Step (m m' : Machine) : Prop
  | worker (i : Nat) (h : m.step i = some m')
  | keep (j : Nat) (h : m.keep j = some m')
  | giveBack (j : Nat) (h : m.giveBack j = some m')

/-- Runs in which any worker may take each step. -/
inductive Reaches : Machine → Machine → Prop
  | refl (m : Machine) : Reaches m m
  | tail {m n k : Machine} (i : Nat) : Reaches m n → n.step i = some k → Reaches m k

theorem Reaches.trans {m n k : Machine} (h : Reaches m n) (h' : Reaches n k) : Reaches m k := by
  induction h' with
  | refl => exact h
  | tail i _ hs ih => exact ih.tail i hs

def allEnded (m : Machine) : Bool := m.workers.all Worker.hasEnded

/-- The indices of the workers with those of their locks. -/
def bindings (m : Machine) : List (UInt64 × UInt64) := m.workers.map Worker.binding

/-- The steps that all workers still have to take. -/
def stepsLeft (m : Machine) : Nat := (m.workers.map Worker.stepsLeft).foldr (· + ·) 0

theorem foldr_add_set {ws : List Nat} {i a b : Nat} (h : ws[i]? = some a) (hb : b + 1 = a) :
    (ws.set i b).foldr (· + ·) 0 + 1 = ws.foldr (· + ·) 0 := by
  induction ws generalizing i with
  | nil => simp at h
  | cons x xs ih =>
    cases i with
    | zero =>
      simp only [List.getElem?_cons_zero, Option.some.injEq] at h
      simp only [List.set_cons_zero, List.foldr_cons]
      omega
    | succ i =>
      simp only [List.getElem?_cons_succ] at h
      have := ih h
      simp only [List.set_cons_succ, List.foldr_cons]
      omega

theorem stepsLeft_step {m m' : Machine} {i : Nat} (h : m.step i = some m') :
    m'.stepsLeft + 1 = m.stepsLeft := by
  unfold step at h
  split at h
  · cases h
  rename_i w hw
  split at h
  · cases h
  rename_i l hl
  obtain ⟨⟨w', l'⟩, hs, rfl⟩ := Option.map_eq_some_iff.1 h
  unfold stepsLeft
  rw [List.map_set]
  exact foldr_add_set (by simp [hw]) (Worker.stepsLeft_step hs)

theorem bindings_step {m m' : Machine} {i : Nat} (h : m.step i = some m') :
    m'.bindings = m.bindings ∧ m'.locks.length = m.locks.length := by
  unfold step at h
  split at h
  · cases h
  rename_i w hw
  split at h
  · cases h
  rename_i l hl
  obtain ⟨⟨w', l'⟩, hs, rfl⟩ := Option.map_eq_some_iff.1 h
  refine ⟨?_, by simp⟩
  unfold bindings
  rw [List.map_set, Worker.binding_step hs]
  have hi : (m.workers.map Worker.binding)[i]? = some w.binding := by simp [hw]
  obtain ⟨hlt, he⟩ := List.getElem?_eq_some_iff.1 hi
  rw [← he, List.set_getElem_self]

theorem bindings_of_reaches {m m' : Machine} (h : m.Reaches m') :
    m'.bindings = m.bindings ∧ m'.locks.length = m.locks.length := by
  induction h with
  | refl => exact ⟨rfl, rfl⟩
  | tail i _ hs ih => exact ⟨(bindings_step hs).1.trans ih.1, (bindings_step hs).2.trans ih.2⟩

theorem length_workers_of_reaches {m m' : Machine} (h : m.Reaches m') :
    m'.workers.length = m.workers.length := by
  have := congrArg List.length (bindings_of_reaches h).1
  simpa [bindings] using this

/-! ## One order of steps -/

/-- Whether the worker at an index is asleep. -/
def isAsleep (m : Machine) (i : Nat) : Bool := m.workers[i]?.any (·.phase.isAsleep)

/-- Steps of one worker, `n` at most. It stops where it would wake up, unless it may. -/
def advance (mayWake : Bool) (i : Nat) : Nat → Machine → Machine
  | 0, m => m
  | n + 1, m =>
    if m.isAsleep i ∧ mayWake = false then m
    else match m.step i with
      | none => m
      | some m' => advance mayWake i n m'

/-- One worker after the other, each as far as it comes. -/
def pass (mayWake : Bool) (m : Machine) : Machine :=
  (List.range m.workers.length).foldl
    (fun m i => advance mayWake i ((m.workers[i]?.map Worker.stepsLeft).getD 0) m) m

/-- Passes until one changes nothing, `n` at most. -/
def settleFor (mayWake : Bool) : Nat → Machine → Machine
  | 0, m => m
  | n + 1, m =>
    let m' := pass mayWake m
    if m'.stepsLeft = m.stepsLeft then m' else settleFor mayWake n m'

/-- Run the workers until none of them can step, or none that is awake. -/
def settle (mayWake : Bool) (m : Machine) : Machine := settleFor mayWake m.stepsLeft m

/-- Wake all sleepers. -/
def wakeAll (m : Machine) : Machine :=
  (List.range m.workers.length).foldl
    (fun m i => if m.isAsleep i then (m.step i).getD m else m) m

/-- Run for some ticks, from a state in which nobody awake can step. -/
def elapse : Nat → Machine → Machine
  | 0, m => m
  | n + 1, m => if m.allEnded then m else elapse n (m.wakeAll.settle false)

/-! ## It is a run -/

theorem reaches_advance (mayWake : Bool) (i n : Nat) (m : Machine) :
    Reaches m (advance mayWake i n m) := by
  induction n generalizing m with
  | zero => exact .refl m
  | succ n ih =>
    unfold advance
    split
    · exact .refl m
    · split
      · exact .refl m
      · rename_i m' h
        exact (Reaches.tail i (.refl m) h).trans (ih m')

theorem reaches_foldl {f : Machine → Nat → Machine} (h : ∀ m i, Reaches m (f m i))
    (is : List Nat) (m : Machine) : Reaches m (is.foldl f m) := by
  induction is generalizing m with
  | nil => exact .refl m
  | cons i is ih => exact (h m i).trans (ih _)

theorem reaches_pass (mayWake : Bool) (m : Machine) : Reaches m (pass mayWake m) :=
  reaches_foldl (fun _ _ => reaches_advance ..) _ m

theorem reaches_settleFor (mayWake : Bool) (n : Nat) (m : Machine) :
    Reaches m (settleFor mayWake n m) := by
  induction n generalizing m with
  | zero => exact .refl m
  | succ n ih =>
    unfold settleFor
    simp only
    split
    · exact reaches_pass mayWake m
    · exact (reaches_pass mayWake m).trans (ih _)

theorem reaches_settle (mayWake : Bool) (m : Machine) : Reaches m (settle mayWake m) :=
  reaches_settleFor mayWake _ m

theorem reaches_wakeAll (m : Machine) : Reaches m (wakeAll m) := by
  refine reaches_foldl (fun m i => ?_) _ m
  split
  · cases h : m.step i with
    | none => exact .refl m
    | some m' => exact .tail i (.refl m) h
  · exact .refl m

theorem reaches_elapse (n : Nat) (m : Machine) : Reaches m (elapse n m) := by
  induction n generalizing m with
  | zero => exact .refl m
  | succ n ih =>
    unfold elapse
    split
    · exact .refl m
    · exact ((reaches_wakeAll m).trans (reaches_settle false _)).trans (ih _)

end Machine

end Standstill.Contention
