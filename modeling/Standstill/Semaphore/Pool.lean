import Standstill.Semaphore.Basic

/-!
# Threads at a semaphore

A thread that finds no permit available parks and sleeps until it is woken,
then checks the count again. Giving a permit back raises the count first and
wakes a parked thread in a step of its own. Any parked thread may also be
woken for no reason. Each action below is one indivisible step, and any
order of steps is a run.

Results:
* `isSome_step_of_free`: a thread outside any call can always take a step,
  so only parked threads wait.
-/
namespace Standstill.Semaphore

/-- Where a thread is. -/
inductive Standing
  /-- Outside any call. -/
  | free
  /-- Asleep until it is woken. -/
  | parked
  /-- Awake, about to check the count again. -/
  | woken
  /-- A permit is given back, a parked thread is not woken yet. -/
  | notifying
deriving Repr, DecidableEq

/-- A semaphore and the threads that use it. -/
structure Pool where
  semaphore : Semaphore
  /-- Permits that threads hold. -/
  permits : Nat
  threads : List Standing
deriving Repr, DecidableEq

/-- One step of one thread. -/
inductive Action
  /-- Take a permit if one is available, else go on without. -/
  | tryAcquire (thread : Nat)
  /-- Take a permit if one is available, else park. -/
  | acquire (thread : Nat)
  /-- A parked thread wakes for no reason. -/
  | rouse (thread : Nat)
  /-- A woken thread takes a permit if one is available, else it parks again. -/
  | recheck (thread : Nat)
  /-- Give a permit back. -/
  | release (thread : Nat)
  /-- Wake parked threads, at least one if there is one. -/
  | notify (thread : Nat) (woken : List Nat)
deriving Repr, DecidableEq

namespace Pool

/-- The state in which all permits are available and `n` threads are free. -/
def start (s : Semaphore) (n : Nat) : Pool := ⟨s, 0, List.replicate n .free⟩

def isAt (p : Pool) (thread : Nat) (s : Standing) : Bool := p.threads[thread]? == some s

/-- The pool with one thread moved. -/
def put (p : Pool) (thread : Nat) (s : Standing) : Pool :=
  { p with threads := p.threads.set thread s }

def parkedCount (p : Pool) : Nat := p.threads.count .parked

/-- A check of the count: a permit is taken and the thread is free, or it is at `otherwise`. -/
def check (p : Pool) (thread : Nat) (otherwise : Standing) : Pool :=
  match p.semaphore.tryAcquire with
  | some s => { p with semaphore := s, permits := p.permits + 1 }.put thread .free
  | none => p.put thread otherwise

/-- The pool after an action; `none` if the action is not possible. -/
def step (p : Pool) : Action → Option Pool
  | .tryAcquire i => if p.isAt i .free then some (p.check i .free) else none
  | .acquire i => if p.isAt i .free then some (p.check i .parked) else none
  | .rouse i => if p.isAt i .parked then some (p.put i .woken) else none
  | .recheck i => if p.isAt i .woken then some (p.check i .parked) else none
  | .release i =>
    if p.isAt i .free ∧ 0 < p.permits then
      some ({ p with
        semaphore := p.semaphore.release
        permits := p.permits - 1 }.put i .notifying)
    else none
  | .notify i woken =>
    if p.isAt i .notifying ∧ (∀ j ∈ woken, p.isAt j .parked) ∧
        (woken = [] → p.parkedCount = 0) then
      some ((woken.foldl (fun q j => q.put j .woken) p).put i .free)
    else none

/-- The pools that a run from `p` goes through. -/
inductive Reaches : Pool → Pool → Prop
  | refl (p : Pool) : Reaches p p
  | tail {p q r : Pool} (a : Action) : Reaches p q → q.step a = some r → Reaches p r

theorem isSome_step_of_free {p : Pool} {i : Nat} (h : p.isAt i .free = true) :
    (p.step (.acquire i)).isSome = true ∧ (p.step (.tryAcquire i)).isSome = true := by
  simp [step, h]

end Pool

end Standstill.Semaphore
