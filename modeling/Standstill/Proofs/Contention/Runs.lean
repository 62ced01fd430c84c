import Mathlib
import Standstill.Proofs.Contention.Counters

/-!
# What is true in every run

Workers share a set of locks, and other parties keep a lock's permit for a
while. Any of them may take the next step. `Machine.Sound` says at each
moment what the counters of every lock are, in terms of where its workers
are; a run records from which phases the workers stepped, so that the
counters can also be told from what has happened.

Results:
* `sound_worker`, `sound_keep`, `sound_giveBack`: each step keeps `Sound`.
* `counters_step_of_kept`: nothing is counted at a lock that is kept.
* `Runs.sound`, `Runs.worker_at`: what a run keeps of the whole and of a worker.
-/
namespace Standstill.Contention

namespace Machine

/-! ## Steps -/

section Inversion
variable {m m' : Machine} {i j : Nat}

theorem step_inv (h : m.step i = some m') :
    ∃ w l w' l', m.workers[i]? = some w ∧ m.locks[w.lock.toNat]? = some l ∧
      w.step l = some (w', l') ∧ m' = ⟨m.locks.set w.lock.toNat l', m.workers.set i w'⟩ := by
  unfold step at h
  split at h
  · cases h
  rename_i w hw
  split at h
  · cases h
  rename_i l hl
  obtain ⟨⟨w', l'⟩, hs, rfl⟩ := Option.map_eq_some_iff.1 h
  exact ⟨w, l, w', l', hw, hl, hs, rfl⟩

theorem keep_inv (h : m.keep j = some m') :
    ∃ l l', m.locks[j]? = some l ∧ l.keep = some l' ∧
      m' = { m with locks := m.locks.set j l' } := by
  unfold keep at h
  split at h
  · cases h
  rename_i l hl
  obtain ⟨l', hs, rfl⟩ := Option.map_eq_some_iff.1 h
  exact ⟨l, l', hl, hs, rfl⟩

theorem giveBack_inv (h : m.giveBack j = some m') :
    ∃ l l', m.locks[j]? = some l ∧ l.giveBack = some l' ∧
      m' = { m with locks := m.locks.set j l' } := by
  unfold giveBack at h
  split at h
  · cases h
  rename_i l hl
  obtain ⟨l', hs, rfl⟩ := Option.map_eq_some_iff.1 h
  exact ⟨l, l', hl, hs, rfl⟩

end Inversion

/-! ## What is true at each moment -/

/-- What is true of a machine when the workers of the lock `j` take it `goal j` times in all. -/
structure Sound (goal : Nat → Nat) (m : Machine) : Prop where
  /-- A worker counted itself only. -/
  counted : ∀ w ∈ m.workers, ∀ n, w.phase = .counted n → n = 1
  /-- A worker that has not ended has a lock of the set. -/
  placed : ∀ w ∈ m.workers, w.phase ≠ .ended → w.lock.toNat < m.locks.length
  locks : ∀ (j : Nat) (l : Lock), m.locks[j]? = some l →
    l.Sound (tally m.workers j Worker.holders) (tally m.workers j Worker.uncounted)
      (tally m.workers j (Worker.toCome (.counted 1))) (tally m.workers j (Worker.toCome .raised))
      (goal j)

section Steps
variable {goal : Nat → Nat} {m m' : Machine} {i j : Nat}

theorem sound_worker (hs : m.Sound goal) (h : m.step i = some m') : m'.Sound goal := by
  obtain ⟨w, l, w', l', hw, hl, hstep, rfl⟩ := step_inv h
  have hmem := List.mem_of_getElem? hw
  have hlock : w'.lock = w.lock := congrArg Prod.snd (Worker.binding_step hstep)
  have hlt : w.lock.toNat < m.locks.length := (List.getElem?_eq_some_iff.1 hl).1
  -- The lock of the worker that steps, with the other workers left as they are.
  have hown : l'.Sound (tally (m.workers.set i w') w.lock.toNat Worker.holders)
      (tally (m.workers.set i w') w.lock.toNat Worker.uncounted)
      (tally (m.workers.set i w') w.lock.toNat (Worker.toCome (.counted 1)))
      (tally (m.workers.set i w') w.lock.toNat (Worker.toCome .raised)) (goal w.lock.toNat) ∧
      ∀ n, w'.phase = .counted n → n = 1 := by
    have hsound := hs.locks _ _ hl
    obtain ⟨H, hH, hH'⟩ := tally_split Worker.holders hw hlock rfl
    obtain ⟨U, hU, hU'⟩ := tally_split Worker.uncounted hw hlock rfl
    obtain ⟨R, hR, hR'⟩ := tally_split (Worker.toCome (.counted 1)) hw hlock rfl
    obtain ⟨T, hT, hT'⟩ := tally_split (Worker.toCome .raised) hw hlock rfl
    rw [hH, hU, hR, hT] at hsound
    rw [hH', hU', hR', hT']
    exact hsound.step (hs.counted w hmem) hstep
  refine ⟨?_, ?_, ?_⟩
  · intro x hx
    rcases List.mem_or_eq_of_mem_set hx with hx | rfl
    · exact hs.counted x hx
    · exact hown.2
  · intro x hx hne
    rw [List.length_set]
    rcases List.mem_or_eq_of_mem_set hx with hx | rfl
    · exact hs.placed x hx hne
    · exact hlock ▸ hlt
  · intro j k hk
    by_cases hj : w.lock.toNat = j
    · subst hj
      rw [List.getElem?_set_self hlt] at hk
      cases hk
      exact hown.1
    · rw [List.getElem?_set_ne hj] at hk
      simp only [tally_set_ne _ hw hlock hj]
      exact hs.locks j k hk

theorem sound_set {l l' : Lock} (hs : m.Sound goal) (hl : m.locks[j]? = some l)
    (h : ∀ {a b c d g : Nat}, l.Sound a b c d g → l'.Sound a b c d g) :
    ({ m with locks := m.locks.set j l' } : Machine).Sound goal := by
  have hlt := (List.getElem?_eq_some_iff.1 hl).1
  refine ⟨hs.counted, ?_, ?_⟩
  · intro x hx hne
    show x.lock.toNat < (m.locks.set j l').length
    rw [List.length_set]
    exact hs.placed x hx hne
  · intro k l'' hk
    replace hk : (m.locks.set j l')[k]? = some l'' := hk
    by_cases hj : j = k
    · subst hj
      rw [List.getElem?_set_self hlt] at hk
      cases hk
      exact h (hs.locks _ _ hl)
    · rw [List.getElem?_set_ne hj] at hk
      exact hs.locks k l'' hk

theorem sound_keep (hs : m.Sound goal) (h : m.keep j = some m') : m'.Sound goal := by
  obtain ⟨l, l', hl, hkeep, rfl⟩ := keep_inv h
  exact sound_set hs hl fun hsound => hsound.keep hkeep

theorem sound_giveBack (hs : m.Sound goal) (h : m.giveBack j = some m') : m'.Sound goal := by
  obtain ⟨l, l', hl, hgive, rfl⟩ := giveBack_inv h
  exact sound_set hs hl fun hsound => hsound.giveBack hgive

/-- **Kept locks.** While another party keeps the permit of a lock, nothing is counted there. -/
theorem counters_step_of_kept (hs : m.Sound goal) {l : Lock} (hl : m.locks[j]? = some l)
    (hkept : 0 < l.kept) (h : m.Step m') :
    ∃ l', m'.locks[j]? = some l' ∧ l'.counters = l.counters := by
  have hlt := (List.getElem?_eq_some_iff.1 hl).1
  -- Only a step at this very lock could change it.
  have hset : ∀ {i : Nat} {k k' : Lock}, m.locks[i]? = some k →
      (i = j → k'.counters = k.counters) →
      ∃ l', (m.locks.set i k')[j]? = some l' ∧ l'.counters = l.counters := by
    intro i k k' hk hsame
    by_cases hij : i = j
    · subst hij
      obtain rfl := Option.some.inj (hk.symm.trans hl)
      exact ⟨k', List.getElem?_set_self hlt, hsame rfl⟩
    · exact ⟨l, (List.getElem?_set_ne hij).trans hl, rfl⟩
  cases h with
  | worker i h =>
    obtain ⟨w, k, w', k', hw, hk, hstep, rfl⟩ := step_inv h
    refine hset hk fun hij => ?_
    subst hij
    obtain rfl := Option.some.inj (hk.symm.trans hl)
    have hpermit := (hs.locks _ _ hk).permit
    obtain ⟨H, hH⟩ := exists_tally_eq Worker.holders hw rfl
    obtain ⟨U, hU⟩ := exists_tally_eq Worker.uncounted hw rfl
    rw [hH, hU] at hpermit
    exact Lock.counters_moves_of_kept (Worker.moves_of_step hstep) hpermit hkept
  | keep i h =>
    obtain ⟨k, k', hk, hkeep, rfl⟩ := keep_inv h
    exact hset hk fun _ => Lock.counters_keep hkeep
  | giveBack i h =>
    obtain ⟨k, k', hk, hgive, rfl⟩ := giveBack_inv h
    exact hset hk fun _ => Lock.counters_giveBack hgive

end Steps

/-! ## The beginning -/

/-- New locks, and workers that have not begun. A worker without a lock has nothing to do. -/
structure Fresh (m : Machine) : Prop where
  locks : ∀ l ∈ m.locks, l = {}
  workers : ∀ w ∈ m.workers, w.phase = .ended ∨ w.phase = .wanting ∧ w.lock.toNat < m.locks.length

/-- How often the workers of the lock `j` will take it. -/
def goal (m : Machine) (j : Nat) : Nat := tally m.workers j (Worker.toCome .completing)

theorem Fresh.tally_toCome {m : Machine} (h : m.Fresh) (j : Nat) (p : Phase) :
    tally m.workers j (Worker.toCome p) = m.goal j :=
  tally_congr fun w hw _ => Worker.toCome_eq ((h.workers w hw).elim .inr fun hat => .inl hat.1)

theorem sound_of_fresh {m : Machine} (h : m.Fresh) : m.Sound m.goal := by
  have hphase : ∀ w ∈ m.workers, w.phase = .wanting ∨ w.phase = .ended :=
    fun w hw => (h.workers w hw).elim .inr fun hat => .inl hat.1
  refine ⟨?_, ?_, ?_⟩
  · intro w hw n hn
    rcases hphase w hw with hat | hat <;> rw [hat] at hn <;> cases hn
  · intro w hw hne
    exact ((h.workers w hw).resolve_left hne).2
  · intro j l hl
    have hholders : tally m.workers j Worker.holders = 0 := tally_eq_zero fun w hw _ => by
      rcases hphase w hw with hat | hat <;> simp only [Worker.holders, hat, Phase.isHolder] <;> rfl
    have huncounted : tally m.workers j Worker.uncounted = 0 := tally_eq_zero fun w hw _ => by
      rcases hphase w hw with hat | hat <;> simp only [Worker.uncounted, hat, Phase.isUncounted] <;> rfl
    rw [h.locks l (List.mem_of_getElem? hl), hholders, huncounted, h.tally_toCome, h.tally_toCome]
    exact ⟨rfl, rfl, rfl, by simp, by simp, Nat.le_refl _, Nat.le_refl _⟩

/-! ## Runs -/

/-- Runs in which any party may take each step. Of the steps of workers the
run says in order who stepped and from which phase. -/
inductive Runs (m : Machine) : List (Nat × Phase) → Machine → Prop
  | refl : Runs m [] m
  | worker {past : List (Nat × Phase)} {n k : Machine} {i : Nat} {w : Worker} :
    Runs m past n → n.workers[i]? = some w → n.step i = some k →
      Runs m (past ++ [(i, w.phase)]) k
  | keep {past : List (Nat × Phase)} {n k : Machine} {j : Nat} :
    Runs m past n → n.keep j = some k → Runs m past k
  | giveBack {past : List (Nat × Phase)} {n k : Machine} {j : Nat} :
    Runs m past n → n.giveBack j = some k → Runs m past k

/-- Each step of any party goes on with a run. -/
theorem Runs.step {m n k : Machine} {past : List (Nat × Phase)} (h : m.Runs past n)
    (hs : n.Step k) : ∃ past', m.Runs past' k := by
  cases hs with
  | worker i hi =>
    obtain ⟨w, _, _, _, hw, -⟩ := step_inv hi
    exact ⟨_, h.worker hw hi⟩
  | keep j hj => exact ⟨_, h.keep hj⟩
  | giveBack j hj => exact ⟨_, h.giveBack hj⟩

/-- A run of the workers alone is one in which the other parties do nothing. -/
theorem Reaches.runs {m k : Machine} (h : m.Reaches k) : ∃ past, m.Runs past k := by
  induction h with
  | refl => exact ⟨[], .refl⟩
  | tail i _ hs ih => exact ih.choose_spec.step (.worker i hs)

/-- **Runs.** Whoever takes the steps, what was true stays true. -/
theorem Runs.sound {goal : Nat → Nat} {m k : Machine} {past : List (Nat × Phase)}
    (h : m.Runs past k) (hs : m.Sound goal) : k.Sound goal := by
  induction h with
  | refl => exact hs
  | worker _ _ hstep ih => exact sound_worker ih hstep
  | keep _ hstep ih => exact sound_keep ih hstep
  | giveBack _ hstep ih => exact sound_giveBack ih hstep

theorem Runs.length_locks {m k : Machine} {past : List (Nat × Phase)} (h : m.Runs past k) :
    k.locks.length = m.locks.length := by
  induction h with
  | refl => rfl
  | worker _ _ hstep ih => exact (bindings_step hstep).2.trans ih
  | keep _ hstep ih =>
    obtain ⟨_, _, _, _, rfl⟩ := keep_inv hstep
    rw [List.length_set, ih]
  | giveBack _ hstep ih =>
    obtain ⟨_, _, _, _, rfl⟩ := giveBack_inv hstep
    rw [List.length_set, ih]

theorem Runs.length_workers {m k : Machine} {past : List (Nat × Phase)} (h : m.Runs past k) :
    k.workers.length = m.workers.length := by
  induction h with
  | refl => rfl
  | worker _ _ hstep ih =>
    obtain ⟨_, _, _, _, _, _, _, rfl⟩ := step_inv hstep
    rw [List.length_set, ih]
  | keep _ hstep ih =>
    obtain ⟨_, _, _, _, rfl⟩ := keep_inv hstep
    exact ih
  | giveBack _ hstep ih =>
    obtain ⟨_, _, _, _, rfl⟩ := giveBack_inv hstep
    exact ih

/-- A worker `w` that was `v` once and has stepped from the phase `p` for `steps p` times since. -/
structure Since (v : Worker) (steps : Phase → Nat) (w : Worker) : Prop where
  binding : w.binding = v.binding
  completed : w.completed + UInt32.ofNat (w.toCome .completing) =
    v.completed + UInt32.ofNat (v.toCome .completing)
  raised : steps .raised + w.toCome .raised = v.toCome .raised
  completing : steps .completing + w.toCome .completing = v.toCome .completing

theorem Since.step {v w w' : Worker} {l l' : Lock} {steps : Phase → Nat} (h : Since v steps w)
    (hs : w.step l = some (w', l')) :
    Since v (fun p => steps p + if w.phase = p then 1 else 0) w' := by
  have hraised := Worker.toCome_step (p := .raised) (by simp) hs
  have hcompleting := Worker.toCome_step (p := .completing) (by simp) hs
  have hr : w.phase.rank = Phase.raised.rank ↔ w.phase = .raised := by
    cases w.phase <;> simp [Phase.rank]
  have hc : w.phase.rank = Phase.completing.rank ↔ w.phase = .completing := by
    cases w.phase <;> simp [Phase.rank]
  simp only [hr] at hraised
  simp only [hc] at hcompleting
  have hraised' := h.raised
  have hcompleting' := h.completing
  exact ⟨(Worker.binding_step hs).trans h.binding, (Worker.completed_step hs).trans h.completed,
    by omega, by omega⟩

/-- **One worker in a run.** What it has counted is told by the steps it took. -/
theorem Runs.worker_at {m k : Machine} {past : List (Nat × Phase)} (h : m.Runs past k) {i : Nat}
    {v : Worker} (hv : m.workers[i]? = some v) :
    ∃ w, k.workers[i]? = some w ∧ Since v (fun p => past.count (i, p)) w := by
  induction h with
  | refl => exact ⟨v, hv, rfl, rfl, by simp, by simp⟩
  | @worker past n k j u _ hu hstep ih =>
    obtain ⟨w, hw, hsince⟩ := ih
    obtain ⟨u', l, w', l', hu', hl, hs, rfl⟩ := step_inv hstep
    obtain rfl := Option.some.inj (hu.symm.trans hu')
    by_cases hij : j = i
    · subst hij
      obtain rfl := Option.some.inj (hu.symm.trans hw)
      have hlt := (List.getElem?_eq_some_iff.1 hu).1
      refine ⟨w', List.getElem?_set_self hlt, ?_⟩
      have hafter := hsince.step hs
      simpa only [List.count_append, List.count_singleton, beq_iff_eq, Prod.mk.injEq,
        true_and] using hafter
    · refine ⟨w, (List.getElem?_set_ne hij).trans hw, ?_⟩
      simpa only [List.count_append, List.count_singleton, beq_iff_eq, Prod.mk.injEq, hij,
        false_and, if_false, Nat.add_zero] using hsince
  | keep _ hstep ih =>
    obtain ⟨_, _, _, _, rfl⟩ := keep_inv hstep
    exact ih
  | giveBack _ hstep ih =>
    obtain ⟨_, _, _, _, rfl⟩ := giveBack_inv hstep
    exact ih

end Machine

end Standstill.Contention
