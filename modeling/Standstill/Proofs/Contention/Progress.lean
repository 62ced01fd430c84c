import Mathlib
import Standstill.Proofs.Contention.Runs

/-!
# Workers come to their end

As long as no other party keeps a permit, a worker that waits for its lock
waits for a worker that can step: the one that has the permit. Each step is
one step less to come, so no run goes on for ever, and the order of steps
that `settle` takes leads to a machine in which all workers have ended.

Results:
* `exists_step`: some worker can step unless all have ended.
* `stepsLeft_of_run`: how many steps a run of a length has left.
* `allEnded_settle`: settling runs all workers to their end.
* `lock_of_ended`, `worker_of_ended`: what locks and workers have counted then.
-/
namespace Standstill.Contention.Machine

section Steps
variable {goal : Nat → Nat} {m m' : Machine} {i : Nat} {w : Worker} {l : Lock}

/-! ## No other party -/

/-- No party but the workers has a permit. -/
def Unkept (m : Machine) : Prop := ∀ l ∈ m.locks, l.kept = 0

theorem unkept_step (hk : m.Unkept) (h : m.step i = some m') : m'.Unkept := by
  obtain ⟨w, l, w', l', -, hl, hstep, rfl⟩ := step_inv h
  intro k hmem
  rcases List.mem_or_eq_of_mem_set hmem with hmem | rfl
  · exact hk k hmem
  · exact (Worker.kept_step hstep).trans (hk l (List.mem_of_getElem? hl))

theorem unkept_of_reaches (hk : m.Unkept) (h : m.Reaches m') : m'.Unkept := by
  induction h with
  | refl => exact hk
  | tail _ _ hs ih => exact unkept_step ih hs

theorem unkept_of_fresh (h : m.Fresh) : m.Unkept := by
  intro l hl
  rw [h.locks l hl]

theorem sound_of_reaches (hs : m.Sound goal) (h : m.Reaches m') : m'.Sound goal := by
  obtain ⟨past, hpast⟩ := h.runs
  exact hpast.sound hs

/-! ## No deadlock -/

theorem exists_step_of (hw : m.workers[i]? = some w) (hl : m.locks[w.lock.toNat]? = some l)
    (h : (w.step l).isSome = true) : ∃ m', m.step i = some m' := by
  obtain ⟨x, hx⟩ := Option.isSome_iff_exists.1 h
  refine ⟨⟨m.locks.set w.lock.toNat x.2, m.workers.set i x.1⟩, ?_⟩
  simp only [step, hw, hl, hx, Option.map_some]

/-- A worker that has the permit waits for nobody. -/
theorem isSome_step_of_permits (h : 0 < w.permits) (l : Lock) : (w.step l).isSome = true := by
  rw [Worker.isSome_step]
  unfold Worker.permits at h
  constructor
  · intro hat
    rw [hat] at h
    exact absurd h (by decide)
  · intro hat
    rw [hat] at h
    exact absurd h (by decide)

/-- **No deadlock.** Whom a worker waits for can step. -/
theorem exists_step (hs : m.Sound goal) (hk : m.Unkept) (h : m.allEnded = false) :
    ∃ i m', m.step i = some m' := by
  obtain ⟨w, hmem, hnot⟩ := List.all_eq_false.1 h
  have hne : w.phase ≠ .ended := by simpa [Worker.hasEnded] using hnot
  obtain ⟨i, hw⟩ := List.getElem?_of_mem hmem
  obtain ⟨l, hl⟩ : ∃ l, m.locks[w.lock.toNat]? = some l :=
    ⟨_, List.getElem?_eq_getElem (hs.placed w hmem hne)⟩
  by_cases hsome : (w.step l).isSome = true
  · exact ⟨i, exists_step_of hw hl hsome⟩
  -- The lock is taken, and the worker that has it is one of the lock's.
  have htaken : l.semaphore.available.toNat = 0 := by
    by_contra hfree
    refine hsome ((Worker.isSome_step w l).2 ⟨hne, fun _ hz => hfree ?_⟩)
    rw [hz, UInt64.toNat_zero]
  have hpermit := (hs.locks _ _ hl).permit
  have hkept := hk l (List.mem_of_getElem? hl)
  have hsplit := tally_permits m.workers w.lock.toNat
  obtain ⟨j, v, hv, hlock, hpos⟩ := exists_of_tally_pos
    (show 0 < tally m.workers w.lock.toNat Worker.permits by omega)
  exact ⟨j, exists_step_of hv (hlock ▸ hl) (isSome_step_of_permits hpos l)⟩

end Steps

/-! ## No endless run -/

/-- Along a run each step is one step less to come. -/
theorem stepsLeft_of_run {run : Nat → Machine}
    (h : ∀ n, ∃ i, (run n).step i = some (run (n + 1))) (n : Nat) :
    (run n).stepsLeft + n = (run 0).stepsLeft := by
  induction n with
  | zero => rfl
  | succ n ih =>
    obtain ⟨i, hi⟩ := h n
    have := stepsLeft_step hi
    omega

theorem not_endless (run : Nat → Machine) :
    ¬∀ n, ∃ i, (run n).step i = some (run (n + 1)) := by
  intro h
  have := stepsLeft_of_run h ((run 0).stepsLeft + 1)
  omega

theorem stepsLeft_le_of_reaches {m m' : Machine} (h : m.Reaches m') :
    m'.stepsLeft ≤ m.stepsLeft := by
  induction h with
  | refl => exact Nat.le_refl _
  | tail _ _ hs ih =>
    have := stepsLeft_step hs
    omega

/-! ## Settling -/

theorem step_eq_none_of_stepsLeft {m : Machine} {i : Nat}
    (h : (m.workers[i]?.map Worker.stepsLeft).getD 0 = 0) : m.step i = none := by
  refine Option.eq_none_iff_forall_not_mem.2 fun m' hs => ?_
  obtain ⟨w, l, w', l', hw, -, hstep, -⟩ := step_inv hs
  have := Worker.stepsLeft_step hstep
  rw [hw, Option.map_some, Option.getD_some] at h
  omega

/-- A worker that is advanced steps if it can. -/
theorem advance_eq {i : Nat} {m : Machine}
    (h : (advance true i ((m.workers[i]?.map Worker.stepsLeft).getD 0) m).stepsLeft =
      m.stepsLeft) :
    advance true i ((m.workers[i]?.map Worker.stepsLeft).getD 0) m = m ∧ m.step i = none := by
  cases hn : (m.workers[i]?.map Worker.stepsLeft).getD 0 with
  | zero => exact ⟨rfl, step_eq_none_of_stepsLeft hn⟩
  | succ n =>
    rw [hn] at h
    unfold advance at h ⊢
    simp only [Bool.true_eq_false, and_false, if_false] at h ⊢
    cases hs : m.step i with
    | none => exact ⟨rfl, rfl⟩
    | some m' =>
      simp only [hs] at h
      have hle := stepsLeft_le_of_reaches (reaches_advance true i n m')
      have hless := stepsLeft_step hs
      omega

/-- If no turn of a fold made a step, nobody whose turn it was could. -/
theorem foldl_eq {f : Machine → Nat → Machine} (hreach : ∀ m i, Reaches m (f m i))
    (hf : ∀ {m i}, (f m i).stepsLeft = m.stepsLeft → f m i = m ∧ m.step i = none)
    {is : List Nat} {m : Machine} (h : (is.foldl f m).stepsLeft = m.stepsLeft) :
    is.foldl f m = m ∧ ∀ i ∈ is, m.step i = none := by
  induction is generalizing m with
  | nil => exact ⟨rfl, by simp⟩
  | cons i is ih =>
    rw [List.foldl_cons] at h ⊢
    have hfirst := stepsLeft_le_of_reaches (hreach m i)
    have hrest := stepsLeft_le_of_reaches (reaches_foldl hreach is (f m i))
    obtain ⟨hsame, hnone⟩ := hf (m := m) (i := i) (by omega)
    rw [hsame] at h ⊢
    obtain ⟨hall, hnobody⟩ := ih h
    exact ⟨hall, List.forall_mem_cons.2 ⟨hnone, hnobody⟩⟩

/-- Passes go on until no worker can step. -/
theorem step_settleFor {n : Nat} {m : Machine} (h : m.stepsLeft ≤ n) (i : Nat) :
    (settleFor true n m).step i = none := by
  induction n generalizing m with
  | zero =>
    refine Option.eq_none_iff_forall_not_mem.2 fun m' hs => ?_
    have := stepsLeft_step (m := m) hs
    omega
  | succ n ih =>
    unfold settleFor
    simp only
    split
    · rename_i hsame
      obtain ⟨hpass, hnobody⟩ := foldl_eq (fun _ _ => reaches_advance ..) advance_eq hsame
      rw [show pass true m = m from hpass]
      by_cases hi : i < m.workers.length
      · exact hnobody i (List.mem_range.2 hi)
      · simp only [step, List.getElem?_eq_none (Nat.not_lt.1 hi)]
    · rename_i hless
      have hle := stepsLeft_le_of_reaches (reaches_pass true m)
      exact ih (by omega)

/-- **Settling.** Workers that are run as far as they come, come to their end. -/
theorem allEnded_settle {goal : Nat → Nat} {m : Machine} (hs : m.Sound goal) (hk : m.Unkept) :
    (m.settle true).allEnded = true := by
  have hreach := reaches_settle true m
  by_contra hnot
  obtain ⟨i, m', hi⟩ := exists_step (sound_of_reaches hs hreach) (unkept_of_reaches hk hreach)
    (Bool.eq_false_iff.2 hnot)
  rw [settle, step_settleFor (Nat.le_refl _) i] at hi
  cases hi

/-! ## The end -/

theorem allEnded_iff {m : Machine} :
    m.allEnded = true ↔ ∀ w ∈ m.workers, w.phase = .ended := by
  simp [allEnded, Worker.hasEnded]

section Ended
variable {m n : Machine} {i j : Nat}

/-- Whatever workers have done since their beginning, they can come to their end. -/
theorem allEnded_settle_of_fresh (hfresh : m.Fresh) (h : m.Reaches n) :
    (n.settle true).allEnded = true := by
  have hsound := sound_of_reaches (sound_of_fresh hfresh) h
  exact allEnded_settle hsound (unkept_of_reaches (unkept_of_fresh hfresh) h)

/-- A lock whose workers have all ended is free and was taken as often as it was to be. -/
theorem lock_of_ended (hfresh : m.Fresh) (h : m.Reaches n) (hended : n.allEnded = true) {l : Lock}
    (hl : n.locks[j]? = some l) :
    l.semaphore.available = 1 ∧ l.holders = 0 ∧ l.acquisitions = UInt64.ofNat (m.goal j) ∧
      l.peakHolders = if 0 < m.goal j then 1 else 0 := by
  have hphase := allEnded_iff.1 hended
  have hsound := (sound_of_reaches (sound_of_fresh hfresh) h).locks j l hl
  have hkept := unkept_of_reaches (unkept_of_fresh hfresh) h l (List.mem_of_getElem? hl)
  have hsteps : ∀ p, tally n.workers j (Worker.toCome p) = 0 := fun p =>
    tally_eq_zero fun w hw _ => Worker.toCome_ended (hphase w hw) p
  have hholders : tally n.workers j Worker.holders = 0 := tally_eq_zero fun w hw _ => by
    rw [Worker.holders, hphase w hw]
    rfl
  have huncounted : tally n.workers j Worker.uncounted = 0 := tally_eq_zero fun w hw _ => by
    rw [Worker.uncounted, hphase w hw]
    rfl
  rw [hholders, huncounted, hsteps, hsteps] at hsound
  have hpermit := hsound.permit
  have hfree : l.semaphore.available = 1 :=
    UInt64.toNat_inj.1 (show l.semaphore.available.toNat = 1 by omega)
  exact ⟨hfree, UInt64.toNat_inj.1 hsound.holders_eq, hsound.acquisitions_eq, hsound.peak_eq⟩

/-- A worker that has ended has counted all its cycles. -/
theorem worker_of_ended (h : m.Reaches n) (hended : n.allEnded = true) {v : Worker}
    (hv : m.workers[i]? = some v) :
    ∃ w, n.workers[i]? = some w ∧ w.binding = v.binding ∧
      w.completed = v.completed + UInt32.ofNat (v.toCome .completing) := by
  obtain ⟨past, hpast⟩ := h.runs
  obtain ⟨w, hw, hsince⟩ := hpast.worker_at hv
  have hcompleted := hsince.completed
  rw [Worker.toCome_ended (allEnded_iff.1 hended w (List.mem_of_getElem? hw))] at hcompleted
  exact ⟨w, hw, hsince.binding, by simpa using hcompleted⟩

end Ended

end Standstill.Contention.Machine
