import Mathlib
import Standstill.Contention.Machine

/-!
# Tallies over the workers of a lock

What a lock counts is compared with where its workers are. A measure says
what one worker contributes: whether it is counted as a holder, whether it
has the permit without being counted, how often it will still step from a
given phase. A tally adds a measure up over the workers of one lock, and a
step of one worker changes it by what that worker's measure changes.

Results:
* `moves_of_step`: the steps of a worker, one by one.
* `toCome_step`: a step from a phase leaves one such step less to come.
* `tally_set`: how a tally changes with one worker.
-/
namespace Standstill.Contention

namespace Phase

/-- Whether a worker is counted as a holder here. -/
def isHolder : Phase → Bool
  | .counted _ | .raised | .holding | .leaving => true
  | .wanting | .entering | .releasing | .resting | .completing | .ended => false

/-- Whether a worker has the permit here without being counted as a holder. -/
def isUncounted : Phase → Bool
  | .entering | .releasing => true
  | .wanting | .counted _ | .raised | .holding | .leaving | .resting | .completing | .ended => false

/-- Whether the acquisition of a cycle under way is counted here, and the cycle is not. -/
def isUnderway : Phase → Bool
  | .holding | .leaving | .releasing | .resting | .completing => true
  | .wanting | .entering | .counted _ | .raised | .ended => false

theorem hasPermit_eq (p : Phase) :
    p.hasPermit.toNat = p.isHolder.toNat + p.isUncounted.toNat := by
  cases p <;> rfl

theorem rank_le (p : Phase) : p.rank ≤ Phase.wanting.rank := by
  cases p <;> simp [rank]

theorem rank_pos {p : Phase} (h : p ≠ .ended) : 0 < p.rank := by
  cases p <;> simp [rank] at h ⊢

end Phase

namespace Worker

/-- One step of a worker with its lock. -/
inductive Moves (w : Worker) (l : Lock) : Worker → Lock → Prop
  | take (s : Semaphore) (taken : l.semaphore.tryAcquire = some s) (at_ : w.phase = .wanting) :
    Moves w l (w.goTo .entering) { l with semaphore := s }
  | count (at_ : w.phase = .entering) :
    Moves w l (w.goTo (.counted (l.holders + 1))) { l with holders := l.holders + 1 }
  | raise (n : UInt64) (at_ : w.phase = .counted n) :
    Moves w l (w.goTo .raised) { l with peakHolders := max l.peakHolders n }
  | acquire (at_ : w.phase = .raised) :
    Moves w l (w.goTo .holding) { l with acquisitions := l.acquisitions + 1 }
  | wake (at_ : w.phase = .holding) : Moves w l (w.goTo .leaving) l
  | uncount (at_ : w.phase = .leaving) :
    Moves w l (w.goTo .releasing) { l with holders := l.holders - 1 }
  | release (at_ : w.phase = .releasing) :
    Moves w l (w.goTo .resting) { l with semaphore := l.semaphore.release }
  | rest (at_ : w.phase = .resting) : Moves w l (w.goTo .completing) l
  | complete (at_ : w.phase = .completing) : Moves w l w.complete l

theorem moves_of_step {w w' : Worker} {l l' : Lock} (h : w.step l = some (w', l')) :
    w.Moves l w' l' := by
  cases hp : w.phase <;> simp only [step, hp, Option.map_eq_some_iff, Option.some.injEq,
    Prod.mk.injEq, reduceCtorEq] at h
  case wanting =>
    obtain ⟨s, hs, rfl, rfl⟩ := h
    exact .take s hs hp
  case entering => obtain ⟨rfl, rfl⟩ := h; exact .count hp
  case counted n => obtain ⟨rfl, rfl⟩ := h; exact .raise n hp
  case raised => obtain ⟨rfl, rfl⟩ := h; exact .acquire hp
  case holding => obtain ⟨rfl, rfl⟩ := h; exact .wake hp
  case leaving => obtain ⟨rfl, rfl⟩ := h; exact .uncount hp
  case releasing => obtain ⟨rfl, rfl⟩ := h; exact .release hp
  case resting => obtain ⟨rfl, rfl⟩ := h; exact .rest hp
  case completing => obtain ⟨rfl, rfl⟩ := h; exact .complete hp

theorem kept_step {w w' : Worker} {l l' : Lock} (h : w.step l = some (w', l')) :
    l'.kept = l.kept := by
  cases moves_of_step h <;> rfl

/-! ## Measures -/

/-- One for a worker that is counted as a holder. -/
def holders (w : Worker) : Nat := w.phase.isHolder.toNat

/-- One for a worker that has the permit without being counted as a holder. -/
def uncounted (w : Worker) : Nat := w.phase.isUncounted.toNat

/-- One for a worker that has the permit. -/
def permits (w : Worker) : Nat := w.phase.hasPermit.toNat

/-- How often a worker will still step from a phase that is as far on as `p`. -/
def toCome (p : Phase) (w : Worker) : Nat :=
  if w.phase = .ended then 0 else w.later + if p.rank ≤ w.phase.rank then 1 else 0

/-- One for a worker that has counted an acquisition and not its cycle yet. -/
def underway (w : Worker) : Nat := w.phase.isUnderway.toNat

theorem permits_eq (w : Worker) : w.permits = w.holders + w.uncounted := w.phase.hasPermit_eq

theorem toCome_ended {w : Worker} (h : w.phase = .ended) (p : Phase) : w.toCome p = 0 := by
  simp [toCome, h]

theorem toCome_at {w : Worker} {q : Phase} (h : w.phase = q) (hq : q ≠ .ended) (p : Phase) :
    w.toCome p = w.later + if p.rank ≤ q.rank then 1 else 0 := by
  subst h
  simp only [toCome, hq, if_false]

theorem toCome_goTo (w : Worker) {q : Phase} (hq : q ≠ .ended) (p : Phase) :
    (w.goTo q).toCome p = w.later + if p.rank ≤ q.rank then 1 else 0 :=
  toCome_at rfl hq p

/-- The later a step comes in a cycle, the more of it is still to come. -/
theorem toCome_le {p q : Phase} (h : p.rank ≤ q.rank) (w : Worker) : w.toCome q ≤ w.toCome p := by
  unfold toCome
  split
  · exact Nat.le_refl _
  · split <;> split <;> omega

theorem toCome_eq_zero_iff (w : Worker) : w.toCome .completing = 0 ↔ w.phase = .ended := by
  refine ⟨fun h => ?_, fun h => toCome_ended h _⟩
  by_contra hne
  have hle : Phase.completing.rank ≤ w.phase.rank := Phase.rank_pos hne
  rw [toCome_at rfl hne, if_pos hle] at h
  omega

/-- The cycles still to be counted are the acquisitions to come and the cycle under way. -/
theorem toCome_completing (w : Worker) : w.toCome .completing = w.toCome .raised + w.underway := by
  cases hat : w.phase with
  | ended => rw [toCome_ended hat, toCome_ended hat, underway, hat]; rfl
  | _ =>
    rw [toCome_at hat (by simp), toCome_at hat (by simp), underway, hat]
    simp [Phase.isUnderway, Phase.rank]

/-- Before a cycle begins, each of its steps is to come as often as the cycle. -/
theorem toCome_eq {w : Worker} (h : w.phase = .wanting ∨ w.phase = .ended) {p q : Phase} :
    w.toCome p = w.toCome q := by
  have hp := p.rank_le
  have hq := q.rank_le
  rcases h with h | h <;> simp [toCome, h, hp, hq]

theorem toCome_start (index lock : UInt64) (hasLock : Bool) (cycles completed : UInt32)
    (p : Phase) :
    (start index lock hasLock cycles completed).toCome p =
      if hasLock then cycles.toNat else 0 := by
  have hp := p.rank_le
  by_cases hc : cycles = 0
  · cases hasLock <;> simp [toCome, start, hc]
  · have hpos : 0 < cycles.toNat := by
      refine Nat.pos_of_ne_zero fun hz => hc (UInt32.toNat_inj.1 (by simpa using hz))
    cases hasLock
    · simp [toCome, start]
    · simp only [toCome, start, hc, ne_eq, not_false_eq_true, and_self, if_true, reduceCtorEq,
        if_false, hp]
      omega

/-- **Steps to come.** A step from a phase is one step less to come from there. -/
theorem toCome_step {w w' : Worker} {l l' : Lock} {p : Phase} (hp : p ≠ .ended)
    (h : w.step l = some (w', l')) :
    w'.toCome p + (if w.phase.rank = p.rank then 1 else 0) = w.toCome p := by
  have hpos := Phase.rank_pos hp
  have hle : p.rank ≤ 9 := p.rank_le
  cases moves_of_step h with
  | complete hat =>
    unfold complete
    rw [toCome_at hat (by simp), hat]
    cases hl : w.later with
    | zero =>
      rw [toCome_ended rfl]
      generalize p.rank = k at *
      split_ifs <;> simp only [Phase.rank] at * <;> omega
    | succ n =>
      rw [toCome_at rfl (by simp)]
      generalize p.rank = k at *
      split_ifs <;> simp only [Phase.rank] at * <;> omega
  | _ =>
    rename_i hat
    rw [toCome_at hat (by simp), toCome_goTo w (by simp), hat]
    generalize p.rank = k at *
    split_ifs <;> simp only [Phase.rank] at * <;> omega

/-- What a worker counts goes up as its cycles to come go down. -/
theorem completed_step {w w' : Worker} {l l' : Lock} (h : w.step l = some (w', l')) :
    w'.completed + UInt32.ofNat (w'.toCome .completing) =
      w.completed + UInt32.ofNat (w.toCome .completing) := by
  cases moves_of_step h with
  | complete hat =>
    unfold complete
    rw [toCome_at hat (by simp), if_pos (Nat.le_refl _)]
    cases hl : w.later with
    | zero =>
      rw [toCome_ended rfl]
      simp
    | succ n =>
      rw [toCome_at rfl (by simp), if_pos (Phase.rank_le _), UInt32.add_assoc,
        show n + 1 + 1 = 1 + (n + 1) by omega, UInt32.ofNat_add 1 (n + 1)]
      rfl
  | _ =>
    rename_i hat
    rw [toCome_at hat (by simp), toCome_goTo w (by simp), if_pos (by simp [Phase.rank]),
      if_pos (by simp [Phase.rank])]
    rfl

end Worker

/-! ## Tallies -/

/-- A measure added up over the workers of the lock `j`. -/
def tally (ws : List Worker) (j : Nat) (f : Worker → Nat) : Nat :=
  (ws.map fun w => if w.lock.toNat = j then f w else 0).sum

section Tally
variable {ws : List Worker} {i j : Nat} {w w' : Worker} {f g : Worker → Nat}

theorem sum_map_set {α : Type} {xs : List α} {i : Nat} {x : α} (g : α → Nat) (h : xs[i]? = some x)
    (y : α) : ((xs.set i y).map g).sum + g x = (xs.map g).sum + g y := by
  obtain ⟨hi, rfl⟩ := List.getElem?_eq_some_iff.1 h
  have hi' : i < (xs.map g).length := by rwa [List.length_map]
  -- The list itself is the list with the entry put back.
  have hold := List.sum_set (xs.map g) i (g xs[i])
  rw [← List.getElem_map g (h := hi'), List.set_getElem_self, List.getElem_map] at hold
  rw [List.map_set, List.sum_set, hold, if_pos hi', if_pos hi']
  omega

/-- A tally changes with one worker by what that worker's measure changes. -/
theorem tally_set (f : Worker → Nat) (h : ws[i]? = some w) (hl : w'.lock = w.lock)
    (hj : w.lock.toNat = j) : tally (ws.set i w') j f + f w = tally ws j f + f w' := by
  have := sum_map_set (fun w => if w.lock.toNat = j then f w else 0) h w'
  simpa only [tally, hl, hj, if_true] using this

/-- The workers of other locks do not count. -/
theorem tally_set_ne (f : Worker → Nat) (h : ws[i]? = some w) (hl : w'.lock = w.lock)
    (hj : w.lock.toNat ≠ j) : tally (ws.set i w') j f = tally ws j f := by
  have := sum_map_set (fun w => if w.lock.toNat = j then f w else 0) h w'
  simpa only [tally, hl, hj, if_false, Nat.add_zero] using this

theorem le_tally (f : Worker → Nat) (h : ws[i]? = some w) (hj : w.lock.toNat = j) :
    f w ≤ tally ws j f := by
  have hmem := List.mem_map_of_mem (f := fun w => if w.lock.toNat = j then f w else 0)
    (List.mem_of_getElem? h)
  have := List.single_le_sum (fun _ _ => Nat.zero_le _) _ hmem
  simpa only [tally, hj, if_true] using this

theorem exists_tally_eq (f : Worker → Nat) (h : ws[i]? = some w) (hj : w.lock.toNat = j) :
    ∃ rest, tally ws j f = rest + f w :=
  have hle := le_tally f h hj
  ⟨tally ws j f - f w, by omega⟩

/-- A tally is that of the other workers and what one worker contributes, before it steps and
after. -/
theorem tally_split (f : Worker → Nat) (h : ws[i]? = some w) (hl : w'.lock = w.lock)
    (hj : w.lock.toNat = j) :
    ∃ rest, tally ws j f = rest + f w ∧ tally (ws.set i w') j f = rest + f w' := by
  obtain ⟨rest, hrest⟩ := exists_tally_eq f h hj
  have hset := tally_set f h hl hj
  exact ⟨rest, hrest, by omega⟩

theorem tally_le_tally (h : ∀ w ∈ ws, w.lock.toNat = j → f w ≤ g w) :
    tally ws j f ≤ tally ws j g := by
  refine List.sum_le_sum fun w hw => ?_
  split
  · rename_i hj
    exact h w hw hj
  · exact Nat.le_refl 0

theorem tally_congr (h : ∀ w ∈ ws, w.lock.toNat = j → f w = g w) : tally ws j f = tally ws j g :=
  Nat.le_antisymm (tally_le_tally fun w hw hj => Nat.le_of_eq (h w hw hj))
    (tally_le_tally fun w hw hj => Nat.le_of_eq (h w hw hj).symm)

theorem tally_add (ws : List Worker) (j : Nat) (f g : Worker → Nat) :
    tally ws j (fun w => f w + g w) = tally ws j f + tally ws j g := by
  induction ws with
  | nil => rfl
  | cons w ws ih =>
    simp only [tally, List.map_cons, List.sum_cons] at ih ⊢
    split <;> omega

theorem tally_eq_zero (h : ∀ w ∈ ws, w.lock.toNat = j → f w = 0) : tally ws j f = 0 := by
  refine List.sum_eq_zero fun x hx => ?_
  obtain ⟨w, hw, rfl⟩ := List.mem_map.1 hx
  split
  · rename_i hj
    exact h w hw hj
  · rfl

theorem tally_permits (ws : List Worker) (j : Nat) :
    tally ws j Worker.permits = tally ws j Worker.holders + tally ws j Worker.uncounted := by
  rw [← tally_add]
  exact tally_congr fun w _ _ => w.permits_eq

theorem tally_completing (ws : List Worker) (j : Nat) :
    tally ws j (Worker.toCome .completing) =
      tally ws j (Worker.toCome .raised) + tally ws j Worker.underway := by
  rw [← tally_add]
  exact tally_congr fun w _ _ => w.toCome_completing

theorem exists_of_tally_pos (h : 0 < tally ws j f) :
    ∃ (i : Nat) (w : Worker), ws[i]? = some w ∧ w.lock.toNat = j ∧ 0 < f w := by
  by_contra hnone
  refine Nat.ne_of_gt h (tally_eq_zero fun w hw hj => ?_)
  obtain ⟨i, hi⟩ := List.getElem?_of_mem hw
  by_contra hf
  exact hnone ⟨i, w, hi, hj, Nat.pos_of_ne_zero hf⟩

end Tally

end Standstill.Contention
