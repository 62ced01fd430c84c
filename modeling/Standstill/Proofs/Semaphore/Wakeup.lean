import Mathlib
import Standstill.Semaphore.Pool

/-!
# No permit is lost and no wake-up either

Threads take permits, park, wake and give permits back in any order. The
step that raises the count and the step that wakes a parked thread are apart,
so there are moments at which a permit is available and a thread is parked.
`Sound` says what is true at each moment: permits available and permits held
add up to what the semaphore was made with, and while anybody is parked each
available permit has a thread of its own that is awake for it or is about to
wake somebody.

Results:
* `sound_step`, `sound_of_reaches`: each step keeps `Sound`, so each run does.
* `wake_step`: a notification wakes somebody if anybody is parked.
* `permits_conserved_and_wakeups_kept`: what that means for the count, for
  giving permits back and for parked threads.
-/
namespace Standstill.Semaphore.Pool

def wokenCount (p : Pool) : Nat := p.threads.count .woken

def notifyingCount (p : Pool) : Nat := p.threads.count .notifying

/-- What is true of a semaphore made with `initial` permits at each moment. -/
structure Sound (initial : UInt64) (p : Pool) : Prop where
  initial_eq : p.semaphore.initial = initial
  conserved : p.semaphore.available.toNat + p.permits = initial.toNat
  /-- A permit is not left lying while somebody sleeps for it. -/
  served : 0 < p.parkedCount →
    p.semaphore.available.toNat ≤ p.wokenCount + p.notifyingCount

/-! ## Moving one thread -/

section Put
variable {p : Pool} {i : Nat}

theorem isAt_iff {a : Standing} : p.isAt i a = true ↔ p.threads[i]? = some a := by
  simp [isAt]

/-- A thread that moves from `a` to `b` is counted at `b` and no longer at `a`. -/
theorem count_put {a : Standing} (h : p.isAt i a = true) (b c : Standing) :
    (p.put i b).threads.count c + (if a = c then 1 else 0) =
      p.threads.count c + (if b = c then 1 else 0) := by
  obtain ⟨hi, ha⟩ := List.getElem?_eq_some_iff.1 (isAt_iff.1 h)
  have hset := List.count_set (l := p.threads) (a := b) (b := c) hi
  rw [ha] at hset
  by_cases hac : a = c
  · have hpos : 0 < p.threads.count c := List.count_pos_iff.2 (hac ▸ ha ▸ List.getElem_mem hi)
    simp only [put, hset, hac, beq_self_eq_true, if_true, beq_iff_eq]
    omega
  · simp only [put, hset, hac, beq_iff_eq, if_false]
    omega

theorem isAt_put_ne {j : Nat} (h : i ≠ j) (a b : Standing) : (p.put i b).isAt j a = p.isAt j a := by
  simp [isAt, put, List.getElem?_set_ne h]

theorem isAt_put_self {a : Standing} (h : p.isAt i a = true) (b : Standing) :
    (p.put i b).isAt i b = true := by
  obtain ⟨hi, -⟩ := List.getElem?_eq_some_iff.1 (isAt_iff.1 h)
  simp [isAt, put, List.getElem?_set_self hi]

/-- A thread that is parked or awake is so still when some thread has been woken. -/
theorem isAt_put_woken {j : Nat} (h : p.isAt j .parked = true ∨ p.isAt j .woken = true) :
    (p.put i .woken).isAt j .parked = true ∨ (p.put i .woken).isAt j .woken = true := by
  by_cases hij : i = j
  · subst hij
    exact .inr (h.elim (isAt_put_self · _) (isAt_put_self · _))
  · rwa [isAt_put_ne hij, isAt_put_ne hij]

end Put

/-! ## Checking the count -/

/-- A check takes a permit or finds none. -/
theorem check_cases (p : Pool) (i : Nat) (otherwise : Standing) :
    (∃ s, p.semaphore.tryAcquire = some s ∧
      p.check i otherwise = { p with semaphore := s, permits := p.permits + 1 }.put i .free) ∨
    (p.semaphore.available = 0 ∧ p.check i otherwise = p.put i otherwise) := by
  unfold check
  cases h : p.semaphore.tryAcquire with
  | some s => exact .inl ⟨s, rfl, rfl⟩
  | none =>
    refine .inr ⟨?_, rfl⟩
    by_contra hne
    simp [tryAcquire, hne] at h

/-- A thread that is outside any call, or awake, may check the count. -/
theorem sound_check {initial : UInt64} {p : Pool} {i : Nat} {a : Standing} (hs : p.Sound initial)
    (hi : p.isAt i a = true) (ha : a = .free ∨ a = .woken) (otherwise : Standing) :
    (p.check i otherwise).Sound initial := by
  rcases check_cases p i otherwise with ⟨s, htake, heq⟩ | ⟨hnone, heq⟩
  · obtain ⟨hsame, hless⟩ := available_tryAcquire.1 htake
    have hcount := count_put hi .free
    have hparked := hcount .parked
    have hwoken := hcount .woken
    have hnotifying := hcount .notifying
    have hconserved := hs.conserved
    rw [heq]
    refine ⟨hsame.trans hs.initial_eq, ?_, fun hpos => ?_⟩
    · show s.available.toNat + (p.permits + 1) = _
      omega
    · have hserved := hs.served
      simp only [parkedCount, wokenCount, notifyingCount, put] at *
      rcases ha with rfl | rfl <;> simp only [reduceCtorEq, if_true, if_false] at * <;> omega
  · rw [heq]
    refine ⟨hs.initial_eq, hs.conserved, fun _ => ?_⟩
    -- Whoever is parked now, there is no permit to be woken for.
    show p.semaphore.available.toNat ≤ _
    rw [hnone]
    exact Nat.zero_le _

/-! ## Waking threads -/

/-- Wake threads, one after the other. -/
def wake (p : Pool) (js : List Nat) : Pool := js.foldl (fun q j => q.put j .woken) p

section Wake
variable {p : Pool} {js : List Nat}

theorem semaphore_wake (p : Pool) (js : List Nat) :
    (p.wake js).semaphore = p.semaphore ∧ (p.wake js).permits = p.permits := by
  induction js generalizing p with
  | nil => exact ⟨rfl, rfl⟩
  | cons j js ih => exact ih (p.put j .woken)

theorem isAt_wake {i : Nat} (h : i ∉ js) (a : Standing) : (p.wake js).isAt i a = p.isAt i a := by
  induction js generalizing p with
  | nil => rfl
  | cons j js ih =>
    obtain ⟨hj, hjs⟩ := not_or.1 (mt List.mem_cons.2 h)
    exact (ih hjs (p := p.put j .woken)).trans (isAt_put_ne (Ne.symm hj) a .woken)

/-- The thread that notifies is none of those it wakes. -/
theorem isAt_notifying_wake {i : Nat} (hi : p.isAt i .notifying = true)
    (h : ∀ j ∈ js, p.isAt j .parked = true) : (p.wake js).isAt i .notifying = true := by
  rw [isAt_wake _ _]
  · exact hi
  · intro hmem
    have := (isAt_iff.1 (h i hmem)).symm.trans (isAt_iff.1 hi)
    cases this

/-- Waking a thread that is parked or awake moves nobody else. -/
theorem count_wake (h : ∀ j ∈ js, p.isAt j .parked = true ∨ p.isAt j .woken = true) :
    (p.wake js).notifyingCount = p.notifyingCount ∧
      (p.wake js).parkedCount + (p.wake js).wokenCount = p.parkedCount + p.wokenCount ∧
      p.wokenCount ≤ (p.wake js).wokenCount := by
  induction js generalizing p with
  | nil => exact ⟨rfl, rfl, Nat.le_refl _⟩
  | cons j js ih =>
    obtain ⟨h1, h2, h3⟩ := ih (p := p.put j .woken)
      fun k hk => isAt_put_woken (h k (List.mem_cons_of_mem j hk))
    have hfirst : (p.put j .woken).notifyingCount = p.notifyingCount ∧
        (p.put j .woken).parkedCount + (p.put j .woken).wokenCount =
          p.parkedCount + p.wokenCount ∧
        p.wokenCount ≤ (p.put j .woken).wokenCount := by
      rcases h j List.mem_cons_self with hj | hj <;>
      · have hparked := count_put hj .woken .parked
        have hwoken := count_put hj .woken .woken
        have hnotifying := count_put hj .woken .notifying
        simp only [parkedCount, wokenCount, notifyingCount, reduceCtorEq, if_true, if_false] at *
        omega
    show ((p.put j .woken).wake js).notifyingCount = _ ∧ _ ∧ _ ≤ ((p.put j .woken).wake js).wokenCount
    exact ⟨h1.trans hfirst.1, h2.trans hfirst.2.1, Nat.le_trans hfirst.2.2 h3⟩

/-- The first of the woken threads was parked, so more threads are awake than before. -/
theorem wokenCount_wake_lt (h : ∀ j ∈ js, p.isAt j .parked = true) (hne : js ≠ []) :
    p.wokenCount < (p.wake js).wokenCount := by
  cases js with
  | nil => exact absurd rfl hne
  | cons j js =>
    have hj := h j List.mem_cons_self
    have hwoken := count_put hj .woken .woken
    have hrest : ∀ k ∈ js, (p.put j .woken).isAt k .parked = true ∨
        (p.put j .woken).isAt k .woken = true :=
      fun k hk => isAt_put_woken (.inl (h k (List.mem_cons_of_mem j hk)))
    have hmono := (count_wake hrest).2.2
    simp only [wokenCount, reduceCtorEq, if_true, if_false] at *
    show _ < ((p.put j .woken).wake js).threads.count .woken
    omega

end Wake

/-! ## One step, and runs -/

/-- What a notification does, and when it may happen. -/
theorem notify_inv {p q : Pool} {i : Nat} {js : List Nat} (h : p.step (.notify i js) = some q) :
    p.isAt i .notifying = true ∧ (∀ j ∈ js, p.isAt j .parked = true) ∧
      (js = [] → p.parkedCount = 0) ∧ q = (p.wake js).put i .free := by
  simp only [step] at h
  split at h
  · rename_i hc
    exact ⟨hc.1, hc.2.1, hc.2.2, (Option.some.inj h).symm⟩
  · cases h

/-- What giving a permit back does, and when it may happen. -/
theorem release_inv {p q : Pool} {i : Nat} (h : p.step (.release i) = some q) :
    p.isAt i .free = true ∧ 0 < p.permits ∧
      q = { p with semaphore := p.semaphore.release, permits := p.permits - 1 }.put i
        .notifying := by
  simp only [step] at h
  split at h
  · rename_i hc
    exact ⟨hc.1, hc.2, (Option.some.inj h).symm⟩
  · cases h

theorem parkedCount_pos {p : Pool} {j : Nat} (h : p.isAt j .parked = true) : 0 < p.parkedCount :=
  List.count_pos_iff.2 (List.mem_of_getElem? (isAt_iff.1 h))

/-- While a permit is held the count is below its bound, so giving it back does not wrap. -/
theorem Sound.toNat_release {initial : UInt64} {p : Pool} (hs : p.Sound initial)
    (hp : 0 < p.permits) :
    p.semaphore.available.toNat < initial.toNat ∧
      p.semaphore.release.available.toNat = p.semaphore.available.toNat + 1 := by
  have hlt : p.semaphore.available.toNat < initial.toNat := by
    have := hs.conserved
    omega
  exact ⟨hlt, available_release (Nat.lt_of_le_of_lt hlt initial.toNat_lt_size)⟩

theorem sound_release {initial : UInt64} {p q : Pool} {i : Nat} (hs : p.Sound initial)
    (h : p.step (.release i) = some q) : q.Sound initial := by
  obtain ⟨hi, hpos, rfl⟩ := release_inv h
  have hup := (hs.toNat_release hpos).2
  have hparked := count_put hi .notifying .parked
  have hwoken := count_put hi .notifying .woken
  have hnotifying := count_put hi .notifying .notifying
  refine ⟨hs.initial_eq, ?_, fun hp => ?_⟩
  · have := hs.conserved
    show p.semaphore.release.available.toNat + (p.permits - 1) = _
    omega
  · have hserved := hs.served
    simp only [parkedCount, wokenCount, notifyingCount, put, reduceCtorEq, if_true,
      if_false] at *
    omega

theorem sound_notify {initial : UInt64} {p q : Pool} {i : Nat} {js : List Nat}
    (hs : p.Sound initial) (h : p.step (.notify i js) = some q) : q.Sound initial := by
  obtain ⟨hi, hjs, hnone, rfl⟩ := notify_inv h
  have hi' := isAt_notifying_wake hi hjs
  obtain ⟨hsem, hper⟩ := semaphore_wake p js
  obtain ⟨hn, hpw, hw⟩ := count_wake fun j hj => .inl (hjs j hj)
  have hparked := count_put hi' .free .parked
  have hwoken := count_put hi' .free .woken
  have hnotifying := count_put hi' .free .notifying
  refine ⟨?_, ?_, fun hp => ?_⟩
  · exact (congrArg Semaphore.initial hsem).trans hs.initial_eq
  · show (p.wake js).semaphore.available.toNat + (p.wake js).permits = _
    rw [hsem, hper]
    exact hs.conserved
  · show (p.wake js).semaphore.available.toNat ≤ _
    rw [hsem]
    rcases List.eq_nil_or_concat' js with rfl | ⟨_, _, hcons⟩
    · -- Nobody is parked, then or now.
      have := hnone rfl
      simp only [parkedCount, wokenCount, notifyingCount, reduceCtorEq, if_true, if_false] at *
      omega
    · have hne : js ≠ [] := by simp [hcons]
      obtain ⟨j, hj⟩ := List.exists_mem_of_ne_nil js hne
      have hbefore := hs.served (parkedCount_pos (hjs j hj))
      have hmore := wokenCount_wake_lt hjs hne
      simp only [parkedCount, wokenCount, notifyingCount, reduceCtorEq, if_true, if_false] at *
      omega

/-- **One step.** Whoever takes it, what was true stays true. -/
theorem sound_step {initial : UInt64} {p q : Pool} {a : Action} (hs : p.Sound initial)
    (h : p.step a = some q) : q.Sound initial := by
  cases a with
  | tryAcquire i =>
    simp only [step, Option.ite_none_right_eq_some, Option.some.injEq] at h
    obtain ⟨hi, rfl⟩ := h
    exact sound_check hs hi (.inl rfl) .free
  | acquire i =>
    simp only [step, Option.ite_none_right_eq_some, Option.some.injEq] at h
    obtain ⟨hi, rfl⟩ := h
    exact sound_check hs hi (.inl rfl) .parked
  | recheck i =>
    simp only [step, Option.ite_none_right_eq_some, Option.some.injEq] at h
    obtain ⟨hi, rfl⟩ := h
    exact sound_check hs hi (.inr rfl) .parked
  | rouse i =>
    simp only [step, Option.ite_none_right_eq_some, Option.some.injEq] at h
    obtain ⟨hi, rfl⟩ := h
    have hbefore := hs.served (parkedCount_pos hi)
    have hwoken := count_put hi .woken .woken
    have hnotifying := count_put hi .woken .notifying
    refine ⟨hs.initial_eq, hs.conserved, fun _ => ?_⟩
    show p.semaphore.available.toNat ≤ _
    simp only [parkedCount, wokenCount, notifyingCount, reduceCtorEq, if_true, if_false] at *
    omega
  | release i => exact sound_release hs h
  | notify i js => exact sound_notify hs h

theorem sound_start {initial : UInt64} {s : Semaphore} (h : make initial = .ok s) (n : Nat) :
    (start s n).Sound initial := by
  unfold make at h
  split at h
  · cases h
  · cases h
    refine ⟨rfl, rfl, fun hp => ?_⟩
    simp [parkedCount, start, List.count_replicate] at hp

theorem sound_of_reaches {initial : UInt64} {p q : Pool} (hs : p.Sound initial)
    (h : p.Reaches q) : q.Sound initial := by
  induction h with
  | refl => exact hs
  | tail a _ hstep ih => exact sound_step ih hstep

/-! ## Wake-ups -/

theorem exists_isAt_of_count_pos {p : Pool} {a : Standing} (h : 0 < p.threads.count a) :
    ∃ i, p.isAt i a = true := by
  obtain ⟨i, hi, ha⟩ := List.getElem_of_mem (List.count_pos_iff.1 h)
  exact ⟨i, isAt_iff.2 (List.getElem?_eq_some_iff.2 ⟨hi, ha⟩)⟩

/-- A woken thread that finds a permit available takes it. -/
theorem recheck_of_available {p : Pool} {i : Nat} (hi : p.isAt i .woken = true)
    (h : p.semaphore.available ≠ 0) :
    ∃ q, p.step (.recheck i) = some q ∧ q.permits = p.permits + 1 ∧ q.isAt i .free = true := by
  refine ⟨p.check i .parked, by simp [step, hi], ?_⟩
  rcases check_cases p i .parked with ⟨s, -, heq⟩ | ⟨hnone, -⟩
  · rw [heq]
    exact ⟨rfl, isAt_put_self hi .free⟩
  · exact absurd hnone h

/-- While somebody is parked, a notification can happen and each one wakes somebody. -/
theorem wake_step {p : Pool} {i : Nat} (hi : p.isAt i .notifying = true)
    (hp : 0 < p.parkedCount) :
    (∃ js q, p.step (.notify i js) = some q) ∧
      ∀ js q, p.step (.notify i js) = some q → q.parkedCount < p.parkedCount := by
  constructor
  · obtain ⟨j, hj⟩ := exists_isAt_of_count_pos hp
    exact ⟨[j], _, by simp only [step]; rw [if_pos ⟨hi, by simpa using hj, by simp⟩]⟩
  · intro js q h
    obtain ⟨-, hjs, hnone, rfl⟩ := notify_inv h
    have hne : js ≠ [] := fun he => by
      have := hnone he
      omega
    have hmore := wokenCount_wake_lt hjs hne
    obtain ⟨hn, hpw, -⟩ := count_wake fun j hj => .inl (hjs j hj)
    have hi' := isAt_notifying_wake hi hjs
    have hparked := count_put hi' .free .parked
    simp only [parkedCount, wokenCount, reduceCtorEq, if_false] at *
    omega

/-- **Conservation and no lost wake-up.** In every state that threads sharing
a new semaphore can come to, the permits available and the permits held are
those it was made with. So taking one does not go below zero and giving one
back does not go past what the semaphore was made with. While somebody is
parked, each available permit has a thread that is awake for it or about to
wake somebody; with neither of these, no permit is available and all are
held. A parked thread beside an available permit is therefore not stuck: some
woken thread can take the permit now, or some notification can happen now, and
each one that does wakes somebody. -/
theorem permits_conserved_and_wakeups_kept {initial : UInt64} {s : Semaphore}
    (hs : make initial = .ok s) {threads : Nat} {p : Pool} (h : (start s threads).Reaches p) :
    (p.semaphore.initial = initial ∧
      p.semaphore.available.toNat + p.permits = initial.toNat) ∧
    (∀ a q, p.step a = some q → q.permits = p.permits + 1 →
      q.semaphore.available.toNat + 1 = p.semaphore.available.toNat) ∧
    (∀ i q, p.step (.release i) = some q →
      p.semaphore.available < p.semaphore.initial ∧
        q.semaphore.available.toNat = p.semaphore.available.toNat + 1) ∧
    (0 < p.parkedCount →
      p.semaphore.available.toNat ≤ p.wokenCount + p.notifyingCount) ∧
    (0 < p.parkedCount → p.wokenCount = 0 → p.notifyingCount = 0 →
      p.semaphore.available = 0 ∧ p.permits = initial.toNat) ∧
    (0 < p.parkedCount → p.semaphore.available ≠ 0 →
      (∃ i q, p.step (.recheck i) = some q ∧ q.permits = p.permits + 1 ∧
        q.isAt i .free = true) ∨
      ∃ i, (∃ js q, p.step (.notify i js) = some q) ∧
        ∀ js q, p.step (.notify i js) = some q → q.parkedCount < p.parkedCount) := by
  have hsound := sound_of_reaches (sound_start hs threads) h
  refine ⟨⟨hsound.initial_eq, hsound.conserved⟩, ?_, ?_, hsound.served, ?_, ?_⟩
  · intro a q hstep hmore
    have hbefore := hsound.conserved
    have hafter := (sound_step hsound hstep).conserved
    omega
  · intro i q hstep
    obtain ⟨-, hpos, rfl⟩ := release_inv hstep
    obtain ⟨hlt, hup⟩ := hsound.toNat_release hpos
    exact ⟨UInt64.lt_iff_toNat_lt.2 (hsound.initial_eq ▸ hlt), hup⟩
  · intro hparked hwoken hnotifying
    have hzero := hsound.served hparked
    have hall := hsound.conserved
    exact ⟨UInt64.toNat_inj.1 (by rw [UInt64.toNat_zero]; omega), by omega⟩
  · intro hparked havailable
    have hserved := hsound.served hparked
    have hpos : 0 < p.semaphore.available.toNat :=
      Nat.pos_of_ne_zero fun hz => havailable (UInt64.toNat_inj.1 (by simpa using hz))
    rcases Nat.eq_zero_or_pos p.wokenCount with hw | hw
    · obtain ⟨i, hi⟩ := exists_isAt_of_count_pos (p := p) (a := .notifying)
        (show 0 < p.notifyingCount by omega)
      exact .inr ⟨i, wake_step hi hparked⟩
    · obtain ⟨i, hi⟩ := exists_isAt_of_count_pos hw
      exact .inl ⟨i, recheck_of_available hi havailable⟩

/-- One permit and two threads: the second parks, and the first has given the permit back but
has not notified yet. -/
theorem handover_pending :
    make 1 = .ok ⟨1, 1⟩ ∧ (start ⟨1, 1⟩ 2).Reaches ⟨⟨1, 1⟩, 0, [.notifying, .parked]⟩ ∧
      (1 : UInt64).toNat ≤
        (⟨⟨1, 1⟩, 0, [.notifying, .parked]⟩ : Pool).wokenCount +
          (⟨⟨1, 1⟩, 0, [.notifying, .parked]⟩ : Pool).notifyingCount := by
  have hmake : make 1 = .ok ⟨1, 1⟩ := rfl
  have hrun : (start ⟨1, 1⟩ 2).Reaches ⟨⟨1, 1⟩, 0, [.notifying, .parked]⟩ :=
    ((Reaches.refl _).tail (.acquire 0) rfl).tail (.acquire 1) rfl |>.tail (.release 0) rfl
  exact ⟨hmake, hrun, (permits_conserved_and_wakeups_kept hmake hrun).2.2.2.1 (by decide)⟩

end Standstill.Semaphore.Pool
