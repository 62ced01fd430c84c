import Mathlib
import Standstill.Proofs.Contention.Outcome

/-!
# Waits and the checks before them

A wait is a number of ticks. Its product is formed in words, the seconds and
the nanoseconds apart, and the whole seconds of the nanoseconds are carried
over. It fits exactly if its nanoseconds are fewer than those of `2 ^ 64`
seconds. The checks of a configuration ask for this among other things, one
after the other, so that what sleeps later never meets the longest span in
place of a product. A contention run asks the system once for the sleep of its
timed wait, and for no other.

Results:
* `Span.timesInWords_eq`: the product in words.
* `Span.times_eq_some_iff`, `Span.total_timesCapped`: the product in
  nanoseconds.
* `Socket.Config.checks_validate`, `Contention.Config.checks_validate`: what
  is checked, and in which order.
* `Contention.sleeps_run`: the sleeps that a run asks for.
* `accepted_waits_exact`: accepted configurations sleep for exactly the
  product.
-/
namespace Standstill

/-! ## Products -/

namespace Span

theorem total_lt (s : Span) : s.total < capacity := by
  have hsecs := s.secs.toNat_lt_size
  have hnanos := s.nanos_lt
  unfold total capacity nanosPerSecond at *
  omega

theorem eq_of_total_eq {s t : Span} (h : s.total = t.total) : s = t := by
  have hs := s.nanos_lt
  have ht := t.nanos_lt
  unfold total nanosPerSecond at *
  apply Span.ext
  · rw [← UInt64.toNat_inj]
    omega
  · rw [← UInt32.toNat_inj]
    omega

section Times
variable {s t : Span} {n : UInt32}

theorem total_of_times (h : s.times n = some t) : t.total = s.total * n.toNat := by
  rw [total_of_ofParts? h, total_mul]

theorem times_eq_some_iff : s.times n = some t ↔ t.total = s.total * n.toNat := by
  constructor
  · exact total_of_times
  · intro h
    have hfits : s.times n ≠ none := by
      rw [Ne, times_eq_none_iff, ← h, not_le]
      exact t.total_lt
    obtain ⟨u, hu⟩ := Option.ne_none_iff_exists'.1 hfits
    rw [hu, eq_of_total_eq ((total_of_times hu).trans h.symm)]

theorem total_timesCapped (h : s.total * n.toNat < capacity) :
    (s.timesCapped n).total = s.total * n.toNat := by
  have hfits : s.times n ≠ none := by rwa [Ne, times_eq_none_iff, not_le]
  obtain ⟨t, ht⟩ := Option.ne_none_iff_exists'.1 hfits
  rw [timesCapped, ht, Option.getD_some, total_of_times ht]

theorem timesCapped_eq_longest (h : capacity ≤ s.total * n.toNat) :
    s.timesCapped n = longest := by
  rw [timesCapped, (times_eq_none_iff s n).2 h, Option.getD_none]

end Times

/-! ## Products in words -/

/-- The product of two words if it is a word. -/
def wordMul? (a b : UInt64) : Option UInt64 :=
  if a.toNat * b.toNat < UInt64.size then some (a * b) else none

/-- The sum of two words if it is a word. -/
def wordAdd? (a b : UInt64) : Option UInt64 :=
  if a.toNat + b.toNat < UInt64.size then some (a + b) else none

theorem nanos_lt_of_mod (nanos : UInt64) :
    (nanos % 1000000000).toUInt32.toNat < nanosPerSecond := by
  rw [UInt64.toNat_toUInt32, UInt64.toNat_mod]
  exact Nat.lt_of_le_of_lt (Nat.mod_le _ _) (Nat.mod_lt _ (by decide))

/-- `times` in words, with a carry of whole seconds. -/
def timesInWords (s : Span) (n : UInt32) : Option Span :=
  let nanos := s.nanos.toUInt64 * n.toUInt64
  match wordMul? s.secs n.toUInt64 with
  | none => none
  | some secs =>
    match wordAdd? secs (nanos / 1000000000) with
    | none => none
    | some secs => some ⟨secs, (nanos % 1000000000).toUInt32, nanos_lt_of_mod nanos⟩

section Words
variable {a b c : UInt64}

theorem wordMul?_eq_none_iff : wordMul? a b = none ↔ UInt64.size ≤ a.toNat * b.toNat := by
  simp [wordMul?]

theorem wordAdd?_eq_none_iff : wordAdd? a b = none ↔ UInt64.size ≤ a.toNat + b.toNat := by
  simp [wordAdd?]

theorem toNat_wordMul? (h : wordMul? a b = some c) : c.toNat = a.toNat * b.toNat := by
  unfold wordMul? at h
  split at h
  · next hlt =>
    cases h
    rw [UInt64.toNat_mul]
    exact Nat.mod_eq_of_lt hlt
  · cases h

theorem toNat_wordAdd? (h : wordAdd? a b = some c) : c.toNat = a.toNat + b.toNat := by
  unfold wordAdd? at h
  split at h
  · next hlt =>
    cases h
    rw [UInt64.toNat_add]
    exact Nat.mod_eq_of_lt hlt
  · cases h

end Words

/-- The product of the nanoseconds always is a word. -/
theorem toNat_nanos_mul (s : Span) (n : UInt32) :
    (s.nanos.toUInt64 * n.toUInt64).toNat = s.nanos.toNat * n.toNat := by
  have hprod : s.nanos.toNat * n.toNat < nanosPerSecond * 2 ^ 32 :=
    Nat.mul_lt_mul'' s.nanos_lt n.toNat_lt
  rw [UInt64.toNat_mul, UInt32.toNat_toUInt64, UInt32.toNat_toUInt64]
  exact Nat.mod_eq_of_lt (hprod.trans (by decide))

/-- **Words.** Nothing is lost in a word but what does not fit. -/
theorem timesInWords_eq (s : Span) (n : UInt32) : s.timesInWords n = s.times n := by
  have hnanos := toNat_nanos_mul s n
  have htotal := s.total_mul n.toNat
  dsimp only [timesInWords]
  generalize s.nanos.toUInt64 * n.toUInt64 = nanos at hnanos ⊢
  symm
  split
  · next hmul =>
    rw [wordMul?_eq_none_iff, UInt32.toNat_toUInt64] at hmul
    rw [times_eq_none_iff, htotal, capacity]
    exact Nat.le_add_right_of_le (Nat.mul_le_mul_right _ hmul)
  · next secs hmul =>
    have hsecs := toNat_wordMul? hmul
    rw [UInt32.toNat_toUInt64] at hsecs
    have hdiv := UInt64.toNat_div nanos 1000000000
    split
    · next hadd =>
      rw [wordAdd?_eq_none_iff, hdiv] at hadd
      rw [times_eq_none_iff, htotal, ← hsecs, ← hnanos]
      simp only [capacity, nanosPerSecond, UInt64.reduceToNat] at hadd ⊢
      omega
    · next whole hadd =>
      have hwhole := toNat_wordAdd? hadd
      have hmod := UInt64.toNat_mod nanos 1000000000
      rw [times_eq_some_iff, htotal, ← hsecs, ← hnanos]
      simp only [total, UInt64.toNat_toUInt32, hwhole, hdiv, hmod, nanosPerSecond,
        UInt64.reduceToNat]
      omega

end Span

/-! ## Checks -/

/-- The fault of the first condition in a row that does not hold. -/
inductive FirstFails : List (Prop × ConfigFault) → ConfigFault → Prop
  | here {p : Prop} {f : ConfigFault} {rest : List (Prop × ConfigFault)} (h : ¬p) :
    FirstFails ((p, f) :: rest) f
  | behind {p : Prop} {f g : ConfigFault} {rest : List (Prop × ConfigFault)} (h : p)
    (later : FirstFails rest f) : FirstFails ((p, g) :: rest) f

/-- A check accepts if all conditions of a row hold, and otherwise tells of the first that does
not. -/
structure ChecksInOrder (conditions : List (Prop × ConfigFault)) (r : Except ConfigFault Unit) :
    Prop where
  ok_iff : r = .ok () ↔ ∀ p ∈ conditions, p.1
  error_iff : ∀ f, r = .error f ↔ FirstFails conditions f

theorem checksInOrder_nil : ChecksInOrder [] (.ok ()) where
  ok_iff := by simp
  error_iff f := ⟨nofun, nofun⟩

/-- A check with one more before it. -/
theorem ChecksInOrder.cons {conditions : List (Prop × ConfigFault)} {r : Except ConfigFault Unit}
    (h : ChecksInOrder conditions r) {p refused : Prop} [Decidable refused]
    (hp : p ↔ ¬refused) (f : ConfigFault) :
    ChecksInOrder ((p, f) :: conditions) (if refused then .error f else r) := by
  by_cases hrefused : refused
  · have hnot : ¬p := fun hholds => hp.1 hholds hrefused
    rw [if_pos hrefused]
    constructor
    · simp [hnot]
    · intro g
      constructor
      · intro hg
        cases hg
        exact .here hnot
      · intro hg
        cases hg with
        | here _ => rfl
        | behind hholds _ => exact absurd hholds hnot
  · have hholds : p := hp.2 hrefused
    rw [if_neg hrefused]
    constructor
    · rw [h.ok_iff]
      simp [hholds]
    · intro g
      rw [h.error_iff]
      constructor
      · exact .behind hholds
      · intro hg
        cases hg with
        | here hnot => exact absurd hholds hnot
        | behind _ hlater => exact hlater

/-- What a configuration of a socket run must have. -/
def Socket.Config.conditions (c : Socket.Config) : List (Prop × ConfigFault) :=
  [(c.cycles ≠ 0, .noCycles),
    (c.tick.total * c.connectDelayTicks.toNat < Span.capacity,
      .delayTooLong c.connectDelayTicks c.tick),
    (c.port ≠ 0 ∨ c.role = .both, .portNotFixed c.role)]

/-- What a configuration of a contention run must have. -/
def Contention.Config.conditions (c : Contention.Config) : List (Prop × ConfigFault) :=
  [(c.workers ≠ 0, .noWorkers), (c.locks ≠ 0, .noLocks), (c.cycles ≠ 0, .noCycles)] ++
    match c.completion with
    | .join => []
    | .timedWait ticks =>
      [(c.tick.total * ticks.toNat < Span.capacity, .waitTooLong ticks c.tick)]

theorem Span.fits_iff {s : Span} {n : UInt32} :
    s.total * n.toNat < capacity ↔ ¬(s.times n).isNone = true := by
  rw [Option.isNone_iff_eq_none, times_eq_none_iff, not_le]

theorem Socket.Config.checks_validate (c : Socket.Config) :
    ChecksInOrder c.conditions c.validate := by
  have hport : (c.port ≠ 0 ∨ c.role = .both) ↔ ¬(c.port = 0 ∧ c.role ≠ .both) := by
    rw [not_and_or, not_not]
  exact ((checksInOrder_nil.cons hport _).cons Span.fits_iff _).cons Iff.rfl _

theorem Contention.Config.checks_validate (c : Contention.Config) :
    ChecksInOrder c.conditions c.validate := by
  unfold validate conditions
  cases c.completion with
  | join => exact ((checksInOrder_nil.cons Iff.rfl _).cons Iff.rfl _).cons Iff.rfl _
  | timedWait ticks =>
    have hwait := checksInOrder_nil.cons (@Span.fits_iff c.tick ticks) (.waitTooLong ticks c.tick)
    exact ((hwait.cons Iff.rfl _).cons Iff.rfl _).cons Iff.rfl _

/-! ## Sleeps -/

/-- The span that an event asks the system to sleep for. -/
def Event.sleep? : Event → Option Span
  | .sleepAsked s => some s
  | _ => none

/-- The sleeps asked for, in their order. -/
def Traced.sleeps {ε α : Type} (x : Traced ε α) : List Span := x.events.filterMap Event.sleep?

namespace Contention

/-- Starting a worker takes no sleep. -/
theorem sleeps_workerEvents (c : Config) (is : List Nat) :
    (is.flatMap c.workerEvents).filterMap Event.sleep? = [] := by
  rw [List.filterMap_eq_nil_iff]
  intro e he
  obtain ⟨i, -, he⟩ := List.mem_flatMap.1 he
  rcases List.mem_pair.1 he with rfl | rfl <;> rfl

theorem sleeps_complete (c : Config) (m : Machine) :
    (complete c m).sleeps = c.coordinatorDelay.toList := by
  have hasked : (c.coordinatorDelay.toList.map Event.sleepAsked).filterMap Event.sleep? =
      c.coordinatorDelay.toList := by
    simp [List.filterMap_map, Function.comp_def, Event.sleep?]
  unfold complete Traced.sleeps
  rw [Traced.notes_bind, List.filterMap_append, hasked]
  cases c.completion with
  | join => simp
  | timedWait ticks =>
    simp only
    split <;> simp [Event.sleep?]

/-- **Sleeps.** A run that reports has asked for the sleep of its coordinator only. -/
theorem sleeps_run {c : Config} {host : Host} {r : Report} (hr : (run c host).result = .ok r) :
    (run c host).sleeps = c.coordinatorDelay.toList := by
  obtain ⟨hv, hstarts⟩ := Config.starts_of_run hr
  rw [Config.run_of_starts hv hstarts] at hr ⊢
  obtain ⟨-, -, hrest⟩ := Traced.of_result_bind hr
  obtain ⟨r', hcompleted, -⟩ := Traced.of_result_bind hrest
  have hsleeps : (((complete c c.begin).mapError Halt.failure).events.filterMap Event.sleep?) =
      c.coordinatorDelay.toList := sleeps_complete c c.begin
  rw [Traced.notes_bind, Traced.sleeps, List.filterMap_append,
    (Traced.events_bind_of_ok _ hcompleted).1, List.filterMap_append, hsleeps,
    List.filterMap_cons_none rfl, List.filterMap_cons_none rfl, sleeps_workerEvents]
  exact List.append_nil _

end Contention

/-! ## Accepted configurations -/

theorem Socket.Config.fits_of_validate {c : Socket.Config} (h : c.validate = .ok ()) :
    c.tick.total * c.connectDelayTicks.toNat < Span.capacity :=
  c.checks_validate.ok_iff.1 h (_, .delayTooLong c.connectDelayTicks c.tick) (by simp [conditions])

theorem Contention.Config.fits_of_validate {c : Contention.Config} (h : c.validate = .ok ())
    {ticks : UInt32} (hwait : c.completion = .timedWait ticks) :
    c.tick.total * ticks.toNat < Span.capacity :=
  c.checks_validate.ok_iff.1 h (_, .waitTooLong ticks c.tick) (by simp [conditions, hwait])

/-- **Waits.** Products formed in words are the exact ones, or are refused. A delay is the product
if that fits, and the longest span otherwise. A configuration is accepted if its conditions hold,
of which the first that does not hold is told, so what is accepted sleeps for exactly the product
and gives each worker one of its locks. -/
theorem accepted_waits_exact :
    (∀ (s : Span) (n : UInt32), s.timesInWords n = s.times n) ∧
    (∀ c : Socket.Config,
      let product := c.tick.total * c.connectDelayTicks.toNat
      (product < Span.capacity → c.connectDelay.total = product) ∧
      (Span.capacity ≤ product → c.connectDelay = .longest) ∧
      ChecksInOrder c.conditions c.validate ∧
      (c.validate = .ok () →
        c.tick.times c.connectDelayTicks = some c.connectDelay ∧
        c.connectDelay.total = product)) ∧
    ∀ c : Contention.Config,
      ChecksInOrder c.conditions c.validate ∧
      (c.validate = .ok () →
        (c.completion = .join → c.coordinatorDelay = none) ∧
        (∀ ticks, c.completion = .timedWait ticks →
          ∃ delay, c.coordinatorDelay = some delay ∧ c.tick.times ticks = some delay ∧
            delay.total = c.tick.total * ticks.toNat) ∧
        (∀ host r, (Contention.run c host).result = .ok r →
          (Contention.run c host).sleeps = c.coordinatorDelay.toList) ∧
        ∀ i, c.lockFor i = .ok (i % c.locks) ∧ i % c.locks < c.locks) := by
  refine ⟨Span.timesInWords_eq, ?_, ?_⟩
  · intro c product
    refine ⟨Span.total_timesCapped, Span.timesCapped_eq_longest, c.checks_validate, ?_⟩
    intro hok
    exact ⟨c.connectDelay_of_validate hok, Span.total_timesCapped (c.fits_of_validate hok)⟩
  · intro c
    refine ⟨c.checks_validate, ?_⟩
    intro hok
    refine ⟨?_, ?_, fun host r => Contention.sleeps_run, ?_⟩
    · intro hjoin
      rw [Contention.Config.coordinatorDelay, hjoin]
    · intro ticks hwait
      have htotal := Span.total_timesCapped (c.fits_of_validate hok hwait)
      refine ⟨c.tick.timesCapped ticks, ?_, Span.times_eq_some_iff.2 htotal, htotal⟩
      rw [Contention.Config.coordinatorDelay, hwait]
    · intro i
      have hlocks : c.locks ≠ 0 := (Contention.Config.validate_eq_ok_iff.1 hok).2.1
      have hlock : c.lockFor i = .ok (i % c.locks) := if_neg hlocks
      exact ⟨hlock, Contention.Config.lockFor_lt hlock⟩

/-- The longest whole seconds that a delay can have. With a nanosecond more in each tick, the
carry makes it too long. -/
theorem one_nanosecond_too_long :
    let c : Socket.Config := { tick := ⟨4294967297, 0, by decide⟩, connectDelayTicks := 4294967295 }
    let d : Socket.Config := { c with tick := ⟨4294967297, 1, by decide⟩ }
    c.validate = .ok () ∧ c.connectDelay.total = 18446744073709551615 * 1000000000 ∧
    d.validate = .error (.delayTooLong 4294967295 ⟨4294967297, 1, by decide⟩) ∧
    d.connectDelay = .longest := by
  intro c d
  obtain ⟨-, hsocket, -⟩ := accepted_waits_exact
  obtain ⟨-, -, hchecks, hexact⟩ := hsocket c
  obtain ⟨-, hlongest, hrefused, -⟩ := hsocket d
  have hok : c.validate = .ok () := by decide
  have hproduct : c.tick.total * c.connectDelayTicks.toNat = 18446744073709551615 * 1000000000 := by
    decide
  refine ⟨hok, (hexact hok).2.trans hproduct, ?_, hlongest (by decide)⟩
  rw [hrefused.error_iff]
  exact .behind (by decide) (.here (by decide))

end Standstill
