import Mathlib
import Standstill.Proofs.Orchestrator.ExitCodes
import Standstill.Proofs.Orchestrator.Work

/-!
# All runs are judged

The checks of a fixture compare the exit codes of neighbouring runs, look at
the first of them, and go through the reports up to the first that is wrong.
Taken together this asks the same of every run, so that the outcome depends
only on which runs there are: not on their order, and not on how often one of
them was repeated. What is told of a failure is about the first run at fault,
and about the first check that it does not pass. The acquisitions of a report are
added up in words, which are the exact numbers as long as these fit.

Results:
* `socket_skipped_iff`, `socket_passed_iff`, `contention_passed_iff`: the
  outcomes, as conditions on each run.
* `Fits.total_iff`: what the comparison of two words tells.
* `contentionRunFault_eq_some_iff`: the first check that a run does not pass.
* `contentionVerdict_eq_fail_iff`: the first run at fault.
* `socket_runs_judged`, `contention_runs_judged`: all of it.
-/
namespace Standstill.Orchestrator

/-! ## Outcomes -/

namespace Outcome

variable {a b : Outcome}

theorem eq_failed_iff : a = .failed ↔ a ≠ .skipped ∧ a ≠ .passed := by
  cases a <;> simp

theorem eq_of_iff (hskipped : a = .skipped ↔ b = .skipped) (hpassed : a = .passed ↔ b = .passed) :
    a = b := by
  cases a <;> cases b <;> simp at hskipped hpassed ⊢

end Outcome

section Verdict
variable {φ : Type} {name passText : String} {message : φ → String} {v : Verdict φ}

theorem outcome_eq_skipped_iff :
    (Result.ofVerdict name passText message (.ok v)).outcome = .skipped ↔ v = .skip := by
  cases v <;> simp [Result.ofVerdict]

theorem result_eq_failed_iff {detail : String} :
    Result.ofVerdict name passText message (.ok v) = ⟨name, .failed, detail⟩ ↔
      ∃ why, v = .fail why ∧ detail = message why := by
  cases v <;> simp [Result.ofVerdict, eq_comm]

end Verdict

/-! ## The socket fixture -/

section Socket
variable {outputs others : List Output}

theorem socket_skipped_iff :
    (socketResult (.ok outputs)).outcome = .skipped ↔
      outputs ≠ [] ∧ ∀ o ∈ outputs, o.exitCode = some 2 := by
  unfold socketResult
  exact outcome_eq_skipped_iff.trans socketVerdict_eq_skip_iff

theorem socket_passed_iff :
    (socketResult (.ok outputs)).outcome = .passed ↔
      outputs ≠ [] ∧ ∀ o ∈ outputs, Prints Socket.Report.codec Exchanges o := by
  unfold socketResult
  rw [passed_iff]
  simp [socketVerdict_eq_pass_iff, Prints]

theorem exchanges_iff_received {r : Socket.Report} :
    Exchanges r ↔ (∃ k, r.connector = some k ∧ 0 < k.bytesReceived) ∧ r.peerExitCode = some 0 :=
  ⟨fun h => ⟨h.received, h.peer⟩, fun h => ⟨h.1, h.2⟩⟩

/-- Whether there is a run, and what is true of each, is told by which runs there are. -/
theorem judged_congr (h : ∀ o, o ∈ others ↔ o ∈ outputs) (Q : Output → Prop) :
    (others ≠ [] ∧ ∀ o ∈ others, Q o) ↔ (outputs ≠ [] ∧ ∀ o ∈ outputs, Q o) := by
  simp only [ne_eq, List.eq_nil_iff_forall_not_mem, h]

/-- **Each socket run.** Runs are skipped if there are some and each exits with code 2, and pass if
there are some and each exits with code zero and reports bytes received and a connector that exited
with code zero. All other runs fail, and neither order nor repetition counts. -/
theorem socket_runs_judged (outputs : List Output) :
    let skips := outputs ≠ [] ∧ ∀ o ∈ outputs, o.exitCode = some 2
    let passes := outputs ≠ [] ∧ ∀ o ∈ outputs, o.exitCode = some 0 ∧
      ∃ r, readPrinted Socket.Report.codec o = .ok r ∧
        (∃ k, r.connector = some k ∧ 0 < k.bytesReceived) ∧ r.peerExitCode = some 0
    ((socketResult (.ok outputs)).outcome = .skipped ↔ skips) ∧
    ((socketResult (.ok outputs)).outcome = .passed ↔ passes) ∧
    ((socketResult (.ok outputs)).outcome = .failed ↔ ¬skips ∧ ¬passes) ∧
    ∀ others, (∀ o, o ∈ others ↔ o ∈ outputs) →
      (socketResult (.ok others)).outcome = (socketResult (.ok outputs)).outcome := by
  intro skips passes
  have hskips : (socketResult (.ok outputs)).outcome = .skipped ↔ skips := socket_skipped_iff
  have hpasses : (socketResult (.ok outputs)).outcome = .passed ↔ passes := by
    rw [socket_passed_iff]
    simp only [Prints, passes, exchanges_iff_received]
  refine ⟨hskips, hpasses, ?_, ?_⟩
  · rw [Outcome.eq_failed_iff, ne_eq, ne_eq, hskips, hpasses]
  · intro others hsame
    apply Outcome.eq_of_iff
    · rw [socket_skipped_iff, socket_skipped_iff]
      exact judged_congr hsame _
    · rw [socket_passed_iff, socket_passed_iff]
      exact judged_congr hsame _

/-- A run that a signal ended, behind or before runs that did what they should. -/
theorem killed_run_fails_all :
    let r : Socket.Report := {
      address := .v4 .localhost defaultPort
      role := .both
      composition := .fork
      connector := some ⟨3, 300, .cycleLimit⟩
      peerExitCode := some 0 }
    let good : Output := .ofLine (Socket.Report.codec.line r)
    let killed : Output := ⟨none, ""⟩
    (socketResult (.ok [good, good])).outcome = .passed ∧
      (socketResult (.ok [good, good, killed])).outcome = .failed ∧
      (socketResult (.ok [killed, good])).outcome = .failed := by
  intro r good killed
  have hread : readPrinted Socket.Report.codec good = .ok r :=
    readPrinted_ofLine r.record_faithful.codec
  have hcode : good.exitCode = some 0 := rfl
  generalize good = run at hread hcode ⊢
  obtain ⟨-, hpassed, -, -⟩ := socket_runs_judged [run, run]
  obtain ⟨-, -, hfailed, hsame⟩ := socket_runs_judged [run, run, killed]
  have hlast : (socketResult (.ok [run, run, killed])).outcome = .failed := by
    apply hfailed.2
    constructor
    · intro h
      cases hcode.symm.trans (h.2 run (by simp))
    · intro h
      cases (h.2 killed (by simp)).1
  have hmem : ∀ o, o ∈ [killed, run] ↔ o ∈ [run, run, killed] := by
    intro o
    simp only [List.mem_cons, List.not_mem_nil, or_false, or_self_left]
    exact or_comm
  refine ⟨hpassed.2 ⟨List.cons_ne_nil _ _, ?_⟩, hlast, (hsame _ hmem).trans hlast⟩
  intro o ho
  obtain rfl : o = run := by simpa using ho
  exact ⟨hcode, r, hread, ⟨_, rfl, by decide⟩, rfl⟩

end Socket

/-! ## The contention fixture -/

/-- The acquisitions of a report, and those that its workers have cycles for, fit into a word. -/
structure Fits (cycles : UInt32) (r : Contention.Report) : Prop where
  acquired : r.acquired < UInt64.size
  expected : r.workers.length * cycles.toNat < UInt64.size

/-- The first check that is not passed by a run that exited with code zero: its report is read, its
acquisitions are added up, its locks are looked at, and then its workers one by one. -/
inductive FirstWrong (cycles : UInt32) (o : Output) : ContentionFault → Prop
  | unreadable {e : Json.Error} (read : readPrinted Contention.Report.codec o = .error e) :
    FirstWrong cycles o (.unreadable e)
  | total {r : Contention.Report} (read : readPrinted Contention.Report.codec o = .ok r)
    {n m : UInt64} (acquired : n.toNat = r.acquired)
    (expected : m.toNat = r.workers.length * cycles.toNat) (differs : n ≠ m) :
    FirstWrong cycles o (.total n m)
  | sharedLock {r : Contention.Report} (read : readPrinted Contention.Report.codec o = .ok r)
    (total : r.acquired = r.workers.length * cycles.toNat)
    (shared : ∃ l ∈ r.locks, 1 < l.peakHolders) :
    FirstWrong cycles o .sharedLock
  | workerCycles {r : Contention.Report} (read : readPrinted Contention.Report.codec o = .ok r)
    (total : r.acquired = r.workers.length * cycles.toNat)
    (exclusion : ∀ l ∈ r.locks, l.peakHolders ≤ 1)
    {before after : List Contention.WorkerReport} {w : Contention.WorkerReport}
    (split : r.workers = before ++ w :: after) (done : ∀ v ∈ before, v.cycles = cycles)
    (deviates : w.cycles ≠ cycles) :
    FirstWrong cycles o (.workerCycles w.index w.cycles)

section Contention
variable {cycles : UInt32} {o : Output} {outputs others : List Output} {why : ContentionFault}

theorem mutualExclusionHeld_iff {r : Contention.Report} :
    r.mutualExclusionHeld = true ↔ ∀ l ∈ r.locks, l.peakHolders ≤ 1 := by
  simp [Contention.Report.mutualExclusionHeld]

theorem not_mutualExclusionHeld_iff {r : Contention.Report} :
    r.mutualExclusionHeld = false ↔ ∃ l ∈ r.locks, 1 < l.peakHolders := by
  simp [Contention.Report.mutualExclusionHeld]

/-- Numbers that fit are compared as they are. -/
theorem Fits.total_iff {r : Contention.Report} (h : Fits cycles r) :
    r.totalAcquisitions = expectedAcquisitions cycles r ↔
      r.acquired = r.workers.length * cycles.toNat := by
  rw [← UInt64.toNat_inj, Contention.Report.toNat_totalAcquisitions h.acquired,
    toNat_expectedAcquisitions h.expected]

/-- The first worker that has not done so many cycles. -/
theorem find_deviating_iff {workers : List Contention.WorkerReport} {w : Contention.WorkerReport} :
    (workers.find? fun w => w.cycles ≠ cycles) = some w ↔ w.cycles ≠ cycles ∧
      ∃ before after, workers = before ++ w :: after ∧ ∀ v ∈ before, v.cycles = cycles := by
  simp [List.find?_eq_some_iff_append]

theorem FirstWrong.of_runFault (hcode : o.exitCode = some 0)
    (hfits : ∀ r, readPrinted Contention.Report.codec o = .ok r → Fits cycles r)
    (h : contentionRunFault cycles o = some why) : FirstWrong cycles o why := by
  unfold contentionRunFault at h
  simp only [hcode, ne_eq, not_true_eq_false, if_false] at h
  cases hread : readPrinted Contention.Report.codec o with
  | error e =>
    rw [hread] at h
    cases h
    exact .unreadable hread
  | ok r =>
    have hfits := hfits r hread
    have hacquired := Contention.Report.toNat_totalAcquisitions hfits.acquired
    have hexpected := toNat_expectedAcquisitions hfits.expected
    simp only [hread] at h
    split at h
    · next hdiffers =>
      cases h
      exact .total hread hacquired hexpected hdiffers
    next htotal =>
    have htotal := hfits.total_iff.1 (not_not.1 htotal)
    split at h
    · next hshared =>
      cases h
      exact .sharedLock hread htotal (not_mutualExclusionHeld_iff.1 hshared)
    next hexclusion =>
    have hheld := mutualExclusionHeld_iff.1 (Bool.eq_true_of_not_eq_false hexclusion)
    obtain ⟨w, hfind, rfl⟩ := Option.map_eq_some_iff.1 h
    obtain ⟨hdeviates, before, after, hsplit, hdone⟩ := find_deviating_iff.1 hfind
    exact .workerCycles hread htotal hheld hsplit hdone hdeviates

theorem FirstWrong.runFault (hcode : o.exitCode = some 0)
    (hfits : ∀ r, readPrinted Contention.Report.codec o = .ok r → Fits cycles r)
    (h : FirstWrong cycles o why) : contentionRunFault cycles o = some why := by
  unfold contentionRunFault
  cases h with
  | unreadable read => simp only [hcode, ne_eq, not_true_eq_false, if_false, read]
  | total read acquired expected differs =>
    have hfits := hfits _ read
    have hacquired := Contention.Report.toNat_totalAcquisitions hfits.acquired
    have hexpected := toNat_expectedAcquisitions hfits.expected
    obtain rfl := UInt64.toNat_inj.1 (acquired.trans hacquired.symm)
    obtain rfl := UInt64.toNat_inj.1 (expected.trans hexpected.symm)
    simp only [hcode, ne_eq, not_true_eq_false, if_false, read, differs, not_false_eq_true, if_true]
  | sharedLock read total shared =>
    have htotal := (hfits _ read).total_iff.2 total
    have hshared := not_mutualExclusionHeld_iff.2 shared
    simp only [hcode, ne_eq, not_true_eq_false, if_false, read, htotal, hshared, if_true]
  | workerCycles read total exclusion split done deviates =>
    have htotal := (hfits _ read).total_iff.2 total
    have hheld := mutualExclusionHeld_iff.2 exclusion
    have hfind := find_deviating_iff.2 ⟨deviates, _, _, split, done⟩
    simp only [hcode, ne_eq, not_true_eq_false, if_false, read, htotal, hheld, Bool.true_eq_false]
    exact congrArg _ hfind

/-- The checks of one run, in their order. -/
theorem contentionRunFault_eq_some_iff (hcode : o.exitCode = some 0)
    (hfits : ∀ r, readPrinted Contention.Report.codec o = .ok r → Fits cycles r) :
    contentionRunFault cycles o = some why ↔ FirstWrong cycles o why :=
  ⟨.of_runFault hcode hfits, FirstWrong.runFault hcode hfits⟩

/-- **The first run at fault.** If all exit codes are zero, what is told is the first thing that is
wrong with the first run that is not as it should be. -/
theorem contentionVerdict_eq_fail_iff (hcodes : ∀ o ∈ outputs, o.exitCode = some 0)
    (hfits : ∀ o ∈ outputs, ∀ r, readPrinted Contention.Report.codec o = .ok r →
      Fits cycles r) :
    contentionVerdict cycles outputs = .fail why ↔
      ∃ before o after, outputs = before ++ o :: after ∧
        (∀ b ∈ before, Prints Contention.Report.codec (Completes cycles) b) ∧
        FirstWrong cycles o why := by
  have hstable := codesStable_of_forall hcodes
  have hfail : contentionVerdict cycles outputs = .fail why ↔
      outputs.findSome? (contentionRunFault cycles) = some why := by
    unfold contentionVerdict
    rw [hstable]
    cases outputs.findSome? (contentionRunFault cycles) <;> simp
  rw [hfail, List.findSome?_eq_some_iff]
  constructor
  · intro h
    obtain ⟨before, o, after, rfl, hfault, hbefore⟩ := h
    have hchecks := @contentionRunFault_eq_some_iff _ _ why (hcodes o (by simp)) (hfits o (by simp))
    exact ⟨before, o, after, rfl, fun b hb => contentionRunFault_eq_none_iff.1 (hbefore b hb),
      hchecks.1 hfault⟩
  · intro h
    obtain ⟨before, o, after, rfl, hbefore, hwrong⟩ := h
    have hchecks := @contentionRunFault_eq_some_iff _ _ why (hcodes o (by simp)) (hfits o (by simp))
    exact ⟨before, o, after, rfl, hchecks.2 hwrong,
      fun b hb => contentionRunFault_eq_none_iff.2 (hbefore b hb)⟩

theorem contention_passed_iff :
    (contentionResult cycles (.ok outputs)).outcome = .passed ↔
      ∀ o ∈ outputs, Prints Contention.Report.codec (Completes cycles) o := by
  unfold contentionResult
  rw [passed_iff]
  simp [contentionVerdict_eq_pass_iff, Prints]

/-- Contention runs need no interface. -/
theorem contention_ne_skipped (cycles : UInt32) (outputs : List Output) :
    (contentionResult cycles (.ok outputs)).outcome ≠ .skipped := by
  intro h
  have hskip := outcome_eq_skipped_iff.1 h
  unfold contentionVerdict at hskip
  split at hskip
  · cases hskip
  · split at hskip <;> cases hskip

/-- What a report of full work says, read off its workers and locks. -/
theorem completes_iff_read {r : Contention.Report} (hfits : Fits cycles r) :
    Completes cycles r ↔ (∀ w ∈ r.workers, w.cycles = cycles) ∧
      (r.locks.map fun l => l.acquisitions.toNat).sum = r.workers.length * cycles.toNat ∧
      ∀ l ∈ r.locks, ¬1 < l.peakHolders := by
  simp only [completes_iff, mutualExclusionHeld_iff, hfits.total_iff, Contention.Report.acquired,
    UInt64.not_lt]
  constructor
  · intro h
    exact ⟨h.2.2, h.1, h.2.1⟩
  · intro h
    exact ⟨h.2.1, h.2.2, h.1⟩

/-- **Each contention run.** As long as what is added up fits into words, runs pass if each exits
with code zero and reports workers that have all done their cycles, as many acquisitions as they
have cycles together, and no lock with two holders; all other runs fail. If all exit codes are zero,
a failure tells the first check that the first run at fault does not pass. Whatever is added up, no
runs are skipped, neither order nor repetition counts, and runs pass together if they pass apart. -/
theorem contention_runs_judged (cycles : UInt32) (outputs : List Output) :
    let result := fun os => contentionResult cycles (.ok os)
    let fits := ∀ o ∈ outputs, ∀ r, readPrinted Contention.Report.codec o = .ok r → Fits cycles r
    let works := fun o : Output => o.exitCode = some 0 ∧
      ∃ r, readPrinted Contention.Report.codec o = .ok r ∧
        (∀ w ∈ r.workers, w.cycles = cycles) ∧
        (r.locks.map fun l => l.acquisitions.toNat).sum = r.workers.length * cycles.toNat ∧
        ∀ l ∈ r.locks, ¬1 < l.peakHolders
    (fits → ((result outputs).outcome = .passed ↔ ∀ o ∈ outputs, works o)) ∧
    (fits → ((result outputs).outcome = .failed ↔ ¬∀ o ∈ outputs, works o)) ∧
    (result outputs).outcome ≠ .skipped ∧
    (fits → (∀ o ∈ outputs, o.exitCode = some 0) → ∀ detail,
      (result outputs = ⟨"semaphore_contention", .failed, detail⟩ ↔
        ∃ before o after why, outputs = before ++ o :: after ∧ (∀ b ∈ before, works b) ∧
          FirstWrong cycles o why ∧ detail = why.message)) ∧
    (∀ others, (∀ o, o ∈ others ↔ o ∈ outputs) →
      (result others).outcome = (result outputs).outcome) ∧
    ∀ others, ((result (outputs ++ others)).outcome = .passed ↔
      (result outputs).outcome = .passed ∧ (result others).outcome = .passed) := by
  intro result fits works
  have hworks : fits → ∀ o ∈ outputs,
      (works o ↔ Prints Contention.Report.codec (Completes cycles) o) := by
    intro hfits o ho
    refine and_congr_right fun _ => exists_congr fun r => and_congr_right fun hr => ?_
    exact (completes_iff_read (hfits o ho r hr)).symm
  have hpassed : ∀ os, (result os).outcome = .passed ↔
      ∀ o ∈ os, Prints Contention.Report.codec (Completes cycles) o := fun os =>
    contention_passed_iff
  have hskipped : ∀ os, (result os).outcome ≠ .skipped := contention_ne_skipped cycles
  have hall : fits → ((result outputs).outcome = .passed ↔ ∀ o ∈ outputs, works o) := fun hfits =>
    (hpassed outputs).trans (forall₂_congr fun o ho => (hworks hfits o ho).symm)
  refine ⟨hall, ?_, hskipped outputs, ?_, ?_, ?_⟩
  · intro hfits
    rw [Outcome.eq_failed_iff, ne_eq _ Outcome.passed, hall hfits]
    exact and_iff_right (hskipped outputs)
  · intro hfits hcodes detail
    constructor
    · intro hresult
      obtain ⟨why, hwhy, hdetail⟩ := result_eq_failed_iff.1 hresult
      obtain ⟨before, o, after, hsplit, hbefore, hwrong⟩ :=
        (contentionVerdict_eq_fail_iff hcodes hfits).1 hwhy
      refine ⟨before, o, after, why, hsplit, fun b hb => ?_, hwrong, hdetail⟩
      exact (hworks hfits b (by simp [hsplit, hb])).2 (hbefore b hb)
    · intro hfirst
      obtain ⟨before, o, after, why, hsplit, hbefore, hwrong, hdetail⟩ := hfirst
      have hwhy := (contentionVerdict_eq_fail_iff hcodes hfits).2
        ⟨before, o, after, hsplit,
          fun b hb => (hworks hfits b (by simp [hsplit, hb])).1 (hbefore b hb), hwrong⟩
      exact result_eq_failed_iff.2 ⟨why, hwhy, hdetail⟩
  · intro others hsame
    apply Outcome.eq_of_iff
    · exact iff_of_false (hskipped others) (hskipped outputs)
    · simp only [hpassed, hsame]
  · intro others
    simp only [hpassed, List.forall_mem_append]

/-- Behind a run as it should be, one whose acquisitions add up although one worker did a cycle of
another's. -/
theorem borrowed_cycle_told :
    let good : Contention.Report := ⟨.join, [⟨0, 0, 2⟩], [⟨0, 2, 1⟩], 1⟩
    let odd : Contention.Report := ⟨.join, [⟨0, 0, 2⟩, ⟨1, 0, 3⟩, ⟨2, 0, 1⟩], [⟨0, 6, 1⟩], 3⟩
    contentionResult 2 (.ok [.ofLine (Contention.Report.codec.line good),
        .ofLine (Contention.Report.codec.line odd)]) =
      ⟨"semaphore_contention", .failed, "worker 1 completed 3 cycles"⟩ := by
  intro good odd
  obtain ⟨-, -, -, hfirst, -, -⟩ := contention_runs_judged 2
    [.ofLine (Contention.Report.codec.line good), .ofLine (Contention.Report.codec.line odd)]
  have hgood := readPrinted_ofLine good.record_faithful.codec
  have hodd := readPrinted_ofLine odd.record_faithful.codec
  have hwrong := @FirstWrong.workerCycles 2 _ odd hodd (by decide) (by decide) [⟨0, 0, 2⟩]
    [⟨2, 0, 1⟩] ⟨1, 0, 3⟩ rfl (by decide) (by decide)
  refine (hfirst ?_ (by simp [Output.ofLine]) _).2
    ⟨[.ofLine (Contention.Report.codec.line good)], _, [], _, rfl, ?_, hwrong, by decide⟩
  · intro o ho r hr
    rcases List.mem_pair.1 ho with rfl | rfl
    · cases hgood.symm.trans hr
      constructor <;> decide
    · cases hodd.symm.trans hr
      constructor <;> decide
  · intro o ho
    obtain rfl := List.mem_singleton.1 ho
    exact ⟨rfl, good, hgood, by decide, by decide, by decide⟩

end Contention

end Standstill.Orchestrator
