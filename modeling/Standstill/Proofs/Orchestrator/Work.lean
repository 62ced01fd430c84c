import Mathlib
import Standstill.Proofs.Orchestrator.Runs
import Standstill.Proofs.Orchestrator.Verdicts

/-!
# What a pass stands for

A fixture passes by what its runs leave. A pass of the socket fixture takes at
least one run, and each run a report of bytes that came across. The checks of the
contention fixture speak of each run and each worker only: they are met without any
run, and by a report without any worker. With a run to make, and workers in all
reports, a pass of the contention fixture stands for acquisitions too, as long as
the workers are not so many that what is expected of them wraps around to zero.

Results:
* `prints_pass_iff`: the lines that tell of a pass.
* `eachRun_iff`: what the check of all outputs says of each run.
* `socket_passes_iff`, `contention_passes_iff`: when the two fixtures pass.
* `passes_shown`: when a pass stands for work, and `nothing_done_passes`: when not.
-/
namespace Standstill.Orchestrator

/-! ## The lines that tell of a pass -/

/-- The names under which the fixtures are judged. -/
def IsFixture (name : String) : Prop := name = "socket_blocking" ∨ name = "semaphore_contention"

/-- Whether a line tells that a fixture passed. -/
def isPassLine (name line : String) : Bool := (name ++ ": PASS (").toList.isPrefixOf line.toList

/-- It is printed that a fixture passed. -/
def Summary.PrintsPass (s : Summary) (name : String) : Prop :=
  ∃ line ∈ s.lines, isPassLine name line = true

theorem isPassLine_line {name : String} {r : Result} (hname : IsFixture name)
    (hr : IsFixture r.name) :
    isPassLine name r.line = decide (r.name = name ∧ r.outcome = .passed) := by
  obtain ⟨name', outcome, detail⟩ := r
  rcases hname with rfl | rfl <;> rcases hr with rfl | rfl <;> cases outcome <;>
    simp [isPassLine, Result.line, Outcome.word, String.toList_append, List.isPrefixOf]

/-- The lines around the results tell of no pass. -/
theorem isPassLine_other {name : String} (hname : IsFixture name) (n m : Nat) :
    isPassLine name "" = false ∧ isPassLine name "=== Blocking Scenario Results ===" = false ∧
      isPassLine name ("Failed: " ++ toString n ++ "/" ++ toString m) = false := by
  rcases hname with rfl | rfl <;>
    simp [isPassLine, String.toList_append, List.isPrefixOf]

theorem prints_pass_iff {s : Summary} {name : String} (hname : IsFixture name)
    (hresults : ∀ r ∈ s.results, IsFixture r.name) :
    s.PrintsPass name ↔ ∃ r ∈ s.results, r.name = name ∧ r.outcome = .passed := by
  obtain ⟨hempty, htitle, hcount⟩ := isPassLine_other hname s.failed s.results.length
  have hline (r) (hr : r ∈ s.results) := isPassLine_line hname (hresults r hr)
  simp only [Summary.PrintsPass, Summary.lines, List.cons_append, List.nil_append,
    List.mem_cons, List.mem_append, List.mem_map, List.not_mem_nil, or_false]
  constructor
  · rintro ⟨line, rfl | rfl | ⟨r, hr, rfl⟩ | rfl, hpass⟩
    · cases hempty.symm.trans hpass
    · cases htitle.symm.trans hpass
    · rw [hline r hr] at hpass
      exact ⟨r, hr, of_decide_eq_true hpass⟩
    · cases hcount.symm.trans hpass
  · rintro ⟨r, hr, hpass⟩
    exact ⟨r.line, .inr (.inr (.inl ⟨r, hr, rfl⟩)), (hline r hr).trans (decide_eq_true hpass)⟩

theorem passed_iff {φ : Type} {name passText : String} {message : φ → String}
    {r : Except Broken (List Output)} {check : List Output → Verdict φ} :
    (Result.ofVerdict name passText message (r.map check)).outcome = .passed ↔
      ∃ outputs, r = .ok outputs ∧ ∃ n, check outputs = .pass n := by
  cases r with
  | error b => simp [Except.map, Result.ofVerdict]
  | ok outputs =>
    simp only [Except.map, Except.ok.injEq, exists_eq_left']
    cases check outputs <;> simp [Result.ofVerdict]

/-! ## What is left of each run -/

/-- All runs of a fixture are over in time, and each leaves what is asked for. -/
def Plan.EachRun (p : Plan) (f : Fixture) (Q : Output → Prop) : Prop :=
  ∃ run, f = .present run ∧ ∀ i < p.runs, (run i).inTime p.limit = true ∧
    ∃ o, (run i).output? = some o ∧ Q o

/-- A run exits with code zero and prints a record as asked for. -/
def Prints {α : Type} (codec : Json.Codec α) (Q : α → Prop) (o : Output) : Prop :=
  o.exitCode = some 0 ∧ ∃ a, readPrinted codec o = .ok a ∧ Q a

theorem Plan.EachRun.started {p : Plan} {f : Fixture} {Q : Output → Prop} (h : p.EachRun f Q) :
    (p.run f).started = p.runs := by
  obtain ⟨run, rfl, h⟩ := h
  exact (run_inTime fun i hi => (h i hi).1).1

theorem Behaviour.exists_output_of_inTime {limit : Span} {b : Behaviour}
    (h : b.inTime limit = true) : ∃ o, b.output? = some o := by
  obtain ⟨hsome, -⟩ := (Bool.and_eq_true _ _).mp h
  exact Option.isSome_iff_exists.1 hsome

/-- A fixture that is to be run leaves outputs only if it is there and no run was late. -/
theorem inTime_of_result {p : Plan} {f : Fixture} {outputs : List Output} (hruns : p.runs ≠ 0)
    (h : (p.run f).result = .ok outputs) :
    ∃ run, f = .present run ∧ ∀ i < p.runs, (run i).inTime p.limit = true := by
  cases f with
  | missing fault =>
    obtain ⟨n, hn⟩ := Nat.exists_eq_succ_of_ne_zero hruns
    rw [Plan.run, hn, runFrom_missing] at h
    cases h
  | present run =>
    refine ⟨run, rfl, fun i hi => ?_⟩
    by_contra hlate
    rw [result_run_of_late hi (Bool.eq_false_of_not_eq_true hlate)] at h
    cases h

/-- The outputs of all runs are as asked for, and there are none without a run. -/
theorem eachRun_iff {p : Plan} {f : Fixture} {Q : Output → Prop} :
    (∃ outputs, (p.run f).result = .ok outputs ∧ ∀ o ∈ outputs, Q o) ↔
      p.runs = 0 ∨ p.EachRun f Q := by
  constructor
  · rintro ⟨outputs, hresult, hall⟩
    by_cases hruns : p.runs = 0
    · exact .inl hruns
    -- Outputs were left, so every run has one, and it is among those that are checked.
    obtain ⟨run, rfl, htimely⟩ := inTime_of_result hruns hresult
    rw [(run_inTime htimely).2] at hresult
    cases hresult
    refine .inr ⟨run, rfl, fun i hi => ⟨htimely i hi, ?_⟩⟩
    obtain ⟨o, ho⟩ := Behaviour.exists_output_of_inTime (htimely i hi)
    exact ⟨o, ho, hall o (List.mem_filterMap.2 ⟨i, List.mem_range.2 hi, ho⟩)⟩
  · rintro (hruns | ⟨run, rfl, h⟩)
    · refine ⟨[], ?_, by simp⟩
      rw [Plan.run, hruns]
      rfl
    · refine ⟨_, (run_inTime fun i hi => (h i hi).1).2, fun o ho => ?_⟩
      obtain ⟨i, hi, hio⟩ := List.mem_filterMap.1 ho
      obtain ⟨o', ho', hq⟩ := (h i (List.mem_range.1 hi)).2
      cases hio.symm.trans ho'
      exact hq

theorem Prints.imp {α : Type} {codec : Json.Codec α} {Q R : α → Prop} {o : Output}
    (h : Prints codec Q o) (hqr : ∀ a, Q a → R a) : Prints codec R o := by
  obtain ⟨hcode, a, ha, hq⟩ := h
  exact ⟨hcode, a, ha, hqr a hq⟩

/-- A run prints one record only. -/
theorem Prints.and {α : Type} {codec : Json.Codec α} {Q R : α → Prop} {o : Output}
    (hq : Prints codec Q o) (hr : Prints codec R o) : Prints codec (fun a => Q a ∧ R a) o := by
  obtain ⟨hcode, a, ha, hqa⟩ := hq
  obtain ⟨-, b, hb, hrb⟩ := hr
  cases ha.symm.trans hb
  exact ⟨hcode, a, ha, hqa, hrb⟩

theorem Plan.EachRun.imp {p : Plan} {f : Fixture} {Q R : Output → Prop} (h : p.EachRun f Q)
    (hqr : ∀ o, Q o → R o) : p.EachRun f R := by
  obtain ⟨run, hf, h⟩ := h
  refine ⟨run, hf, fun i hi => ?_⟩
  obtain ⟨htimely, o, ho, hq⟩ := h i hi
  exact ⟨htimely, o, ho, hqr o hq⟩

theorem Plan.EachRun.and {p : Plan} {f : Fixture} {Q R : Output → Prop} (hq : p.EachRun f Q)
    (hr : p.EachRun f R) : p.EachRun f fun o => Q o ∧ R o := by
  obtain ⟨run, rfl, hq⟩ := hq
  obtain ⟨run', hrun, hr⟩ := hr
  cases hrun
  refine ⟨run, rfl, fun i hi => ?_⟩
  obtain ⟨htimely, o, ho, hqo⟩ := hq i hi
  obtain ⟨-, o', ho', hro⟩ := hr i hi
  cases ho.symm.trans ho'
  exact ⟨htimely, o, ho, hqo, hro⟩

/-- Some run of a fixture was made, and each run left what is asked for. -/
structure Plan.Shown (p : Plan) (f : Fixture) (starts : Nat) (Q : Output → Prop) : Prop where
  made : 0 < starts
  left : p.EachRun f Q

theorem shown_iff {p : Plan} {f : Fixture} {Q : Output → Prop} :
    p.Shown f (p.run f).started Q ↔ p.runs ≠ 0 ∧ p.EachRun f Q := by
  constructor
  · rintro ⟨hmade, hleft⟩
    rw [hleft.started] at hmade
    exact ⟨by omega, hleft⟩
  · rintro ⟨hruns, hleft⟩
    exact ⟨by rw [hleft.started]; omega, hleft⟩

/-- A check that asks for an output is one that asks for a run. -/
theorem shown_iff_outputs {p : Plan} {f : Fixture} {Q : Output → Prop} :
    (∃ outputs, (p.run f).result = .ok outputs ∧ outputs ≠ [] ∧ ∀ o ∈ outputs, Q o) ↔
      p.Shown f (p.run f).started Q := by
  have hlength {outputs} (h : (p.run f).result = .ok outputs) :
      outputs ≠ [] ↔ p.runs ≠ 0 := by
    rw [← (length_outputs h).1, ne_eq, ne_eq, List.length_eq_zero_iff]
  rw [shown_iff]
  constructor
  · rintro ⟨outputs, hresult, hsome, hall⟩
    have hruns := (hlength hresult).1 hsome
    exact ⟨hruns, (eachRun_iff.1 ⟨outputs, hresult, hall⟩).resolve_left hruns⟩
  · rintro ⟨hruns, hleft⟩
    obtain ⟨outputs, hresult, hall⟩ := eachRun_iff.2 (.inr hleft)
    exact ⟨outputs, hresult, (hlength hresult).2 hruns, hall⟩

/-! ## When the fixtures pass -/

section Passes
variable (s : Settings) (home : String) (socket contention : Fixture)

/-- The two results of a whole run have the names of the fixtures. -/
theorem prints_pass_runAll :
    let whole := runAll s home socket contention
    (whole.PrintsPass "socket_blocking" ↔
      (socketResult ((s.socketPlan home).run socket).result).outcome = .passed) ∧
    (whole.PrintsPass "semaphore_contention" ↔
      (contentionResult s.cycles ((s.contentionPlan home).run contention).result).outcome =
        .passed) := by
  intro whole
  have hfirst (r) : (socketResult r).name = "socket_blocking" := name_ofVerdict ..
  have hsecond (r) : (contentionResult s.cycles r).name = "semaphore_contention" :=
    name_ofVerdict ..
  have hnamed : ∀ r ∈ whole.results, IsFixture r.name := by
    simp [whole, runAll, IsFixture, hfirst, hsecond]
  rw [prints_pass_iff (.inl rfl) hnamed, prints_pass_iff (.inr rfl) hnamed]
  simp [whole, runAll, hfirst, hsecond]

/-- A pass of the socket fixture takes a run, and bytes that came across in each. -/
theorem socket_passes_iff :
    (runAll s home socket contention).PrintsPass "socket_blocking" ↔
      (s.socketPlan home).Shown socket (runAll s home socket contention).socketStarts
        (Prints Socket.Report.codec Exchanges) := by
  rw [(prints_pass_runAll s home socket contention).1, socketResult, passed_iff]
  refine Iff.trans ?_ shown_iff_outputs
  simp [socketVerdict_eq_pass_iff, Prints]

/-- A pass of the contention fixture takes workers that have done their cycles, if there is a run
and as far as there are workers. -/
theorem contention_passes_iff :
    (runAll s home socket contention).PrintsPass "semaphore_contention" ↔
      s.runs = 0 ∨ (s.contentionPlan home).EachRun contention
        (Prints Contention.Report.codec (Completes s.cycles)) := by
  have hruns : s.runs = 0 ↔ (s.contentionPlan home).runs = 0 := UInt32.toNat_inj.symm
  rw [(prints_pass_runAll s home socket contention).2, contentionResult, passed_iff, hruns,
    ← eachRun_iff]
  simp [contentionVerdict_eq_pass_iff, Prints]

end Passes

/-- A report of actual work: of at least one worker, and of an acquisition if there was a cycle
to run. -/
structure Works (cycles : UInt32) (r : Contention.Report) : Prop where
  workers : r.workers ≠ []
  acquired : cycles ≠ 0 → ∃ l ∈ r.locks, 0 < l.acquisitions

/-- Locks that were never taken add up to zero. -/
theorem exists_acquisition {r : Contention.Report} (h : r.totalAcquisitions ≠ 0) :
    ∃ l ∈ r.locks, 0 < l.acquisitions := by
  by_contra hnone
  have hzero : r.acquired = 0 := by
    refine List.sum_eq_zero fun n hn => ?_
    obtain ⟨l, hl, rfl⟩ := List.mem_map.1 hn
    by_contra hsome
    exact hnone ⟨l, hl, UInt64.lt_iff_toNat_lt.2 (Nat.pos_of_ne_zero hsome)⟩
  rw [r.totalAcquisitions_eq, hzero] at h
  exact h rfl

/-- What fewer workers than a word of 32 bits counts have to do together does not wrap around to
zero. -/
theorem expectedAcquisitions_ne_zero {cycles : UInt32} {r : Contention.Report}
    (hcycles : cycles ≠ 0) (hworkers : r.workers ≠ []) (hfew : r.workers.length < UInt32.size) :
    expectedAcquisitions cycles r ≠ 0 := by
  have hpos : 0 < cycles.toNat := Nat.pos_of_ne_zero fun h0 => hcycles (UInt32.toNat_inj.1 h0)
  have hsome : 0 < r.workers.length * cycles.toNat :=
    Nat.mul_pos (List.length_pos_iff.2 hworkers) hpos
  have hfits : r.workers.length * cycles.toNat < UInt64.size :=
    Nat.mul_lt_mul_of_lt_of_le hfew cycles.toNat_lt_size.le (by decide)
  intro hzero
  rw [← UInt64.toNat_inj, toNat_expectedAcquisitions hfits] at hzero
  exact hsome.ne' hzero

/-- A report that adds up is one of work if it has workers. Only if what is expected of them wraps
around to zero do the acquisitions have to be looked for. -/
theorem Completes.works_iff {cycles : UInt32} {r : Contention.Report} (h : Completes cycles r) :
    Works cycles r ↔ r.workers ≠ [] ∧ (cycles ≠ 0 → expectedAcquisitions cycles r = 0 →
      ∃ l ∈ r.locks, 0 < l.acquisitions) := by
  constructor
  · exact fun hworks => ⟨hworks.workers, fun hcycles _ => hworks.acquired hcycles⟩
  · rintro ⟨hworkers, hwrapped⟩
    refine ⟨hworkers, fun hcycles => ?_⟩
    by_cases hzero : expectedAcquisitions cycles r = 0
    · exact hwrapped hcycles hzero
    · exact exists_acquisition (h.total ▸ hzero)

/-- A fixture of which each run prints a line. -/
def Fixture.printing (line : String) : Fixture :=
  .present fun _ => .ends (some 0) (encodeText (line ++ "\n")) 5

theorem eachRun_printing_iff {α : Type} {p : Plan} {codec : Json.Codec α} {a : α} {Q : α → Prop}
    (hlimit : p.limit.isZero = false) (ha : codec.Faithful a) :
    p.EachRun (.printing (codec.line a)) (Prints codec Q) ↔ p.runs = 0 ∨ Q a := by
  have hprinted := readPrinted_ofLine ha
  constructor
  · rintro ⟨run, hrun, h⟩
    by_cases hruns : p.runs = 0
    · exact .inl hruns
    obtain ⟨-, o, ho, -, b, hb, hq⟩ := h 0 (Nat.pos_of_ne_zero hruns)
    cases hrun
    cases ho
    cases hb.symm.trans hprinted
    exact .inr hq
  · intro h
    refine ⟨_, rfl, fun i hi => ⟨by simp [Behaviour.inTime, Behaviour.output?, hlimit], ?_⟩⟩
    exact ⟨_, rfl, rfl, a, hprinted, h.resolve_left (by omega)⟩

/-- **What a pass stands for.** The socket fixture passes exactly if some run of it was made and
the report of each run has a connector that received some bytes. The contention fixture passes
exactly if no run was to be made, or each run has a report of workers that have done all their
cycles. Its pass stands for a run, a worker in each report and acquisitions there exactly if some
run was to be made, no report is without workers, and there are acquisitions where what is expected
wraps around to zero. It never does for fewer workers than a word of 32 bits counts. -/
theorem passes_shown (s : Settings) (home : String) (socket contention : Fixture) :
    let p := s.socketPlan home
    let q := s.contentionPlan home
    let whole := runAll s home socket contention
    (whole.PrintsPass "socket_blocking" ↔
      p.Shown socket whole.socketStarts (Prints Socket.Report.codec Exchanges)) ∧
    (whole.PrintsPass "semaphore_contention" ↔
      s.runs = 0 ∨
        q.EachRun contention (Prints Contention.Report.codec (Completes s.cycles))) ∧
    (whole.PrintsPass "semaphore_contention" →
      (q.Shown contention whole.contentionStarts
          (Prints Contention.Report.codec (Works s.cycles)) ↔
        s.runs ≠ 0 ∧ q.EachRun contention (Prints Contention.Report.codec fun r =>
          r.workers ≠ [] ∧ (s.cycles ≠ 0 → expectedAcquisitions s.cycles r = 0 →
            ∃ l ∈ r.locks, 0 < l.acquisitions)))) ∧
    (s.cycles ≠ 0 → ∀ r : Contention.Report, r.workers ≠ [] → r.workers.length < UInt32.size →
      expectedAcquisitions s.cycles r ≠ 0) := by
  intro p q whole
  have hpass := contention_passes_iff s home socket contention
  refine ⟨socket_passes_iff s home socket contention, hpass, fun h => ?_,
    fun hcycles r => expectedAcquisitions_ne_zero hcycles⟩
  have hruns : s.runs ≠ 0 ↔ q.runs ≠ 0 := not_congr UInt32.toNat_inj.symm
  have hshown := @shown_iff q contention (Prints Contention.Report.codec (Works s.cycles))
  rw [hruns]
  refine hshown.trans (and_congr_right fun hsome => ?_)
  have hcompletes := (hpass.1 h).resolve_left (hruns.2 hsome)
  -- Both sides speak of the reports that made the fixture pass, since a run prints one only.
  constructor
  · intro hworks
    refine (hcompletes.and hworks).imp fun o ho => ?_
    exact (ho.1.and ho.2).imp fun r hr => hr.1.works_iff.1 hr.2
  · intro hworkers
    refine (hcompletes.and hworkers).imp fun o ho => ?_
    exact (ho.1.and ho.2).imp fun r hr => hr.1.works_iff.2 hr.2

/-- Without any run to make, and with reports without any worker, the contention fixture passes: one
that is not there is never started, and one that is there acquires nothing in five cycles. Without
a run the socket fixture does not pass. -/
theorem nothing_done_passes :
    let absent : Fixture := .missing (.errno ⟨2⟩)
    let idle := runAll { runs := 0 } "/opt" absent absent
    let s : Settings := { runs := 1, cycles := 5 }
    let contention : Fixture := .printing (Contention.Report.codec.line ⟨.join, [], [], 0⟩)
    let whole := runAll s "/opt" absent contention
    (idle.PrintsPass "semaphore_contention" ∧ idle.contentionStarts = 0 ∧
      ¬idle.PrintsPass "socket_blocking") ∧
    whole.PrintsPass "semaphore_contention" ∧ whole.contentionStarts = 1 ∧
      ¬(s.contentionPlan "/opt").EachRun contention
        (Prints Contention.Report.codec (Works s.cycles)) := by
  intro absent idle s contention whole
  have hfaithful := (Contention.Report.record_faithful ⟨.join, [], [], 0⟩).codec
  have hleft {Q} := @eachRun_printing_iff _ (s.contentionPlan "/opt") _ _ Q (by decide) hfaithful
  refine ⟨⟨?_, rfl, ?_⟩, ?_, rfl, ?_⟩
  · exact (contention_passes_iff ..).2 (.inl rfl)
  · exact fun h => absurd ((socket_passes_iff ..).1 h).made (Nat.lt_irrefl 0)
  · exact (contention_passes_iff ..).2 (.inr (hleft.2 (.inr ⟨rfl, rfl, by simp⟩)))
  · intro h
    have hworks := (hleft.1 h).resolve_left (by decide)
    exact hworks.workers rfl

/-- Three runs of a fixture with one worker on one lock: a pass that stands for acquisitions. -/
theorem three_runs_shown :
    let s : Settings := { runs := 3, cycles := 2 }
    let absent : Fixture := .missing (.errno ⟨2⟩)
    let r : Contention.Report := ⟨.join, [⟨0, 0, 2⟩], [⟨0, 2, 1⟩], 1⟩
    let contention : Fixture := .printing (Contention.Report.codec.line r)
    let whole := runAll s "/opt" absent contention
    whole.PrintsPass "semaphore_contention" ∧
      (s.contentionPlan "/opt").Shown contention whole.contentionStarts
        (Prints Contention.Report.codec (Works 2)) := by
  intro s absent r contention whole
  obtain ⟨-, hpass, hshown, hexpected⟩ := passes_shown s "/opt" absent contention
  have hleft {Q} := @eachRun_printing_iff _ (s.contentionPlan "/opt") _ _ Q (by decide)
    r.record_faithful.codec
  have hcompletes : Completes 2 r := by constructor <;> decide
  have hprinted := hpass.2 (.inr (hleft.2 (.inr hcompletes)))
  have hsome : r.workers ≠ [] := by simp [r]
  have hwrapped := hexpected (by decide) r hsome (by decide)
  refine ⟨hprinted, (hshown hprinted).2 ⟨by decide, hleft.2 (.inr ⟨hsome, fun _ hzero => ?_⟩)⟩⟩
  exact absurd hzero hwrapped

end Standstill.Orchestrator
