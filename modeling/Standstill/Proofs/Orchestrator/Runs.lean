import Mathlib
import Standstill.Orchestrator.Run

/-!
# What a whole run of the orchestrator does

A fixture is started for one run after the other, always in the same way, until
all runs are made or one is not over in time. Its result is decided by its own
runs alone, and what is printed and the exit code follow from both results.

Results:
* `runFrom_of_inTime`, `runFrom_of_late`: the runs that are made of a fixture.
* `asked_runFrom`: what is asked of the system for them.
* `Judged`, `judged_run`: the result of a fixture by its own behaviour.
* `isFailLine_line`: which result lines tell of a failure.
* `both_fixtures_judged`: the whole run.
-/
namespace Standstill

/-- Whether a fixture is to be started. -/
def Event.isFixtureRun : Event → Bool
  | .fixtureRun _ _ => true
  | _ => false

namespace Orchestrator

/-! ## The runs of one fixture -/

namespace Behaviour

/-- What a run leaves that comes to an end. -/
def output? : Behaviour → Option Output
  | .ends code printed _ => some ⟨code, String.ofList (decodeMarked printed)⟩
  | .hangs => none

/-- Whether a run is over in time. No run is over in no time. -/
def inTime (limit : Span) (b : Behaviour) : Bool := b.output?.isSome && !limit.isZero

end Behaviour

section Runs

variable {p : Plan} {run : Nat → Behaviour} {index count : Nat}

/-- The event of starting a fixture. -/
def Plan.asked (p : Plan) : Event := .fixtureRun p.path p.arguments

theorem runFrom_missing (fault : IoFault) (p : Plan) (count index : Nat) :
    runFrom (.missing fault) p (count + 1) index = ⟨0, [p.asked], .error (.notStarted fault)⟩ := rfl

theorem runFrom_late (h : (run index).inTime p.limit = false) (count : Nat) :
    runFrom (.present run) p (count + 1) index =
      ⟨1, [p.asked], .error (.notInTime p.path p.limit)⟩ := by
  rw [runFrom]
  cases hb : run index with
  | hangs => rfl
  | ends code printed took =>
    have hzero : p.limit.isZero = true := by simpa [hb, Behaviour.inTime, Behaviour.output?] using h
    simp [hzero, Plan.asked]

theorem runFrom_inTime (h : (run index).inTime p.limit = true) (count : Nat) :
    ∃ output ended, (run index).output? = some output ∧ ended.isFixtureRun = false ∧
      runFrom (.present run) p (count + 1) index =
        (runFrom (.present run) p count (index + 1)).cons [p.asked, ended] output := by
  cases hb : run index with
  | hangs => simp [hb, Behaviour.inTime, Behaviour.output?] at h
  | ends code printed took =>
    have hlimit : p.limit.isZero = false := by
      simpa [hb, Behaviour.inTime, Behaviour.output?] using h
    refine ⟨_, .fixtureEnded (index + 1) p.runs code took, rfl, rfl, ?_⟩
    rw [runFrom]
    simp [hb, hlimit, Plan.asked]

/-- A fixture whose runs are all over in time is started for each, and leaves all their outputs. -/
theorem runFrom_of_inTime
    (h : ∀ i, index ≤ i → i < index + count → (run i).inTime p.limit = true) :
    (runFrom (.present run) p count index).started = count ∧
      (runFrom (.present run) p count index).result =
        .ok ((List.range' index count).filterMap fun i => (run i).output?) := by
  induction count generalizing index with
  | zero => exact ⟨rfl, rfl⟩
  | succ n ih =>
    obtain ⟨output, ended, houtput, -, hrun⟩ := runFrom_inTime (h index (by omega) (by omega)) n
    obtain ⟨hstarted, hresult⟩ := @ih (index + 1) fun i hle hlt => h i (by omega) (by omega)
    rw [hrun]
    simp [Runs.cons, hstarted, hresult, List.range'_succ, houtput, Except.map]

/-- The first run that is not over in time is the last one. -/
theorem runFrom_of_late {k : Nat} (hk : k < count)
    (hbefore : ∀ i, index ≤ i → i < index + k → (run i).inTime p.limit = true)
    (hlate : (run (index + k)).inTime p.limit = false) :
    (runFrom (.present run) p count index).started = k + 1 ∧
      (runFrom (.present run) p count index).result = .error (.notInTime p.path p.limit) := by
  obtain ⟨n, rfl⟩ : ∃ n, count = n + 1 := ⟨count - 1, by omega⟩
  induction k generalizing index n with
  | zero =>
    rw [Nat.add_zero] at hlate
    rw [runFrom_late hlate]
    exact ⟨rfl, rfl⟩
  | succ k ih =>
    obtain ⟨m, rfl⟩ : ∃ m, n = m + 1 := ⟨n - 1, by omega⟩
    obtain ⟨output, ended, -, -, hrun⟩ :=
      runFrom_inTime (hbefore index (by omega) (by omega)) (m + 1)
    obtain ⟨hstarted, hresult⟩ := @ih (index + 1)
      (fun i hle hlt => hbefore i (by omega) (by omega)) (by rwa [Nat.add_right_comm]) m (by omega)
    rw [hrun]
    simp [Runs.cons, hstarted, hresult, Except.map]

/-- A fixture that is there is asked for once for each start, and always in the same way. -/
theorem asked_runFrom (run : Nat → Behaviour) (p : Plan) (count index : Nat) :
    (runFrom (.present run) p count index).events.filter Event.isFixtureRun =
      List.replicate (runFrom (.present run) p count index).started p.asked := by
  induction count generalizing index with
  | zero => rfl
  | succ n ih =>
    cases h : (run index).inTime p.limit with
    | false =>
      rw [runFrom_late h]
      rfl
    | true =>
      obtain ⟨output, ended, -, hended, hrun⟩ := runFrom_inTime h n
      rw [hrun]
      simp only [Runs.cons, List.filter_append, ih, List.replicate_succ, List.filter_cons, hended]
      rfl

end Runs

/-! ## The result of one fixture -/

/-- How a fixture is judged, by its own behaviour. -/
structure Plan.Judged {φ : Type} (p : Plan) (f : Fixture) (name passText : String)
    (message : φ → String) (check : List Output → Verdict φ) (starts : Nat) (r : Result) :
    Prop where
  /-- No run is made after the first one that is not over in time. -/
  firstLate : ∀ run k, f = .present run → (∀ i < k, (run i).inTime p.limit = true) →
    (run k).inTime p.limit = false → starts = min p.runs (k + 1)
  neverLate : ∀ run, f = .present run → (∀ i, (run i).inTime p.limit = true) → starts = p.runs
  missing : ∀ fault, f = .missing fault → 0 < p.runs →
    starts = 0 ∧ r = ⟨name, .failed, fault.text⟩
  late : ∀ run k, f = .present run → k < p.runs → (run k).inTime p.limit = false →
    r = ⟨name, .failed, (Broken.notInTime p.path p.limit).message⟩
  inTime : ∀ run, f = .present run → (∀ i < p.runs, (run i).inTime p.limit = true) →
    r = .ofVerdict name passText message
      (.ok (check ((List.range p.runs).filterMap fun i => (run i).output?)))
  idle : p.runs = 0 → starts = 0 ∧ r = .ofVerdict name passText message (.ok (check []))

section Judged

variable {p : Plan} {run : Nat → Behaviour}

theorem run_inTime (h : ∀ i < p.runs, (run i).inTime p.limit = true) :
    (p.run (.present run)).started = p.runs ∧ (p.run (.present run)).result =
      .ok ((List.range p.runs).filterMap fun i => (run i).output?) := by
  rw [List.range_eq_range']
  exact runFrom_of_inTime fun i _ hi => h i (by omega)

theorem run_late {k : Nat} (hk : k < p.runs) (hbefore : ∀ i < k, (run i).inTime p.limit = true)
    (hlate : (run k).inTime p.limit = false) :
    (p.run (.present run)).started = k + 1 ∧
      (p.run (.present run)).result = .error (.notInTime p.path p.limit) :=
  runFrom_of_late hk (fun i _ hi => hbefore i (by omega)) (by rwa [Nat.zero_add])

/-- A late run breaks the runs off, even if it is not the first. -/
theorem result_run_of_late {k : Nat} (hk : k < p.runs) (hlate : (run k).inTime p.limit = false) :
    (p.run (.present run)).result = .error (.notInTime p.path p.limit) := by
  -- The run that breaks off is the first late one, which may be an earlier one than `k`.
  induction k using Nat.strong_induction_on with
  | _ k ih =>
    by_cases hbefore : ∀ i < k, (run i).inTime p.limit = true
    · exact (run_late hk hbefore hlate).2
    · simp only [not_forall, Bool.not_eq_true] at hbefore
      obtain ⟨i, hi, hearlier⟩ := hbefore
      exact ih i hi (by omega) hearlier

theorem judged_run {φ : Type} (p : Plan) (f : Fixture) (name passText : String)
    (message : φ → String) (check : List Output → Verdict φ) :
    p.Judged f name passText message check (p.run f).started
      (.ofVerdict name passText message ((p.run f).result.map check)) where
  firstLate := by
    rintro run k rfl hbefore hlate
    by_cases hk : k < p.runs
    · rw [(run_late hk hbefore hlate).1]
      omega
    · rw [(run_inTime fun i hi => hbefore i (by omega)).1]
      omega
  neverLate := by
    rintro run rfl h
    exact (run_inTime fun i _ => h i).1
  missing := by
    rintro fault rfl hruns
    obtain ⟨n, hn⟩ : ∃ n, p.runs = n + 1 := ⟨p.runs - 1, by omega⟩
    rw [Plan.run, hn, runFrom_missing]
    exact ⟨rfl, rfl⟩
  late := by
    rintro run k rfl hk hlate
    rw [result_run_of_late hk hlate]
    rfl
  inTime := by
    rintro run rfl h
    rw [(run_inTime h).2]
    rfl
  idle := by
    intro hruns
    rw [Plan.run, hruns]
    exact ⟨rfl, rfl⟩

end Judged

/-! ## Independence -/

/-- Two fixtures of which the first runs leave the same, however long these take. -/
inductive Fixture.Agree (runs : Nat) : Fixture → Fixture → Prop
  | missing (fault : IoFault) : Agree runs (.missing fault) (.missing fault)
  | present {run run' : Nat → Behaviour} (h : ∀ i < runs, (run i).output? = (run' i).output?) :
      Agree runs (.present run) (.present run')

theorem runFrom_congr {p : Plan} {run run' : Nat → Behaviour} {count index : Nat}
    (h : ∀ i, index ≤ i → i < index + count → (run i).output? = (run' i).output?) :
    (runFrom (.present run) p count index).result =
      (runFrom (.present run') p count index).result := by
  induction count generalizing index with
  | zero => rfl
  | succ n ih =>
    have hsame := h index (by omega) (by omega)
    have hrest := @ih (index + 1) fun i hle hlt => h i (by omega) (by omega)
    have htime : (run' index).inTime p.limit = (run index).inTime p.limit := by
      simp only [Behaviour.inTime, hsame]
    cases hin : (run index).inTime p.limit with
    | false => rw [runFrom_late hin, runFrom_late (htime.trans hin)]
    | true =>
      obtain ⟨o, ended, ho, -, hrun⟩ := runFrom_inTime hin n
      obtain ⟨o', ended', ho', -, hrun'⟩ := runFrom_inTime (htime.trans hin) n
      obtain rfl : o = o' := Option.some.inj (ho.symm.trans (hsame.trans ho'))
      rw [hrun, hrun']
      simp only [Runs.cons, hrest]

theorem Fixture.Agree.result_run {p : Plan} {f g : Fixture} (h : f.Agree p.runs g) :
    (p.run f).result = (p.run g).result := by
  cases h with
  | missing fault => rfl
  | present h => exact runFrom_congr fun i _ hi => h i (by omega)

/-! ## What is printed -/

/-- Whether a line tells that a fixture failed. -/
def isFailLine (line : String) : Bool :=
  "socket_blocking: FAIL (".toList.isPrefixOf line.toList ||
    "semaphore_contention: FAIL (".toList.isPrefixOf line.toList

theorem isFailLine_line {r : Result}
    (h : r.name = "socket_blocking" ∨ r.name = "semaphore_contention") :
    isFailLine r.line = decide (r.outcome = .failed) := by
  obtain ⟨name, outcome, detail⟩ := r
  rcases h with rfl | rfl <;> cases outcome <;>
    simp [isFailLine, Result.line, Outcome.word, String.toList_append, List.isPrefixOf]

theorem name_ofVerdict {φ : Type} (name passText : String) (message : φ → String)
    (v : Except Broken (Verdict φ)) : (Result.ofVerdict name passText message v).name = name := by
  rcases v with _ | _ | _ | _ <;> rfl

section Printed

variable {s : Summary} {first second : Result} (h : s.results = [first, second])
  (hfirst : first.name = "socket_blocking") (hsecond : second.name = "semaphore_contention")
include h hfirst hsecond

/-- The fixtures that failed are counted as the lines that tell so. -/
theorem failed_eq : s.failed = [first.line, second.line].countP isFailLine := by
  rw [Summary.failed, h]
  simp only [List.countP_cons, List.countP_nil, isFailLine_line (.inl hfirst),
    isFailLine_line (.inr hsecond)]

theorem lines_eq : s.lines = ["", "=== Blocking Scenario Results ===", first.line, second.line,
    "Failed: " ++ toString ([first.line, second.line].countP isFailLine) ++ "/2"] := by
  have htwo : "/" ++ toString [first, second].length = "/2" := by
    rw [List.length_cons, List.length_singleton]
    decide
  rw [Summary.lines, failed_eq h hfirst hsecond, h, String.append_assoc, htwo]
  simp [String.append_assoc]

end Printed

/-- How often a fixture is asked for: one that cannot be started only once. -/
def Plan.attempts (p : Plan) (f : Fixture) : Nat :=
  match f with
  | .missing _ => min p.runs 1
  | .present _ => (p.run f).started

theorem asked_run (p : Plan) (f : Fixture) :
    (p.run f).events.filter Event.isFixtureRun = List.replicate (p.attempts f) p.asked := by
  cases f with
  | missing fault =>
    unfold Plan.attempts Plan.run
    cases p.runs with
    | zero => rfl
    | succ n =>
      rw [runFrom_missing, Nat.min_eq_right (by omega)]
      rfl
  | present run => exact asked_runFrom run p p.runs 0

theorem isFixtureRun_event {r : Result} {e : Event} (h : r.event? = some e) :
    e.isFixtureRun = false := by
  unfold Result.event? at h
  split at h <;> cases h <;> rfl

/-- All starts of the socket fixture come before those of the contention fixture. -/
theorem asked_runAll (s : Settings) (home : String) (socket contention : Fixture) :
    let p := s.socketPlan home
    let q := s.contentionPlan home
    (runAll s home socket contention).events.filter Event.isFixtureRun =
      List.replicate (p.attempts socket) p.asked ++
        List.replicate (q.attempts contention) q.asked := by
  have hresults (rs : List Result) :
      (rs.filterMap Result.event?).filter Event.isFixtureRun = [] := by
    refine List.filter_eq_nil_iff.2 fun e he => ?_
    obtain ⟨r, -, hr⟩ := List.mem_filterMap.1 he
    simp [isFixtureRun_event hr]
  simp only [runAll, List.filter_append, asked_run, hresults, List.append_nil]
  rfl

/-- **The whole run.** Both fixtures are run, the contention fixture after the socket fixture,
always in the same way, and each is judged by its own behaviour alone. The number of failed
fixtures that is printed is that of the lines that tell so, and decides the exit code. -/
theorem both_fixtures_judged (s : Settings) (home : String) (socket contention : Fixture) :
    let p := s.socketPlan home
    let q := s.contentionPlan home
    let whole := runAll s home socket contention
    let exit := performWith home socket contention s
    ∃ first second : Result,
      p.Judged socket "socket_blocking" " runs exchanged data" SocketFault.message socketVerdict
        whole.socketStarts first ∧
      q.Judged contention "semaphore_contention" " runs, all workers completed"
        ContentionFault.message (contentionVerdict s.cycles) whole.contentionStarts second ∧
      exit.events.filter Event.isFixtureRun =
        List.replicate (p.attempts socket) (.fixtureRun p.path p.arguments) ++
          List.replicate (q.attempts contention) (.fixtureRun q.path q.arguments) ∧
      (∀ f g, socket.Agree s.runs.toNat f → (runAll s home f g).results[0]? = some first) ∧
      (∀ f g, contention.Agree s.runs.toNat g → (runAll s home f g).results[1]? = some second) ∧
      let failed := [first.line, second.line].countP isFailLine
      exit.output = String.join (["", "=== Blocking Scenario Results ===", first.line, second.line,
        "Failed: " ++ toString failed ++ "/2"].map (· ++ "\n")) ∧
      exit.exitCode = some (if 0 < failed then 1 else 0) := by
  intro p q whole exit
  refine ⟨socketResult (p.run socket).result, contentionResult s.cycles (q.run contention).result,
    judged_run .., judged_run .., asked_runAll s home socket contention, ?_, ?_, ?_⟩
  · intro f g h
    have hsame : (p.run socket).result = (p.run f).result := Fixture.Agree.result_run h
    rw [hsame]
    rfl
  · intro f g h
    have hsame : (q.run contention).result = (q.run g).result := Fixture.Agree.result_run h
    rw [hsame]
    rfl
  · have hresults : whole.results = [socketResult (p.run socket).result,
        contentionResult s.cycles (q.run contention).result] := rfl
    have hfirst := name_ofVerdict "socket_blocking" " runs exchanged data" SocketFault.message
      ((p.run socket).result.map socketVerdict)
    have hsecond := name_ofVerdict "semaphore_contention" " runs, all workers completed"
      ContentionFault.message ((q.run contention).result.map (contentionVerdict s.cycles))
    refine ⟨?_, ?_⟩
    · rw [← lines_eq hresults hfirst hsecond]
      rfl
    · rw [← failed_eq hresults hfirst hsecond]
      rfl

/-- Of three runs of the socket fixture the second one hangs, and the contention fixture is not
there: two starts of the first fixture, and both fixtures fail. -/
theorem second_run_late :
    let s : Settings := { runs := 3 }
    let socket : Fixture := .present fun i => if i = 1 then .hangs else .ends (some 2) [] 5
    let contention : Fixture := .missing (.errno ⟨2⟩)
    let whole := runAll s "/opt" socket contention
    (whole.socketStarts = 2 ∧ whole.contentionStarts = 0) ∧
      (performWith "/opt" socket contention s).exitCode = some 1 := by
  intro s socket contention whole
  obtain ⟨first, second, hfirst, hsecond, -, -, -, -, hcode⟩ :=
    both_fixtures_judged s "/opt" socket contention
  have hstarts := hfirst.firstLate _ 1 rfl (by decide) (by decide)
  have hlate := hfirst.late _ 1 rfl (by decide) (by decide)
  obtain ⟨hnone, hmissing⟩ := hsecond.missing _ rfl (by decide)
  refine ⟨⟨hstarts, hnone⟩, ?_⟩
  rw [hcode, hlate, hmissing]
  simp [isFailLine_line]

end Orchestrator

end Standstill
