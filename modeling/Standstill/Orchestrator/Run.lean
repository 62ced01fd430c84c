import Standstill.CommandLine.Exit
import Standstill.Orchestrator.Command
import Standstill.Orchestrator.Verdict
import Standstill.Text.Bytes

/-!
# A run of the orchestrator

The socket fixture is run as often as the settings say, and after it, in any
case, the contention fixture. A run that does not end in time, or a fixture
that cannot be started, ends the runs of that fixture and fails it. Then the
results are printed, one line for each fixture.

Results:
* `length_outputs`: a fixture whose runs all end is started once for each.
-/
namespace Standstill.Orchestrator

open CommandLine

/-- What one run of a fixture does. -/
inductive Behaviour
  /-- Ends in time with an exit code, unless a signal ends it, prints some bytes and takes
  some hundredths of a second. -/
  | ends (exitCode : Option Int32) (printed : List UInt8) (hundredths : Nat)
  | hangs
deriving Repr, DecidableEq

/-- A fixture, as the orchestrator meets it. -/
inductive Fixture
  /-- Cannot be started. -/
  | missing (fault : IoFault)
  /-- Started for its runs, which are counted from zero. -/
  | present (run : Nat → Behaviour)

/-- How a fixture is run. -/
structure Plan where
  path : String
  arguments : List String
  runs : Nat
  /-- How long a run may take. -/
  limit : Span
deriving Repr, DecidableEq

/-- Why the runs of a fixture ended early. -/
inductive Broken
  | notStarted (fault : IoFault)
  | notInTime (path : String) (limit : Span)
deriving Repr, DecidableEq

def Broken.message : Broken → String
  | .notStarted f => f.text
  | .notInTime p l => p ++ " did not finish within " ++ l.text

/-- The runs made of a fixture. -/
structure Runs where
  /-- How often it was started. -/
  started : Nat
  events : List Event
  result : Except Broken (List Output)
deriving Repr

/-- A run that came to an end before the runs `rest`. -/
def Runs.cons (events : List Event) (output : Output) (rest : Runs) : Runs :=
  ⟨rest.started + 1, events ++ rest.events, rest.result.map (output :: ·)⟩

/-- Run a fixture `count` times, from its run `index` on. No run ends in no time. -/
def runFrom (f : Fixture) (p : Plan) : (count index : Nat) → Runs
  | 0, _ => ⟨0, [], .ok []⟩
  | n + 1, index =>
    let asked := Event.fixtureRun p.path p.arguments
    match f with
    | .missing fault => ⟨0, [asked], .error (.notStarted fault)⟩
    | .present run =>
      match run index with
      | .hangs => ⟨1, [asked], .error (.notInTime p.path p.limit)⟩
      | .ends code printed took =>
        if p.limit.isZero then ⟨1, [asked], .error (.notInTime p.path p.limit)⟩
        else
          (runFrom f p n (index + 1)).cons [asked, .fixtureEnded (index + 1) p.runs code took]
            ⟨code, String.ofList (decodeMarked printed)⟩

/-- All runs of a fixture. -/
def Plan.run (p : Plan) (f : Fixture) : Runs := runFrom f p p.runs 0

theorem length_outputs {f : Fixture} {p : Plan} {count index : Nat} {os : List Output}
    (h : (runFrom f p count index).result = .ok os) :
    os.length = count ∧ (runFrom f p count index).started = count := by
  induction count generalizing index os with
  | zero => cases h; exact ⟨rfl, rfl⟩
  | succ n ih =>
    unfold runFrom at h ⊢
    split at h
    · cases h
    · split at h
      · cases h
      · split at h
        · cases h
        · rename_i hl
          simp only [Runs.cons] at h ⊢
          cases hr : (runFrom (.present _) p n (index + 1)).result with
          | error e => rw [hr] at h; cases h
          | ok rest =>
            rw [hr] at h
            cases h
            obtain ⟨h1, h2⟩ := ih hr
            simp_all

/-- What the runs of a fixture came to. -/
inductive Outcome
  | passed
  | failed
  | skipped
deriving Repr, DecidableEq

def Outcome.word : Outcome → String
  | .passed => "PASS"
  | .failed => "FAIL"
  | .skipped => "SKIPPED"

/-- The result of one fixture. -/
structure Result where
  name : String
  outcome : Outcome
  detail : String
deriving Repr, DecidableEq

namespace Result

def line (r : Result) : String := r.name ++ ": " ++ r.outcome.word ++ " (" ++ r.detail ++ ")"

/-- What is logged of a result. -/
def event? (r : Result) : Option Event :=
  match r.outcome with
  | .passed => none
  | .failed => some (.fixtureFailed r.name r.detail)
  | .skipped => some (.fixtureSkipped r.name r.detail)

/-- A verdict, or what broke the runs off, as a result. -/
def ofVerdict {φ : Type} (name passText : String) (message : φ → String) :
    Except Broken (Verdict φ) → Result
  | .error b => ⟨name, .failed, b.message⟩
  | .ok (.fail why) => ⟨name, .failed, message why⟩
  | .ok (.pass n) => ⟨name, .passed, toString n ++ passText⟩
  | .ok .skip => ⟨name, .skipped, "no non-loopback IPv4 interface"⟩

end Result

def socketResult (r : Except Broken (List Output)) : Result :=
  .ofVerdict "socket_blocking" " runs exchanged data" SocketFault.message (r.map socketVerdict)

def contentionResult (cycles : UInt32) (r : Except Broken (List Output)) : Result :=
  .ofVerdict "semaphore_contention" " runs, all workers completed" ContentionFault.message
    (r.map (contentionVerdict cycles))

/-- The path of a file in a directory. -/
def inDirectory (directory name : String) : String :=
  if directory.toList.getLast? = some '/' then directory ++ name else directory ++ "/" ++ name

namespace Settings

variable (s : Settings) (home : String)

/-- How long a run may take. -/
def limit : Span := .ofSecs s.timeoutSecs

/-- The directory of the fixtures; `home` is that of the orchestrator itself. -/
def fixtures : String := s.directory.getD home

def socketPlan : Plan :=
  ⟨inDirectory (s.fixtures home) Socket.program.name, s.socketArguments, s.runs.toNat, s.limit⟩

def contentionPlan : Plan :=
  ⟨inDirectory (s.fixtures home) Contention.program.name, s.contentionArguments, s.runs.toNat,
    s.limit⟩

end Settings

/-- What a run of the orchestrator comes to. -/
structure Summary where
  results : List Result
  /-- How often each fixture was started. -/
  socketStarts : Nat
  contentionStarts : Nat
  events : List Event
deriving Repr, DecidableEq

namespace Summary

def failed (s : Summary) : Nat := s.results.countP (·.outcome = .failed)

/-- The lines that are printed. -/
def lines (s : Summary) : List String :=
  ["", "=== Blocking Scenario Results ==="] ++ s.results.map Result.line ++
    ["Failed: " ++ toString s.failed ++ "/" ++ toString s.results.length]

def exitCode (s : Summary) : Nat := if 0 < s.failed then 1 else 0

end Summary

/-- Run both fixtures. -/
def runAll (s : Settings) (home : String) (socket contention : Fixture) : Summary :=
  let first := (s.socketPlan home).run socket
  let second := (s.contentionPlan home).run contention
  let results := [socketResult first.result, contentionResult s.cycles second.result]
  ⟨results, first.started, second.started,
    [.orchestratorStarted] ++ first.events ++ second.events ++ results.filterMap Result.event?⟩

/-- The orchestrator with given settings. -/
def performWith (home : String) (socket contention : Fixture) (s : Settings) : Exit :=
  let summary := runAll s home socket contention
  { exitCode := some summary.exitCode
    output := String.join (summary.lines.map (· ++ "\n"))
    events := summary.events }

/-- The orchestrator with the fixtures that it meets. -/
def perform (home : String) (socket contention : Fixture) (arguments : List String) : Exit :=
  program.perform (performWith home socket contention) arguments

end Standstill.Orchestrator
