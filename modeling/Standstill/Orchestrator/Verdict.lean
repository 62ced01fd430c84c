import Standstill.Log
import Standstill.Text.Blank

/-!
# Verdicts on the runs of a fixture

All runs of a fixture together pass, fail or are skipped. They are skipped
only if the socket fixture finds no interface in any run. They pass if every
run exits with code zero and prints a report of what was to happen. Otherwise
the first thing that is wrong is the reason they fail.

Results:
* `socketVerdict_nil`: without any run the socket fixture fails.
-/
namespace Standstill.Orchestrator

/-- What a run of a fixture leaves. -/
structure Output where
  /-- The exit code; none if the run was ended by a signal. -/
  exitCode : Option Int32
  /-- What it printed. -/
  text : String
deriving Repr, DecidableEq

/-- What is found of the runs of a fixture. -/
inductive Verdict (φ : Type)
  /-- All of so many runs did what they should. -/
  | pass (runs : Nat)
  | fail (why : φ)
  /-- There is no interface to run on. -/
  | skip
deriving Repr, DecidableEq

/-- What is wrong with the runs of the socket fixture. -/
inductive SocketFault
  | codesDiffer (codes : List (Option Int32))
  | exitCode (code : Option Int32)
  | unreadable (e : Json.Error)
  | connectorMissing
  | nothingCrossed
  | connectorCode (code : Option Int32)
deriving Repr, DecidableEq

/-- What is wrong with the runs of the contention fixture. -/
inductive ContentionFault
  | codesDiffer
  | exitCode (code : Option Int32)
  | unreadable (e : Json.Error)
  | total (acquisitions expected : UInt64)
  | sharedLock
  | workerCycles (worker : UInt64) (cycles : UInt32)
deriving Repr, DecidableEq

/-! ## Texts -/

def SocketFault.message : SocketFault → String
  | .codesDiffer cs =>
    "exit codes differ between runs: [" ++ ", ".intercalate (cs.map exitCodeText) ++ "]"
  | .exitCode c => "exit code " ++ exitCodeText c
  | .unreadable e => "unreadable report: " ++ e.message
  | .connectorMissing => "connector report missing"
  | .nothingCrossed => "no message crossed the stream"
  | .connectorCode c => "connector exit code " ++ exitCodeText c

def ContentionFault.message : ContentionFault → String
  | .codesDiffer => "exit codes differ between runs"
  | .exitCode c => "exit code " ++ exitCodeText c
  | .unreadable e => "unreadable report: " ++ e.message
  | .total n m => toString n.toNat ++ " acquisitions, expected " ++ toString m.toNat
  | .sharedLock => "a lock had more than one holder"
  | .workerCycles w n =>
    "worker " ++ toString w.toNat ++ " completed " ++ toString n.toNat ++ " cycles"

/-! ## Checks -/

/-- Whether neighbouring runs have the same exit code. -/
def codesStable : List Output → Bool
  | a :: b :: rest => a.exitCode == b.exitCode && codesStable (b :: rest)
  | _ => true

/-- The record that a run printed, blanks around it apart. -/
def readPrinted {α : Type} (codec : Json.Codec α) (o : Output) : Except Json.Error α :=
  codec.parse (String.ofList (dropBlankEnds o.text.toList))

/-- What is wrong with one run of the socket fixture that exited with code zero. -/
def socketRunFault (o : Output) : Option SocketFault :=
  match readPrinted Socket.Report.codec o with
  | .error e => some (.unreadable e)
  | .ok r =>
    if r.connector.isNone then some .connectorMissing
    else if r.exchangedData = false then some .nothingCrossed
    else if r.peerExitCode ≠ some 0 then some (.connectorCode r.peerExitCode)
    else none

/-- The exit code of the socket fixture without an interface. -/
def noInterface : Int32 := Int32.ofNat Failure.noInterfaceCode

/-- The verdict on the runs of the socket fixture. -/
def socketVerdict (outputs : List Output) : Verdict SocketFault :=
  if codesStable outputs = false then .fail (.codesDiffer (outputs.map Output.exitCode))
  else
    let code := outputs.head?.bind Output.exitCode
    if code = some 0 then
      match outputs.findSome? socketRunFault with
      | some why => .fail why
      | none => .pass outputs.length
    else if code = some noInterface then .skip
    else .fail (.exitCode code)

/-- The acquisitions that workers of so many cycles have together, in a word, in which more than
fit wrap around. -/
def expectedAcquisitions (cycles : UInt32) (r : Contention.Report) : UInt64 :=
  UInt64.ofNat r.workers.length * cycles.toUInt64

/-- What is wrong with one run of the contention fixture. -/
def contentionRunFault (cycles : UInt32) (o : Output) : Option ContentionFault :=
  if o.exitCode ≠ some 0 then some (.exitCode o.exitCode)
  else match readPrinted Contention.Report.codec o with
    | .error e => some (.unreadable e)
    | .ok r =>
      let expected := expectedAcquisitions cycles r
      if r.totalAcquisitions ≠ expected then some (.total r.totalAcquisitions expected)
      else if r.mutualExclusionHeld = false then some .sharedLock
      else (r.workers.find? fun w => w.cycles ≠ cycles).map fun w => .workerCycles w.index w.cycles

/-- The verdict on the runs of the contention fixture. -/
def contentionVerdict (cycles : UInt32) (outputs : List Output) : Verdict ContentionFault :=
  if codesStable outputs = false then .fail .codesDiffer
  else match outputs.findSome? (contentionRunFault cycles) with
    | some why => .fail why
    | none => .pass outputs.length

theorem socketVerdict_nil : socketVerdict [] = .fail (.exitCode none) := rfl

end Standstill.Orchestrator
