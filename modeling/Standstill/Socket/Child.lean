import Standstill.Socket.Handover

/-!
# The forked connector

The child of a forked run is a connector that hands its report over and
exits. Its exit code is zero exactly if it connected and the whole report,
with the end of its line, was taken. It may be killed at any point.

Results:
* `ending_ofRun_eq_zero_iff`: when the child exits with code zero.
-/
namespace Standstill.Socket

/-- How a child process ended. -/
inductive ChildEnd
  | exited (code : Int32)
  | killed (signal : String) (dumped : Bool)
deriving Repr, DecidableEq

/-- What a child leaves behind. -/
structure Child where
  ending : ChildEnd
  /-- What it wrote to the pipe. -/
  wire : List UInt8
  events : List Event
deriving Repr, DecidableEq

/-- The code that a child exits with after a failure. -/
def childCode (f : Failure) : Int32 := Int32.ofNat f.exitCode

/-- The child whose connector comes to `connector` and whose pipe is `pipe`. -/
def Child.ofRun (connector : Traced Failure ConnectorReport) (pipe : Sink) : Child :=
  match connector.result with
  | .error f =>
    ⟨.exited (childCode f), pipe.taken, connector.events ++ [.connectorFailed f]⟩
  | .ok r =>
    match sendReport pipe r with
    | (w, .ok ()) => ⟨.exited 0, w.taken, connector.events ++ [.connectorFinished r]⟩
    | (w, .error f) =>
      ⟨.exited (childCode f), w.taken,
        connector.events ++ [.connectorFinished r, .reportNotSent f]⟩

theorem childCode_ne_zero (f : Failure) : childCode f ≠ 0 := by
  have h : f.exitCode = 1 ∨ f.exitCode = 2 := by
    cases f <;> simp [Failure.exitCode, Failure.noInterfaceCode, Failure.setupCode]
  unfold childCode
  rcases h with h | h <;> rw [h] <;> decide

theorem ending_ofRun_eq_zero_iff (connector : Traced Failure ConnectorReport) (pipe : Sink) :
    (Child.ofRun connector pipe).ending = .exited 0 ↔
      ∃ r, connector.result = .ok r ∧ (sendReport pipe r).2 = .ok () := by
  unfold Child.ofRun
  cases connector.result with
  | error f => simp [childCode_ne_zero]
  | ok r =>
    rcases hs : sendReport pipe r with ⟨w, _ | _⟩
    · simp [childCode_ne_zero, hs]
    · simp [hs]

end Standstill.Socket
