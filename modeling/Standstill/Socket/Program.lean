import Standstill.CommandLine.Exit
import Standstill.Socket.Command
import Standstill.Socket.Run

/-!
# The socket program as a process

The program logs what it is about to do, runs, and prints its report as one
line if it was asked to. A failure ends it with the failure's exit code.

Results:
* `exitCode_perform`: the exit code with given settings.
-/
namespace Standstill.Socket

open CommandLine

/-- What happens in the program with given settings. -/
def trace (s : Settings) (w : World) : Traced Failure Report := do
  let c := s.config
  Traced.note (.socketRunStarted c.role c.composition c.cycles c.tick)
  let r ← run c w
  Traced.notes (r.listener.toList.map .listenerDone)
  Traced.notes (r.connector.toList.map .connectorDone)
  pure r

/-- The program with given settings. -/
def performWith (w : World) (s : Settings) : Exit :=
  let t := trace s w
  match t.result with
  | .ok r =>
    { exitCode := some 0
      output := if s.json then Report.codec.line r ++ "\n" else ""
      events := t.events
      debug := s.debug }
  | .error f =>
    { exitCode := some f.exitCode
      output := ""
      events := t.events ++ [.socketRunFailed f]
      debug := s.debug }

/-- The program in a world. -/
def perform (w : World) (arguments : List String) : Exit :=
  program.perform (performWith w) arguments

theorem exitCode_perform {w : World} {arguments : List String} {s : Settings}
    (h : program.parse arguments = .ok s) :
    (perform w arguments).exitCode = match (trace s w).result with
      | .ok _ => some 0
      | .error f => some f.exitCode := by
  rw [perform, exitCode_of_settings h]
  unfold performWith
  simp only
  split <;> simp_all

end Standstill.Socket
