import Standstill.CommandLine.Exit
import Standstill.Contention.Command
import Standstill.Contention.Run

/-!
# The contention program as a process

The program runs, logs what each lock came to, and prints its report as one
line if it was asked to. A failure ends it with the failure's exit code; a
defect does so at once, with nothing of its own in the log.
-/
namespace Standstill.Contention

open CommandLine

/-- What happens in the program with given settings. -/
def trace (s : Settings) (host : Host) : Traced Halt Report := do
  let r ← run s.config host
  Traced.notes (r.locks.map .lockDone)
  pure r

/-- The program with given settings. -/
def performWith (host : Host) (s : Settings) : Exit :=
  let t := trace s host
  match t.result with
  | .ok r =>
    { exitCode := some 0
      output := if s.json then Report.codec.line r ++ "\n" else ""
      events := t.events
      debug := s.debug }
  | .error (.failure f) =>
    { exitCode := some f.exitCode
      output := ""
      events := t.events ++ [.contentionFailed f]
      debug := s.debug }
  | .error (.defect d) =>
    { exitCode := d.exitCode?
      output := ""
      events := t.events
      debug := s.debug }

def perform (host : Host) (arguments : List String) : Exit :=
  program.perform (performWith host) arguments

end Standstill.Contention
