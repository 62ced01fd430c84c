import Standstill.CommandLine.Help
import Standstill.Log.Filter
import Standstill.Text.Disarmed

/-!
# What a program leaves

A program reads its settings, runs and leaves an exit code, what it printed
and its log. One that stops before it has settings prints only its help or
its version; what it says of a usage error is not printed but logged
elsewhere. The log is written so that it does not steer the terminal that it
is read on. A filter for it may be asked for from outside with a text. A text
that is no filter is passed over, but one that is torn is a defect, which ends
a program when it opens its log.

Results:
* `exitCode_of_settings`: with settings, the exit code is that of the run.
* `steers_of_mem_log`: nothing in the log steers a terminal.
* `underFilter_of_ok`: a filter does not change what is left besides the log.
-/
namespace Standstill.CommandLine

/-- What a program leaves. -/
structure Exit where
  /-- The exit code, unless a signal ended it. -/
  exitCode : Option Nat
  /-- What it printed. -/
  output : String
  /-- What happened while it ran. -/
  events : List Event := []
  /-- Whether its settings ask for more lines in its log. -/
  debug : Bool := false
  /-- Whether it came to open its log. -/
  logs : Bool := true
deriving Repr, DecidableEq

namespace Exit

/-- A line as it is written. -/
def written (l : LogLine) : LogLine :=
  { l with message := String.ofList (disarm l.message.toList) }

/-- The log, through a filter. -/
def log (e : Exit) (filter : LogFilter) : List LogLine :=
  (e.events.filterMap fun v => v.line?.filter fun l => filter.keeps v.origin l.level).map written

theorem steers_of_mem_log {e : Exit} {filter : LogFilter} {l : LogLine} (h : l ∈ e.log filter)
    {c : Char} (hc : c ∈ l.message.toList) : steers c = false := by
  obtain ⟨k, _, rfl⟩ := List.mem_map.1 h
  rw [written, String.toList_ofList] at hc
  exact steers_of_mem_disarm hc

/-- What is left if a filter is asked for with a text, or with none, and the log. -/
def underFilter (e : Exit) (text : Option String) : Exit × List LogLine :=
  match text.map LogFilter.ofText with
  | some (.ok f) => (e, e.log f)
  | some (.error .torn) =>
    if e.logs then ({ exitCode := some defectCode, output := "" }, []) else (e, [])
  | some (.error .malformed) | none => (e, e.log (.usual e.debug))

theorem underFilter_of_ok {e : Exit} {text : String} {f : LogFilter}
    (h : LogFilter.ofText text = .ok f) : e.underFilter (some text) = (e, e.log f) := by
  simp [underFilter, h]

end Exit

variable {α : Type}

/-- The program, with `run` as what it does with its settings. -/
def Program.perform (p : Program α) (run : α → Exit) (arguments : List String) : Exit :=
  match p.parse arguments with
  | .ok settings => run settings
  | .error s =>
    { exitCode := some s.exitCode
      output := match s with
        | .usage _ => ""
        | _ => p.stopText s
      logs := p.logsFirst }

theorem exitCode_of_settings {p : Program α} {arguments : List String} {a : α}
    (h : p.parse arguments = .ok a) (run : α → Exit) :
    (p.perform run arguments).exitCode = (run a).exitCode := by
  simp [Program.perform, h]

end Standstill.CommandLine
