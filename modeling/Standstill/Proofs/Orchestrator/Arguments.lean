import Mathlib
import Standstill.Orchestrator.Run
import Standstill.Proofs.CommandLine.Fixtures

/-!
# The fixtures' arguments

The orchestrator gives each fixture its tick, its cycles and the socket fixture
also its port, all as numerals, and asks for the report. Whatever the numbers
are, a fixture takes the arguments and leaves everything else at its default.
The configuration is then refused only without a cycle to run: no tick is so
long that the connector's delay does not fit.

Results:
* `parse_socketArguments`, `parse_contentionArguments`: the settings that the
  fixtures come to.
* `fixtures_take_arguments`: both command lines, and when they can be run.
-/
namespace Standstill

open CommandLine

namespace Orchestrator

theorem parse_socketArguments (s : Settings) :
    Socket.program.parse s.socketArguments = .ok {
      config := { port := s.port, cycles := s.cycles, tick := .ofMillis s.tickMillis }
      json := true } := by
  have hwrites : Socket.vocabulary.Writes
      [⟨.json, ()⟩, ⟨.tickMillis, s.tickMillis⟩, ⟨.cycles, s.cycles⟩, ⟨.port, s.port⟩]
      [.flag "json", .spaced "tick-ms" (toString s.tickMillis.toNat),
        .spaced "cycles" (toString s.cycles.toNat), .spaced "port" (toString s.port.toNat)] :=
    .cons .flag <| .cons (.spaced (.toString _)) <| .cons (.spaced (.toString _)) <|
      .cons (.spaced (.toString _)) .nil
  exact Socket.parse_options hwrites (by simp)

theorem parse_contentionArguments (s : Settings) :
    Contention.program.parse s.contentionArguments = .ok {
      cycles := s.cycles
      tick := .ofMillis s.tickMillis
      json := true } := by
  have hwrites : Contention.vocabulary.Writes
      [⟨.json, ()⟩, ⟨.tickMillis, s.tickMillis⟩, ⟨.cycles, s.cycles⟩]
      [.flag "json", .spaced "tick-ms" (toString s.tickMillis.toNat),
        .spaced "cycles" (toString s.cycles.toNat)] :=
    .cons .flag <| .cons (.spaced (.toString _)) <| .cons (.spaced (.toString _)) .nil
  exact Contention.parse_options hwrites (by simp)

/-- With the default delay, no tick in milliseconds and no port keep a socket run from starting. -/
theorem validate_socket_iff (ms : UInt64) (cycles : UInt32) (port : UInt16) :
    ({ port, cycles, tick := .ofMillis ms } : Socket.Config).validate = .ok () ↔ cycles ≠ 0 := by
  have hdelay : (Span.ofMillis ms).times Socket.defaultDelayTicks ≠ none :=
    Span.times_ofMillis_ne_none ms (by decide)
  rw [Socket.Config.validate_eq_ok_iff]
  simp [hdelay]

theorem validate_contention_iff (ms : UInt64) (cycles : UInt32) :
    ({ cycles, tick := .ofMillis ms } : Contention.Config).validate = .ok () ↔ cycles ≠ 0 := by
  have hworkers : Contention.defaultWorkers ≠ 0 ∧ Contention.defaultLocks ≠ 0 := by decide
  rw [Contention.Config.validate_eq_ok_iff]
  simp [hworkers]

/-- **The fixtures take what they are given.** For every tick, every number of cycles and every
port, both fixtures come to settings that ask for the report and for no longer log, with the given
numbers and all else as it is by default. These can be run exactly if there is a cycle to run. -/
theorem fixtures_take_arguments (s : Settings) (home : String) :
    (∃ a : Socket.Settings,
      Socket.program.parse (s.socketPlan home).arguments = .ok a ∧
      a.json = true ∧ a.debug = false ∧
      a.config = { ({} : Socket.Config) with
        tick := .ofMillis s.tickMillis, cycles := s.cycles, port := s.port } ∧
      a.config.tick.total = s.tickMillis.toNat * 1000000 ∧
      a.config.composition = .fork ∧ a.config.role = .both ∧
      (a.config.validate = .ok () ↔ s.cycles ≠ 0)) ∧
    ∃ b : Contention.Settings,
      Contention.program.parse (s.contentionPlan home).arguments = .ok b ∧
      b.json = true ∧ b.debug = false ∧
      b.config = { ({} : Contention.Config) with
        tick := .ofMillis s.tickMillis, cycles := s.cycles } ∧
      b.config.tick.total = s.tickMillis.toNat * 1000000 ∧
      b.config.completion = .join ∧
      (b.config.validate = .ok () ↔ s.cycles ≠ 0) := by
  refine ⟨⟨_, parse_socketArguments s, rfl, rfl, rfl, ?_, rfl, rfl, ?_⟩,
    _, parse_contentionArguments s, rfl, rfl, rfl, ?_, rfl, ?_⟩
  · exact Span.total_ofMillis s.tickMillis
  · exact validate_socket_iff s.tickMillis s.cycles s.port
  · exact Span.total_ofMillis s.tickMillis
  · exact validate_contention_iff s.tickMillis s.cycles

end Orchestrator

end Standstill
