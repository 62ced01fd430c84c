import Standstill.Failure

/-!
# Configurations of a socket run

The defaults, the checks a configuration passes before anything is done, in
their order, and its JSON.

Results:
* `validate_eq_ok_iff`: what an accepted configuration has.
* `connectDelay_of_validate`: an accepted configuration sleeps for exactly
  the product of its tick and its ticks of delay.
-/
namespace Standstill

/-- The port used when none is given. -/
def defaultPort : UInt16 := 9999

/-- Cycles of a run, and ticks of a timed wait, when none are given. -/
def defaultCycles : UInt32 := 30

/-- One second. -/
def defaultTick : Span := .ofSecs 1

namespace Socket

def defaultDelayTicks : UInt32 := 2

structure Config where
  /-- The address to use; without one, that of the first usable interface. -/
  address : Option Ipv4 := none
  port : UInt16 := defaultPort
  /-- Writes of the listener, reads of the connector. -/
  cycles : UInt32 := defaultCycles
  tick : Span := defaultTick
  /-- Ticks the connector sleeps before it connects. -/
  connectDelayTicks : UInt32 := defaultDelayTicks
  role : Role := .both
  composition : Composition := .fork
deriving Repr, DecidableEq

namespace Config

/-- How long the connector sleeps before it connects. -/
def connectDelay (c : Config) : Span := c.tick.timesCapped c.connectDelayTicks

def validate (c : Config) : Except ConfigFault Unit :=
  if c.cycles = 0 then .error .noCycles
  else if (c.tick.times c.connectDelayTicks).isNone then
    .error (.delayTooLong c.connectDelayTicks c.tick)
  else if c.port = 0 ∧ c.role ≠ .both then .error (.portNotFixed c.role)
  else .ok ()

theorem validate_eq_ok_iff {c : Config} :
    c.validate = .ok () ↔ c.cycles ≠ 0 ∧ c.tick.times c.connectDelayTicks ≠ none ∧
      (c.port = 0 → c.role = .both) := by
  unfold validate
  split
  · next hc => simp [hc]
  split
  · next ht => simp [Option.isNone_iff_eq_none.1 ht]
  next hc ht =>
  have ht' : c.tick.times c.connectDelayTicks ≠ none := fun h => ht (by rw [h]; rfl)
  split
  · next hp => simp [hp]
  · next hp => simpa [hc, ht'] using hp

theorem connectDelay_of_validate (c : Config) (h : c.validate = .ok ()) :
    c.tick.times c.connectDelayTicks = some c.connectDelay := by
  obtain ⟨s, hs⟩ := Option.ne_none_iff_exists'.1 (validate_eq_ok_iff.1 h).2.1
  rw [connectDelay, Span.timesCapped, hs, Option.getD_some]

def record : Json.Record Config where
  title := "struct SocketScenarioConfig"
  arity := "struct SocketScenarioConfig with 7 elements"
  fields :=
    .cons "address" (.optional Ipv4.codec) (some none) <|
    .cons "port" .word16 none <|
    .cons "cycles" .word32 none <|
    .cons "tick" Span.codec none <|
    .cons "connect_delay_ticks" .word32 none <|
    .cons "role" Role.codec none <|
    .cons "composition" Composition.codec none .nil
  build := fun (address, port, cycles, tick, ticks, role, composition, ()) =>
    .ok ⟨address, port, cycles, tick, ticks, role, composition⟩
  parts := fun c =>
    (c.address, c.port, c.cycles, c.tick, c.connectDelayTicks, c.role, c.composition, ())
  closed := false

def codec : Json.Codec Config := record.codec

end Config

end Socket

end Standstill
