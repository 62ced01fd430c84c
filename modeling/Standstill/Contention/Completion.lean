import Standstill.Json.Record

/-!
# When a contention run is over

A run is over when all workers have ended, or after a number of ticks,
whatever the workers are at then.
-/
namespace Standstill.Contention

inductive CompletionMode
  /-- Wait for each worker to end. -/
  | join
  /-- Sleep for some ticks; workers may still be running then. -/
  | timedWait (ticks : UInt32)
deriving Repr, DecidableEq

namespace CompletionMode

/-- The ticks of a timed wait. -/
def timedWaitRecord : Json.Record CompletionMode where
  title := "struct variant CompletionMode::TimedWait"
  arity := "struct variant CompletionMode::TimedWait with 1 element"
  fields := .cons "ticks" .word32 none .nil
  build := fun (ticks, ()) => .ok (.timedWait ticks)
  parts
    | .join => (0, ())
    | .timedWait ticks => (ticks, ())
  closed := false

def choices : Json.Choices CompletionMode where
  options := [("join", .unit .join), ("timed_wait", .value timedWaitRecord.codec.read)]
  write
    | .join => "\"join\"".toList
    | .timedWait ticks =>
      "\x7b\"timed_wait\":".toList ++ (timedWaitRecord.codec.write (.timedWait ticks) ++ ['}'])

def codec : Json.Codec CompletionMode := choices.codec

end CompletionMode

end Standstill.Contention
