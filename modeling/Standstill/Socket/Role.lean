import Standstill.Json.Record

/-!
# Roles of a socket run

A run has a listener, a connector or both. Both together live in two
processes, the connector in the forked one, or in two threads of one process.
-/
namespace Standstill

namespace Json.Choices

variable {α : Type}

/-- Values that are written as their names. -/
def named (all : List α) (name : α → String) : Choices α where
  options := all.map fun a => (name a, .unit a)
  write a := '"' :: ((name a).toList ++ ['"'])

end Json.Choices

namespace Socket

/-- The endpoints that a run has. -/
inductive Role
  | listener
  | connector
  | both
deriving Repr, DecidableEq

/-- How the two endpoints of one run are hosted. -/
inductive Composition
  /-- The listener in the parent process, the connector in a forked child. -/
  | fork
  /-- Two threads of one process. -/
  | threads
deriving Repr, DecidableEq

namespace Role

def name : Role → String
  | .listener => "listener"
  | .connector => "connector"
  | .both => "both"

def all : List Role := [.listener, .connector, .both]

def codec : Json.Codec Role := (Json.Choices.named all name).codec

end Role

namespace Composition

def name : Composition → String
  | .fork => "fork"
  | .threads => "threads"

def all : List Composition := [.fork, .threads]

def codec : Json.Codec Composition := (Json.Choices.named all name).codec

/-- The name with a capital, as log lines have it. -/
def title : Composition → String
  | .fork => "Fork"
  | .threads => "Threads"

end Composition

end Socket

end Standstill
