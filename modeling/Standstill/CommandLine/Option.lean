import Standstill.CommandLine.Value

/-!
# Options and programs

An option is a flag, or takes a value that its reader turns into a change of
the settings. A program is a table of options with the settings it starts
from. Every program also has the two flags that print its help and its
version.
-/
namespace Standstill.CommandLine

/-- What an option does to settings of type `α`. -/
inductive Effect (α : Type)
  /-- An option without a value. -/
  | flag (set : α → α)
  | value (read : String → Except Refusal (α → α))

structure Opt (α : Type) where
  /-- The name, which two hyphens precede. -/
  name : String
  effect : Effect α
  help : String := ""
  /-- The value it has if it is not given, as shown. -/
  default : String := ""
  /-- The values it may have, as shown, if they can be listed. -/
  choices : List String := []
  /-- The option without which it may not be given. -/
  needs : Option String := none

namespace Opt

variable {α : Type}

def takesValue (o : Opt α) : Bool :=
  match o.effect with
  | .flag _ => false
  | .value _ => true

/-- What stands for the value in help and messages. -/
def placeholder (o : Opt α) : String :=
  String.ofList (o.name.toList.map fun c => if c = '-' then '_' else c.toUpper)

/-- The option as it is shown. -/
def shown (o : Opt α) : String :=
  if o.takesValue then "--" ++ o.name ++ " <" ++ o.placeholder ++ ">" else "--" ++ o.name

end Opt

/-- Where the help of an option stands. -/
inductive Layout
  /-- In a second column. -/
  | beside
  /-- On a line of its own. -/
  | below
deriving Repr, DecidableEq

structure Program (α : Type) where
  name : String
  version : String
  about : String
  options : List (Opt α)
  /-- The settings if no option is given. -/
  start : α
  layout : Layout
  /-- Whether it opens its log before it reads its arguments. -/
  logsFirst : Bool := false

namespace Program

variable {α : Type}

def find? (p : Program α) (name : String) : Option (Opt α) :=
  p.options.find? fun o => o.name = name

end Program

end Standstill.CommandLine
