import Standstill.CommandLine.Option
import Standstill.Text.ControlSequence

/-!
# Reading a command line

Arguments are read from the left. An option with a value has it after an
equals sign or as the next argument, which may not look like an option; in
that case the value is only examined when the next known option comes, or at
the end. After two hyphens alone no argument is an option any more, and there
are no others.

Results:
* `exitCode_stop`: only help and version end a program well.
-/
namespace Standstill.CommandLine

/-- Why a command line is refused. `option` is an option as it is shown. -/
inductive UsageError
  | unexpected (argument : String)
  | valueMissing (option : String)
  | valueRefused (option value : String) (why : Refusal)
  | valueUnneeded (option value : String)
  | repeated (option : String)
  | requiredMissing (options : List String)
deriving Repr, DecidableEq

/-- Why a program ends before it has settings. -/
inductive Stop
  | help
  | version
  | usage (e : UsageError)
deriving Repr, DecidableEq

/-- Exit code of a program that was called wrongly. -/
def usageCode : Nat := 2

def Stop.exitCode : Stop → Nat
  | .help | .version => 0
  | .usage _ => usageCode

theorem exitCode_stop (s : Stop) : s.exitCode = 0 ↔ ∀ e, s ≠ .usage e := by
  cases s <;> simp [Stop.exitCode, usageCode]

/-- What is said of a value that is refused. -/
def refusalText (option value : String) (why : Refusal) : String :=
  let refused := "invalid value '" ++ withoutControls value ++ "' for '" ++ option ++ "'"
  match why with
  | .missing => "a value is required for '" ++ option ++ "' but none was supplied"
  | .notAChoice => refused
  | .integer f => refused ++ ": " ++ f.message
  | .outside i last => refused ++ ": " ++ toString i ++ " is not in 0..=" ++ toString last
  | .notAnAddress => refused ++ ": " ++ Ipv4.syntaxMessage

/-- What is said first of a command line that is refused. No terminal obeys
what it quotes. -/
def UsageError.message : UsageError → String
  | .unexpected a => "error: unexpected argument '" ++ withoutControls a ++ "' found"
  | .valueMissing o => "error: " ++ refusalText o "" .missing
  | .valueRefused o v r => "error: " ++ refusalText o v r
  | .valueUnneeded o v =>
    "error: unexpected value '" ++ withoutControls v ++ "' for '" ++ o ++
      "' found; no more were expected"
  | .repeated o => "error: the argument '" ++ o ++ "' cannot be used multiple times"
  | .requiredMissing _ => "error: the following required arguments were not provided:"

/-- An argument, by its look. -/
inductive Word
  /-- Two hyphens and nothing else. -/
  | separator
  /-- Two hyphens and a name, perhaps with a value after an equals sign. -/
  | long (name : String) (value : Option String)
  /-- One hyphen; only the first letter matters. -/
  | short (letter : Char)
  | plain (text : String)
deriving Repr, DecidableEq

/-- The text before the first equals sign, and the text after it if there is one. -/
def splitValue (s : List Char) : String × Option String :=
  let name := String.ofList (s.takeWhile (· != '='))
  match s.dropWhile (· != '=') with
  | [] => (name, none)
  | _ :: v => (name, some (String.ofList v))

def Word.of (argument : String) : Word :=
  match argument.toList with
  | ['-', '-'] => .separator
  | '-' :: '-' :: s => let (name, value) := splitValue s; .long name value
  | '-' :: c :: _ => .short c
  | _ => .plain argument

/-- How far a command line is read. -/
structure Progress (α : Type) where
  settings : α
  /-- The names of the options given. -/
  given : List String := []
  /-- An option that is not examined yet, with its value once it is there. -/
  pending : Option (Opt α × Option String) := none

variable {α : Type}

namespace Progress

/-- Take an option with the value given for it. -/
def take (p : Progress α) (o : Opt α) (value : Option String) :
    Except UsageError (Progress α) :=
  match o.effect, value with
  | .flag set, _ =>
    if p.given.contains o.name then .error (.repeated o.shown)
    else .ok { p with settings := set p.settings, given := o.name :: p.given }
  | .value _, none => .error (.valueMissing o.shown)
  | .value read, some v =>
    if p.given.contains o.name then .error (.repeated o.shown)
    else match read v with
      | .error why => .error (.valueRefused o.shown v why)
      | .ok set => .ok { p with settings := set p.settings, given := o.name :: p.given }

/-- Examine the pending option, if there is one. -/
def resolve (p : Progress α) : Except UsageError (Progress α) :=
  match p.pending with
  | none => .ok p
  | some (o, value) => { p with pending := none }.take o value

/-- Take an option after the pending one is examined. -/
def next (p : Progress α) (o : Opt α) (value : Option String) :
    Except UsageError (Progress α) := do
  let p ← p.resolve
  p.take o value

/-- Make an option the pending one. -/
def await (p : Progress α) (o : Opt α) : Except UsageError (Progress α) := do
  let p ← p.resolve
  .ok { p with pending := some (o, none) }

end Progress

/-- The flags that every program has. -/
def stop? : String → Option Stop
  | "help" => some .help
  | "version" => some .version
  | _ => none

def shortStop? : Char → Option Stop
  | 'h' => some .help
  | 'V' => some .version
  | _ => none

/-- A usage error as the reason to stop. -/
def orStop {β : Type} (r : Except UsageError β) : Except Stop β := r.mapError Stop.usage

/-- The progress after one argument. -/
def step (program : Program α) (p : Progress α) (argument : String) :
    Except Stop (Progress α) :=
  match Word.of argument with
  | .separator => .ok p
  | .long name value =>
    match stop? name with
    | some s =>
      match value with
      | some v => .error (.usage (.valueUnneeded ("--" ++ name) v))
      | none => do
        let _ ← orStop p.resolve
        .error s
    | none =>
      match program.find? name with
      | none => .error (.usage (.unexpected ("--" ++ name)))
      | some o =>
        match o.takesValue, value with
        | false, some v => .error (.usage (.valueUnneeded o.shown v))
        | false, none => orStop (p.next o none)
        | true, some v => orStop (p.next o (some v))
        | true, none => orStop (p.await o)
  | .short c =>
    match shortStop? c with
    | some s => do
      let _ ← orStop p.resolve
      .error s
    | none => .error (.usage (.unexpected ("-" ++ c.toString)))
  | .plain text =>
    match p.pending with
    | some (o, none) => .ok { p with pending := some (o, some text) }
    | _ => .error (.usage (.unexpected text))

/-- The end of a command line: the pending option is examined, then what options need. -/
def finish (program : Program α) (p : Progress α) : Except Stop α := do
  let p ← orStop p.resolve
  let missing := program.options.filterMap fun o =>
    match o.needs with
    | some n => if p.given.contains o.name ∧ ¬ p.given.contains n then some n else none
    | none => none
  if missing.isEmpty then .ok p.settings else .error (.usage (.requiredMissing missing))

/-- Read the arguments that are left. -/
def readFrom (program : Program α) (p : Progress α) : List String → Except Stop α
  | [] => finish program p
  | a :: rest =>
    if Word.of a = .separator then
      match rest with
      | [] => finish program p
      | b :: _ => .error (.usage (.unexpected b))
    else
      match step program p a with
      | .error s => .error s
      | .ok q => readFrom program q rest

/-- The settings that a command line gives. -/
def Program.parse (program : Program α) (arguments : List String) : Except Stop α :=
  readFrom program ⟨program.start, [], none⟩ arguments

end Standstill.CommandLine
