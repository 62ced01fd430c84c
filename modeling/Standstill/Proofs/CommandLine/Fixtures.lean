import Mathlib
import Standstill.Contention.Command
import Standstill.Proofs.CommandLine.Vocabulary
import Standstill.Proofs.Net.Addresses

/-!
# The fixtures' options

Each fixture's options have their values as spelled: numbers of 16, 32 or 64
bits, the names of roles and compositions, addresses, and nothing for a flag.
A selection of them, none twice, comes to the settings with every value that
is given and the defaults for the rest, in any order and any spelling. The one
combination that is refused is a number of ticks to wait without the flag that
makes the run a timed one.

Results:
* `Socket.vocabulary`, `Contention.vocabulary`: the options, keyed.
* `Socket.parse_options`, `Contention.parse_options`: a whole command line of either.
* `options_in_any_order_and_spelling`: the configurations, and that neither order nor
  spelling matters.
-/
namespace Standstill

open CommandLine

namespace CommandLine

theorem address_text (ip : Ipv4) : address ip.text = .ok ip := by
  simp only [address, Ipv4.parse?_text]

theorem isPlain_text (ip : Ipv4) : IsPlain ip.text := by
  obtain ⟨c, s, hs, hc⟩ := exists_toDigits_eq ip.a.toNat
  have hhead : ip.text.toList.head? = some c := by
    rw [Ipv4.text, String.toList_ofList, Ipv4.chars, Ipv4.octetText, hs, List.cons_append,
      List.head?_cons]
  exact .of_digit hhead hc

/-- The length of a tick, which is given in milliseconds. -/
def tickOf (given : Option UInt64) : Span := (given.map Span.ofMillis).getD defaultTick

theorem total_tickOf {given : Option UInt64} {ms : UInt64} (h : given = some ms) :
    (tickOf given).total = ms.toNat * 1000000 := by
  subst h
  exact Span.total_ofMillis ms

end CommandLine

namespace Socket

/-- The options of the program. -/
inductive Key
  | role
  | composition
  | address
  | port
  | cycles
  | tickMillis
  | delayTicks
  | json
  | debug
deriving Repr, DecidableEq

namespace Key

@[reducible]
def Value : Key → Type
  | role => Role
  | composition => Composition
  | address => Ipv4
  | port => UInt16
  | cycles | delayTicks => UInt32
  | tickMillis => UInt64
  | json | debug => Unit

def name : Key → String
  | role => "role"
  | composition => "composition"
  | address => "address"
  | port => "port"
  | cycles => "cycles"
  | tickMillis => "tick-ms"
  | delayTicks => "connect-delay-ticks"
  | json => "json"
  | debug => "debug"

def writing : (k : Key) → k.Value → Writing
  | role, r => .word (Role.name r)
  | composition, c => .word (Composition.name c)
  | address, ip => .word (Ipv4.text ip)
  | port, n => .number (UInt16.toNat n)
  | cycles, n | delayTicks, n => .number (UInt32.toNat n)
  | tickMillis, n => .number (UInt64.toNat n)
  | json, _ | debug, _ => .flag

def set : (k : Key) → k.Value → Settings → Settings
  | role, r, s => s.setRole r
  | composition, c, s => s.setComposition c
  | address, ip, s => s.setAddress ip
  | port, n, s => s.setPort n
  | cycles, n, s => s.setCycles n
  | tickMillis, n, s => s.setTick n
  | delayTicks, n, s => s.setDelay n
  | json, _, s => { s with json := true }
  | debug, _, s => { s with debug := true }

end Key

/-- What is given for an option takes the place of its default. -/
def Settings.of (given : (k : Key) → Option k.Value) : Settings where
  config := {
    address := given .address
    port := (given .port).getD defaultPort
    cycles := (given .cycles).getD defaultCycles
    tick := tickOf (given .tickMillis)
    connectDelayTicks := (given .delayTicks).getD defaultDelayTicks
    role := (given .role).getD .both
    composition := (given .composition).getD .fork }
  json := (given .json).isSome
  debug := (given .debug).isSome

theorem Key.sets {k : Key} {x : k.Value} {g : Given} (h : (k.writing x).Spells k.name g) :
    program.Sets g (k.set x) := by
  cases k with
  | role =>
    have hread : choice Role.all Role.name (Role.name x) = .ok x := by cases x <;> rfl
    have hplain : IsPlain (Role.name x) := by cases x <;> decide
    exact sets_word (fun r s => Settings.setRole s r) (by decide) (by rfl) (by rfl) hread hplain h
  | composition =>
    have hread : choice Composition.all Composition.name (Composition.name x) = .ok x := by
      cases x <;> rfl
    have hplain : IsPlain (Composition.name x) := by cases x <;> decide
    exact sets_word (fun c s => Settings.setComposition s c) (by decide) (by rfl) (by rfl) hread
      hplain h
  | address =>
    exact sets_word (fun ip s => Settings.setAddress s ip) (by decide) (by rfl) (by rfl)
      (address_text x) (isPlain_text x) h
  | port =>
    exact sets_number (fun n s => Settings.setPort s n) (by decide) (by rfl) (by rfl)
      (port_decimal · x) h
  | cycles =>
    exact sets_number (fun n s => Settings.setCycles s n) (by decide) (by rfl) (by rfl)
      (count_decimal · x) h
  | tickMillis =>
    exact sets_number (fun n s => Settings.setTick s n) (by decide) (by rfl) (by rfl)
      (size_decimal · x) h
  | delayTicks =>
    exact sets_number (fun n s => Settings.setDelay s n) (by decide) (by rfl) (by rfl)
      (count_decimal · x) h
  | json => exact sets_flag (by decide) (by rfl) (by rfl) h
  | debug => exact sets_flag (by decide) (by rfl) (by rfl) h

def vocabulary : Vocabulary Settings Key Key.Value where
  program := program
  name := Key.name
  writing := Key.writing
  set := Key.set
  settings := Settings.of
  keys := [.role, .composition, .address, .port, .cycles, .tickMillis, .delayTicks, .json, .debug]
  mem_keys := fun k => by cases k <;> decide
  map_name_keys := by rfl
  nodup_options := by decide
  sets := Key.sets
  settings_none := rfl
  settings_update := fun given k x => by cases k <;> rfl

variable {chosen : List (Sigma Key.Value)} {row : List Given}

/-- Whatever is chosen, nothing else is needed for it. -/
theorem parse_options (h : vocabulary.Writes chosen row) (hkeys : chosen.NodupKeys) :
    program.parse (row.flatMap Given.arguments) =
      .ok (Settings.of fun k => chosen.dlookup k) := by
  have hnone : program.lacking (vocabulary.names chosen) = [] := rfl
  exact (vocabulary.parse_eq h hkeys).trans (if_pos hnone)

end Socket

namespace Contention

/-- The options of the program. -/
inductive Key
  | workers
  | locks
  | cycles
  | tickMillis
  | timedWait
  | waitTicks
  | json
  | debug
deriving Repr, DecidableEq

namespace Key

@[reducible]
def Value : Key → Type
  | workers | locks | tickMillis => UInt64
  | cycles | waitTicks => UInt32
  | timedWait | json | debug => Unit

def name : Key → String
  | workers => "workers"
  | locks => "locks"
  | cycles => "cycles"
  | tickMillis => "tick-ms"
  | timedWait => "legacy-timed-wait"
  | waitTicks => "wait-ticks"
  | json => "json"
  | debug => "debug"

def writing : (k : Key) → k.Value → Writing
  | workers, n | locks, n | tickMillis, n => .number (UInt64.toNat n)
  | cycles, n | waitTicks, n => .number (UInt32.toNat n)
  | timedWait, _ | json, _ | debug, _ => .flag

def set : (k : Key) → k.Value → Settings → Settings
  | workers, n, s => s.setWorkers n
  | locks, n, s => s.setLocks n
  | cycles, n, s => s.setCycles n
  | tickMillis, n, s => s.setTick n
  | timedWait, _, s => { s with timedWait := true }
  | waitTicks, n, s => s.setWaitTicks n
  | json, _, s => { s with json := true }
  | debug, _, s => { s with debug := true }

theorem sets {k : Key} {x : k.Value} {g : Given} (h : (k.writing x).Spells k.name g) :
    program.Sets g (k.set x) := by
  cases k with
  | workers =>
    exact sets_number (fun n s => Settings.setWorkers s n) (by decide) (by rfl) (by rfl)
      (size_decimal · x) h
  | locks =>
    exact sets_number (fun n s => Settings.setLocks s n) (by decide) (by rfl) (by rfl)
      (size_decimal · x) h
  | cycles =>
    exact sets_number (fun n s => Settings.setCycles s n) (by decide) (by rfl) (by rfl)
      (count_decimal · x) h
  | tickMillis =>
    exact sets_number (fun n s => Settings.setTick s n) (by decide) (by rfl) (by rfl)
      (size_decimal · x) h
  | timedWait => exact sets_flag (by decide) (by rfl) (by rfl) h
  | waitTicks =>
    exact sets_number (fun n s => Settings.setWaitTicks s n) (by decide) (by rfl) (by rfl)
      (count_decimal · x) h
  | json => exact sets_flag (by decide) (by rfl) (by rfl) h
  | debug => exact sets_flag (by decide) (by rfl) (by rfl) h

end Key

/-- What is given for an option takes the place of its default. -/
def Settings.of (given : (k : Key) → Option k.Value) : Settings where
  workers := (given .workers).getD defaultWorkers
  locks := (given .locks).getD defaultLocks
  cycles := (given .cycles).getD defaultCycles
  tick := tickOf (given .tickMillis)
  timedWait := (given .timedWait).isSome
  waitTicks := (given .waitTicks).getD defaultCycles
  json := (given .json).isSome
  debug := (given .debug).isSome

def vocabulary : Vocabulary Settings Key Key.Value where
  program := program
  name := Key.name
  writing := Key.writing
  set := Key.set
  settings := Settings.of
  keys := [.workers, .locks, .cycles, .tickMillis, .timedWait, .waitTicks, .json, .debug]
  mem_keys := fun k => by cases k <;> decide
  map_name_keys := by rfl
  nodup_options := by decide
  sets := Key.sets
  settings_none := rfl
  settings_update := fun given k x => by cases k <;> rfl

variable {chosen : List (Sigma Key.Value)} {row : List Given}

/-- Only the ticks to wait need another option. -/
theorem lacking_eq (given : List String) :
    program.lacking given =
      if "wait-ticks" ∈ given ∧ "legacy-timed-wait" ∉ given then ["legacy-timed-wait"] else [] := by
  by_cases hlacking : "wait-ticks" ∈ given ∧ "legacy-timed-wait" ∉ given
  · rw [if_pos hlacking]
    simp [Program.lacking, program, hlacking]
  · rw [if_neg hlacking]
    simpa [Program.lacking, program] using hlacking

theorem lacking_names (chosen : List (Sigma Key.Value)) :
    program.lacking (vocabulary.names chosen) =
      if (chosen.dlookup .waitTicks).isSome ∧ ¬(chosen.dlookup .timedWait).isSome then
        ["legacy-timed-wait"]
      else [] := by
  have hticks : "wait-ticks" ∈ vocabulary.names chosen ↔ (chosen.dlookup .waitTicks).isSome :=
    vocabulary.name_mem_names Key.waitTicks
  have hflag : "legacy-timed-wait" ∈ vocabulary.names chosen ↔
      (chosen.dlookup .timedWait).isSome :=
    vocabulary.name_mem_names Key.timedWait
  simp only [lacking_eq, hticks, hflag]

theorem parse_options (h : vocabulary.Writes chosen row) (hkeys : chosen.NodupKeys) :
    program.parse (row.flatMap Given.arguments) =
      if (chosen.dlookup .waitTicks).isSome ∧ ¬(chosen.dlookup .timedWait).isSome then
        .error (.usage (.requiredMissing ["legacy-timed-wait"]))
      else .ok (Settings.of fun k => chosen.dlookup k) := by
  have hparse : program.parse (row.flatMap Given.arguments) =
      if program.lacking (vocabulary.names chosen) = [] then
        .ok (Settings.of fun k => chosen.dlookup k)
      else .error (.usage (.requiredMissing (program.lacking (vocabulary.names chosen)))) :=
    vocabulary.parse_eq h hkeys
  rw [hparse, lacking_names]
  split <;> rfl

end Contention

/-- **Options mean the same in any order and any spelling.** Of either program, take any options,
none twice, each number in any decimal, each value behind an equals sign or as the next argument.
They are accepted, unless there are ticks to wait and no flag for a timed wait. Then the
configuration has each value that is given and the default for each option that is not, and the
flags for the report and for more log lines are not part of it. Any other order or spelling of the
same comes to the same. -/
theorem options_in_any_order_and_spelling :
    (∀ (chosen : List (Sigma Socket.Key.Value)) (row : List Given), chosen.NodupKeys →
      Socket.vocabulary.Writes chosen row →
      (∃ s : Socket.Settings, Socket.program.parse (row.flatMap Given.arguments) = .ok s ∧
        s.config = {
          address := chosen.dlookup .address
          port := (chosen.dlookup .port).getD defaultPort
          cycles := (chosen.dlookup .cycles).getD defaultCycles
          tick := ((chosen.dlookup .tickMillis).map Span.ofMillis).getD defaultTick
          connectDelayTicks := (chosen.dlookup .delayTicks).getD Socket.defaultDelayTicks
          role := (chosen.dlookup .role).getD Socket.Role.both
          composition := (chosen.dlookup .composition).getD Socket.Composition.fork } ∧
        (∀ ms, chosen.dlookup .tickMillis = some ms →
          s.config.tick.total = ms.toNat * 1000000) ∧
        s.json = (chosen.dlookup .json).isSome ∧ s.debug = (chosen.dlookup .debug).isSome) ∧
      ∀ (chosen' : List (Sigma Socket.Key.Value)) (row' : List Given), chosen'.Perm chosen →
        Socket.vocabulary.Writes chosen' row' →
        Socket.program.parse (row'.flatMap Given.arguments) =
          Socket.program.parse (row.flatMap Given.arguments)) ∧
    ∀ (chosen : List (Sigma Contention.Key.Value)) (row : List Given), chosen.NodupKeys →
      Contention.vocabulary.Writes chosen row →
      (((chosen.dlookup .waitTicks).isSome ∧ ¬(chosen.dlookup .timedWait).isSome) →
        Contention.program.parse (row.flatMap Given.arguments) =
          .error (.usage (.requiredMissing ["legacy-timed-wait"]))) ∧
      (¬((chosen.dlookup .waitTicks).isSome ∧ ¬(chosen.dlookup .timedWait).isSome) →
        ∃ s : Contention.Settings,
          Contention.program.parse (row.flatMap Given.arguments) = .ok s ∧
          s.config = {
            workers := (chosen.dlookup .workers).getD Contention.defaultWorkers
            locks := (chosen.dlookup .locks).getD Contention.defaultLocks
            cycles := (chosen.dlookup .cycles).getD defaultCycles
            tick := ((chosen.dlookup .tickMillis).map Span.ofMillis).getD defaultTick
            completion :=
              if (chosen.dlookup .timedWait).isSome then
                .timedWait ((chosen.dlookup .waitTicks).getD defaultCycles)
              else .join } ∧
          (∀ ms, chosen.dlookup .tickMillis = some ms →
            s.config.tick.total = ms.toNat * 1000000) ∧
          s.json = (chosen.dlookup .json).isSome ∧ s.debug = (chosen.dlookup .debug).isSome) ∧
      ∀ (chosen' : List (Sigma Contention.Key.Value)) (row' : List Given), chosen'.Perm chosen →
        Contention.vocabulary.Writes chosen' row' →
        Contention.program.parse (row'.flatMap Given.arguments) =
          Contention.program.parse (row.flatMap Given.arguments) := by
  constructor
  · intro chosen row hkeys h
    refine ⟨⟨_, Socket.parse_options h hkeys, rfl, ?_, rfl, rfl⟩, ?_⟩
    · intro ms hms
      exact total_tickOf hms
    · intro chosen' row' hperm h'
      exact Vocabulary.parse_eq_of_perm h h' hkeys hperm
  · intro chosen row hkeys h
    have hparse := Contention.parse_options h hkeys
    refine ⟨fun hlacking => hparse.trans (if_pos hlacking), ?_, ?_⟩
    · intro hmet
      refine ⟨_, hparse.trans (if_neg hmet), rfl, ?_, rfl, rfl⟩
      intro ms hms
      exact total_tickOf hms
    · intro chosen' row' hperm h'
      exact Vocabulary.parse_eq_of_perm h h' hkeys hperm

/-- A port and a role in two orders and spellings, and ticks to wait without and with their flag. -/
theorem port_and_role_swapped :
    (∃ s, Socket.program.parse ["--port=080", "--role", "connector"] = .ok s ∧
      s.config = { port := 80, role := .connector }) ∧
    Socket.program.parse ["--role=connector", "--port", "80"] =
      Socket.program.parse ["--port=080", "--role", "connector"] ∧
    Contention.program.parse ["--wait-ticks", "007"] =
      .error (.usage (.requiredMissing ["legacy-timed-wait"])) ∧
    ∃ s, Contention.program.parse ["--wait-ticks=7", "--json", "--legacy-timed-wait"] = .ok s ∧
      s.config = { completion := .timedWait 7 } := by
  have hwrites : Socket.vocabulary.Writes [⟨.port, (80 : UInt16)⟩, ⟨.role, Socket.Role.connector⟩]
      [.joined "port" "080", .spaced "role" "connector"] :=
    .cons (.joined (.number 1 80)) <| .cons (.spaced (.word "connector")) .nil
  have hwrites' : Socket.vocabulary.Writes [⟨.role, Socket.Role.connector⟩, ⟨.port, (80 : UInt16)⟩]
      [.joined "role" "connector", .spaced "port" "80"] :=
    .cons (.joined (.word "connector")) <| .cons (.spaced (.number 0 80)) .nil
  have hlone : Contention.vocabulary.Writes [⟨.waitTicks, (7 : UInt32)⟩]
      [.spaced "wait-ticks" "007"] :=
    .cons (.spaced (.number 2 7)) .nil
  have hflagged : Contention.vocabulary.Writes
      [⟨.waitTicks, (7 : UInt32)⟩, ⟨.json, ()⟩, ⟨.timedWait, ()⟩]
      [.joined "wait-ticks" "7", .flag "json", .flag "legacy-timed-wait"] :=
    .cons (.joined (.number 0 7)) <| .cons .flag <| .cons .flag .nil
  obtain ⟨⟨s, hs, hconfig, -⟩, hswapped⟩ :=
    options_in_any_order_and_spelling.1 _ _ (by simp) hwrites
  obtain ⟨-, haccepted, -⟩ := options_in_any_order_and_spelling.2 _ _ (by simp) hflagged
  obtain ⟨t, ht, htimed, -⟩ := haccepted (by decide)
  refine ⟨⟨s, hs, hconfig⟩, hswapped _ _ (.swap _ _ _) hwrites', ?_, t, ht, htimed⟩
  exact (options_in_any_order_and_spelling.2 _ _ (by simp) hlone).1 (by decide)

end Standstill
