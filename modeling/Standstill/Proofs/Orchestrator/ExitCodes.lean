import Mathlib
import Standstill.Proofs.Orchestrator.Arguments
import Standstill.Proofs.Orchestrator.Verdicts
import Standstill.Socket.Program

/-!
# What the exit code of the socket program tells

One exit code is kept for a host without a usable interface, so that runs on such
a host can be skipped. Once the program has settings, it ends with this code only
if its run finds no interface, and with one code for all other failures. But the
code is also that of a command line that is refused, and then nothing is known of
the host. The orchestrator's own arguments are always taken, so the runs that it
skips are on hosts without an interface.

Results:
* `exitCode_perform_eq`: the exit code by the arguments and the run.
* `run_eq_noInterface_iff`: when a run finds no interface.
* `tells_iff`: the exit code tells how a run ended unless its arguments are refused.
* `skip_iff_unable`: the runs that are skipped.
* `exit_codes_told`: all of it, and `refused_arguments_skipped`: what goes wrong.
-/
namespace Standstill

open CommandLine

namespace Traced

variable {ε α β : Type}

theorem note_ne_error (v : Event) (e : ε) : (note v).result ≠ .error e := by simp [note]

theorem pure_ne_error (a : α) (e : ε) : (pure a : Traced ε α).result ≠ .error e := by
  intro h
  cases h

/-- A failure of neither step is none of both. -/
theorem bind_ne_error {x : Traced ε α} {f : α → Traced ε β} {e : ε} (hx : x.result ≠ .error e)
    (hf : ∀ a, (f a).result ≠ .error e) : (x >>= f).result ≠ .error e := by
  cases h : x.result with
  | ok a =>
    rw [(events_bind_of_ok f h).2]
    exact hf a
  | error g =>
    rw [(events_bind_of_error f h).2]
    rintro ⟨⟩
    exact hx h

end Traced

theorem Failure.exitCode_le_two (f : Failure) : f.exitCode ≤ 2 := by
  cases f <;> simp [exitCode, noInterfaceCode, setupCode]

theorem Failure.exitCode_pos (f : Failure) : 0 < f.exitCode := by
  cases f <;> simp [exitCode, noInterfaceCode, setupCode]

namespace Socket

/-! ## The exit code -/

theorem result_trace (s : Settings) (w : World) :
    (trace s w).result = (run s.config w).result := by
  unfold trace
  rw [Traced.note_bind]
  cases h : (run s.config w).result with
  | ok r =>
    rw [(Traced.events_bind_of_ok _ h).2]
    rfl
  | error f => exact (Traced.events_bind_of_error _ h).2

/-- The exit code of a run with settings. -/
def runCode : Except Failure Report → Nat
  | .ok _ => 0
  | .error f => f.exitCode

theorem runCode_le_two (r : Except Failure Report) : runCode r ≤ 2 := by
  cases r with
  | ok a => exact Nat.zero_le 2
  | error f => exact f.exitCode_le_two

theorem runCode_eq_noInterface_iff (r : Except Failure Report) :
    runCode r = Failure.noInterfaceCode ↔ r = .error .noInterface := by
  cases r with
  | ok a => simp [runCode, Failure.noInterfaceCode]
  | error f => simp [runCode, Failure.exitCode_eq_noInterface_iff]

theorem runCode_eq_zero_iff (r : Except Failure Report) : runCode r = 0 ↔ ∃ a, r = .ok a := by
  cases r with
  | ok a => simp [runCode]
  | error f => simp [runCode, f.exitCode_pos.ne']

/-- There are three codes, so that the third one is for what the others are not for. -/
theorem runCode_eq_setup_iff (r : Except Failure Report) :
    runCode r = Failure.setupCode ↔ r ≠ .error .noInterface ∧ ¬∃ a, r = .ok a := by
  rw [ne_eq, ← runCode_eq_noInterface_iff, ← runCode_eq_zero_iff]
  have hle := runCode_le_two r
  simp only [Failure.setupCode, Failure.noInterfaceCode]
  omega

/-- The exit code by what the arguments come to. -/
def endCode (w : World) : Except Stop Settings → Nat
  | .ok s => runCode (run s.config w).result
  | .error stop => stop.exitCode

theorem exitCode_perform_eq (w : World) (arguments : List String) :
    (perform w arguments).exitCode = some (endCode w (program.parse arguments)) := by
  cases h : program.parse arguments with
  | ok s =>
    rw [exitCode_perform h, result_trace, endCode]
    cases (run s.config w).result <;> rfl
  | error stop => simp [perform, Program.perform, h, endCode]

/-- The arguments are taken, and the run finds no interface. -/
def FindsNone (w : World) (arguments : List String) : Prop :=
  ∃ s, program.parse arguments = .ok s ∧ (run s.config w).result = .error .noInterface

/-- The program shows its help or its version, or its run comes to a report. -/
def EndsWell (w : World) (arguments : List String) : Prop :=
  program.parse arguments = .error .help ∨ program.parse arguments = .error .version ∨
    ∃ s r, program.parse arguments = .ok s ∧ (run s.config w).result = .ok r

/-- The command line is refused. -/
def Refused (arguments : List String) : Prop := ∃ u, program.parse arguments = .error (.usage u)

/-- The exit code tells how the program ended: code 2 stands for a host without a usable
interface and for nothing else. -/
structure Tells (w : World) (arguments : List String) : Prop where
  noInterface : (perform w arguments).exitCode = some Failure.noInterfaceCode ↔
    FindsNone w arguments
  well : (perform w arguments).exitCode = some 0 ↔ EndsWell w arguments
  other : (perform w arguments).exitCode = some Failure.setupCode ↔
    ¬FindsNone w arguments ∧ ¬EndsWell w arguments

theorem exitCode_of_refused {arguments : List String} (h : Refused arguments) (w : World) :
    (perform w arguments).exitCode = some Failure.noInterfaceCode := by
  obtain ⟨u, hu⟩ := h
  rw [exitCode_perform_eq, hu]
  rfl

theorem not_findsNone_of_refused {arguments : List String} (h : Refused arguments) (w : World) :
    ¬FindsNone w arguments := by
  rintro ⟨s, hs, -⟩
  obtain ⟨u, hu⟩ := h
  cases hs.symm.trans hu

theorem tells_of_settings {arguments : List String} {s : Settings}
    (h : program.parse arguments = .ok s) (w : World) : Tells w arguments := by
  have hnone : FindsNone w arguments ↔ (run s.config w).result = .error .noInterface := by
    simp [FindsNone, h]
  have hwell : EndsWell w arguments ↔ ∃ r, (run s.config w).result = .ok r := by
    simp [EndsWell, h]
  have hcode : (perform w arguments).exitCode = some (runCode (run s.config w).result) := by
    rw [exitCode_perform_eq, h, endCode]
  constructor <;> rw [hcode, Option.some_inj]
  · rw [runCode_eq_noInterface_iff, hnone]
  · rw [runCode_eq_zero_iff, hwell]
  · rw [runCode_eq_setup_iff, hnone, hwell]

theorem tells_of_shown {arguments : List String}
    (h : program.parse arguments = .error .help ∨ program.parse arguments = .error .version)
    (w : World) : Tells w arguments := by
  have hcode : (perform w arguments).exitCode = some 0 := by
    rw [exitCode_perform_eq]
    rcases h with h | h <;> rw [h] <;> rfl
  have hwell : EndsWell w arguments := h.imp_right .inl
  have hnone : ¬FindsNone w arguments := by
    rintro ⟨s, hs, -⟩
    rcases h with h | h <;> cases hs.symm.trans h
  constructor <;> simp [hcode, hwell, hnone, Failure.noInterfaceCode, Failure.setupCode]

/-- The exit code tells how a run ended exactly if the command line is not refused. -/
theorem tells_iff (w : World) (arguments : List String) :
    Tells w arguments ↔ ¬Refused arguments := by
  constructor
  · intro h hrefused
    exact not_findsNone_of_refused hrefused w
      (h.noInterface.1 (exitCode_of_refused hrefused w))
  · intro h
    cases hp : program.parse arguments with
    | ok s => exact tells_of_settings hp w
    | error stop =>
      cases stop with
      | help => exact tells_of_shown (.inl hp) w
      | version => exact tells_of_shown (.inr hp) w
      | usage u => exact absurd ⟨u, hp⟩ h

/-- No exit code is so large that it is read as another. -/
theorem exitCode_perform_small (w : World) (arguments : List String) :
    ∃ n ≤ 2, (perform w arguments).exitCode = some n := by
  rw [exitCode_perform_eq]
  refine ⟨_, ?_, rfl⟩
  cases program.parse arguments with
  | ok s => exact runCode_le_two _
  | error stop => cases stop <;> simp [endCode, Stop.exitCode, usageCode]

/-- The code of a host without an interface, whoever leaves it. -/
theorem exitCode_eq_noInterface_iff (w : World) (arguments : List String) :
    (perform w arguments).exitCode = some Failure.noInterfaceCode ↔
      Refused arguments ∨ FindsNone w arguments := by
  by_cases h : Refused arguments
  · simp [exitCode_of_refused h w, h]
  · simp [((tells_iff w arguments).2 h).noInterface, h]

/-! ## A run that finds no interface -/

namespace World

/-- A system that does not answer as if it had looked for an interface. The failures of its
operations are those of the operations. -/
structure Apart (w : World) : Prop where
  table : w.table ≠ .error .noInterface
  bind : ∀ e, w.bind e ≠ .error .noInterface
  serve : ∀ e, (w.serve e).result ≠ .error .noInterface
  connect : ∀ e, (w.connect e).result ≠ .error .noInterface

theorem receiveReport_ne_noInterface (reads : List Read) :
    receiveReport reads ≠ .error .noInterface := by
  unfold receiveReport decodeReport
  intro h
  split at h
  · cases h
  · cases h
  · split at h
    · cases h
    · split at h <;> cases h

theorem settleFork_ne_noInterface {process : Nat} (report : Report) (ending : ChildEnd)
    {listener : Except Failure ListenerReport} {received : Except Failure (Option ConnectorReport)}
    (hl : listener ≠ .error .noInterface) (hr : received ≠ .error .noInterface) :
    (settleFork process report ending listener received).result ≠ .error .noInterface := by
  unfold settleFork
  split
  · simp [Traced.error]
  · refine Traced.bind_ne_error hl fun l => ?_
    split
    · simp [Traced.error]
    · refine Traced.bind_ne_error hr fun r => ?_
      split
      · simp [Traced.error]
      · exact Traced.bind_ne_error (Traced.note_ne_error _ _) fun _ => Traced.pure_ne_error _ _

section Apart
variable {w : World} (h : w.Apart)
include h

theorem Apart.listen (e : Endpoint) : (w.listen e).result ≠ .error .noInterface := by
  refine Traced.bind_ne_error (Traced.note_ne_error _ _) fun _ => ?_
  refine Traced.bind_ne_error (h.bind e) fun _ => ?_
  exact Traced.bind_ne_error (Traced.note_ne_error _ _) fun _ => Traced.pure_ne_error _ _

theorem Apart.runThreads (address : Endpoint) (report : Report) :
    (w.runThreads address report).result ≠ .error .noInterface := by
  refine Traced.bind_ne_error (Traced.note_ne_error _ _) fun _ => ?_
  split
  · simp [Traced.error]
  · refine Traced.bind_ne_error (h.serve address) fun _ => ?_
    exact Traced.bind_ne_error (h.connect address) fun _ => Traced.pure_ne_error _ _

theorem Apart.runFork (address : Endpoint) (report : Report) :
    (w.runFork address report).result ≠ .error .noInterface := by
  refine Traced.bind_ne_error (Traced.note_ne_error _ _) fun _ => ?_
  split
  · simp [Traced.error]
  refine Traced.bind_ne_error (Traced.note_ne_error _ _) fun _ => ?_
  split
  · simp [Traced.error]
  refine Traced.bind_ne_error (Traced.note_ne_error _ _) fun _ => ?_
  -- The listener's failure is kept as a value here, and only looked at in the end.
  rw [show (w.serve address).attempt = ⟨(w.serve address).events, .ok (w.serve address).result⟩
    from rfl, (Traced.events_bind_of_ok _ rfl).2]
  split
  · simp [Traced.error]
  · exact settleFork_ne_noInterface _ _ (h.serve address) (receiveReport_ne_noInterface _)

/-- Once there is an address, no failure is that of a host without an interface. -/
theorem Apart.runAt (c : Config) (ip : Ipv4) :
    (w.runAt c ip).result ≠ .error .noInterface := by
  unfold World.runAt
  split
  · refine Traced.bind_ne_error (h.listen _) fun a => ?_
    exact Traced.bind_ne_error (h.serve a) fun _ => Traced.pure_ne_error _ _
  · exact Traced.bind_ne_error (h.connect _) fun _ => Traced.pure_ne_error _ _
  · refine Traced.bind_ne_error (h.listen _) fun a => ?_
    split
    · exact h.runThreads a _
    · exact h.runFork a _

end Apart

end World

/-- The hosts on which runs are looked at. -/
theorem Loopback.apart_worldOf {h : Loopback} (htable : h.table ≠ .error .noInterface)
    (c : Config) : (h.worldOf c).Apart where
  table := htable
  bind e := by
    change h.bind e ≠ _
    unfold Loopback.bind
    split
    · split <;> simp
    · simp
  serve e := by
    change (Listener.trace _ _).result ≠ _
    rw [Listener.result_trace]
    cases h.link <;> simp [Except.map, Except.mapError]
  connect e := by
    change (Connector.trace _ _ _).result ≠ _
    rw [Connector.result_trace]
    cases h.link <;> simp [Except.map, Except.mapError]

theorem discover_eq_noInterface_iff {records : List Net.Interface} :
    (Net.discover (.ok records)).result = .error .noInterface ↔
      ∀ i ∈ records, ∀ ip, ¬i.Offers ip := by
  constructor
  · intro h i hi ip hoffers
    -- Otherwise there is a first record that offers an address, and its address is found.
    cases hfirst : Net.firstUsable records with
    | none =>
      have hunusable := List.find?_eq_none.1 hfirst i hi
      exact hunusable (Net.Interface.isUsable_iff.2 ⟨ip, hoffers⟩)
    | some j =>
      obtain ⟨hj, before, after, rfl, hbefore⟩ := Net.firstUsable_eq_some_iff.1 hfirst
      obtain ⟨found, hfound⟩ := Net.Interface.isUsable_iff.1 hj
      rw [Net.discover_of_first
        (fun k hk => Net.Interface.isUsable_eq_false_iff.1 (hbefore k hk)) hfound] at h
      cases h
  · intro h
    rw [Net.discover_of_none h]

/-- No record of the interface table offers an address. -/
def World.Bare (w : World) : Prop :=
  ∃ records, w.table = .ok records ∧ ∀ i ∈ records, ∀ ip, ¬i.Offers ip

theorem resolve_eq_noInterface_iff {c : Config} {w : World} (h : w.Apart) :
    (Net.resolve c.address w.table).result = .error .noInterface ↔
      c.address = none ∧ w.Bare := by
  unfold World.Bare
  cases c.address with
  | some ip =>
    have hip : (Net.resolve (some ip) w.table).result = .ok ip := rfl
    simp [hip]
  | none =>
    cases htable : w.table with
    | error f =>
      have hf : f ≠ .noInterface := fun hf => h.table (hf ▸ htable)
      simp [Net.resolve, Net.discover, Traced.error, hf, Traced.ofExcept_error_bind]
    | ok records => simp [Net.resolve, discover_eq_noInterface_iff]

/-- A run finds no interface exactly if it has to look for one and there is none. -/
theorem run_eq_noInterface_iff {c : Config} {w : World} (h : w.Apart) :
    (run c w).result = .error .noInterface ↔
      c.validate = .ok () ∧ c.address = none ∧ w.Bare := by
  cases hv : c.validate with
  | error f => simp [run_of_invalid hv]
  | ok u =>
    rw [← resolve_eq_noInterface_iff h]
    cases hresolve : (Net.resolve c.address w.table).result with
    | error f => simp [run_of_unresolved hv hresolve]
    | ok ip => simp [run_of_resolved hv hresolve, h.runAt c ip]

end Socket

/-! ## The runs that are skipped -/

namespace Orchestrator

open Socket (World FindsNone Refused Tells)

theorem socketVerdict_eq_skip_iff {outputs : List Output} :
    socketVerdict outputs = .skip ↔
      outputs ≠ [] ∧ ∀ o ∈ outputs, o.exitCode = some noInterface := by
  have hne : ¬some noInterface = some 0 := by decide
  unfold socketVerdict
  constructor
  · intro h
    split at h
    · cases h
    next hstable =>
    simp only at h
    split at h
    · split at h <;> cases h
    split at h
    · next hcode =>
      have hcodes := codesStable_iff.1 (Bool.eq_true_of_not_eq_false hstable)
      rw [hcode] at hcodes
      refine ⟨?_, hcodes⟩
      rintro rfl
      cases hcode
    · cases h
  · rintro ⟨hsome, h⟩
    obtain ⟨a, rest, rfl⟩ := List.exists_cons_of_ne_nil hsome
    simp [codesStable_of_forall h, h a (by simp), hne]

/-- What is left of a run of a program. -/
def Output.ofExit (e : Exit) : Output :=
  ⟨e.exitCode.map Int32.ofNat, String.ofList (decodeMarked (encodeText e.output))⟩

@[simp] theorem Output.exitCode_ofExit (e : Exit) :
    (Output.ofExit e).exitCode = e.exitCode.map Int32.ofNat := rfl

/-- The exit code of the socket program is read as it was left. -/
theorem exitCode_ofExit_iff (w : World) (arguments : List String) :
    (Output.ofExit (Socket.perform w arguments)).exitCode = some noInterface ↔
      Refused arguments ∨ FindsNone w arguments := by
  rw [← Socket.exitCode_eq_noInterface_iff, Output.exitCode_ofExit]
  obtain ⟨n, hn, hcode⟩ := Socket.exitCode_perform_small w arguments
  rw [hcode]
  interval_cases n <;> decide

/-- Runs are skipped if none of them is known to have had an interface: each was refused its
arguments, or found no interface. -/
theorem skip_iff_unable (runs : List (World × List String)) :
    socketVerdict (runs.map fun r => .ofExit (Socket.perform r.1 r.2)) = .skip ↔
      runs ≠ [] ∧ ∀ r ∈ runs, Refused r.2 ∨ FindsNone r.1 r.2 := by
  simp only [socketVerdict_eq_skip_iff, List.forall_mem_map, exitCode_ofExit_iff, ne_eq,
    List.map_eq_nil_iff]

/-- The orchestrator's own arguments are taken, so that a host is all that can be wanting. -/
theorem unable_iff_bare (s : Settings) {w : World} (h : w.Apart) :
    Refused s.socketArguments ∨ FindsNone w s.socketArguments ↔
      s.cycles ≠ 0 ∧ w.Bare := by
  have hparse := parse_socketArguments s
  have hrefused : ¬Refused s.socketArguments := by
    rintro ⟨u, hu⟩
    cases hparse.symm.trans hu
  have hvalid := validate_socket_iff s.tickMillis s.cycles s.port
  simp [hrefused, FindsNone, hparse, Socket.run_eq_noInterface_iff h, hvalid]

/-- With the orchestrator's own arguments runs are skipped only on hosts without an interface. -/
theorem skip_iff_bare (s : Settings) {hosts : List World} (h : ∀ w ∈ hosts, w.Apart) :
    socketVerdict (hosts.map fun w => .ofExit (Socket.perform w s.socketArguments)) = .skip ↔
      hosts ≠ [] ∧ s.cycles ≠ 0 ∧ ∀ w ∈ hosts, w.Bare := by
  have hruns := skip_iff_unable (hosts.map fun w => (w, s.socketArguments))
  rw [List.map_map] at hruns
  refine hruns.trans ?_
  simp only [ne_eq, List.map_eq_nil_iff, List.forall_mem_map]
  refine and_congr_right fun hsome => ?_
  obtain ⟨w, rest, rfl⟩ := List.exists_cons_of_ne_nil hsome
  constructor
  · intro hall
    have hbare := fun v hv => (unable_iff_bare s (h v hv)).1 (hall v hv)
    exact ⟨(hbare w (by simp)).1, fun v hv => (hbare v hv).2⟩
  · rintro ⟨hcycles, hbare⟩ v hv
    exact (unable_iff_bare s (h v hv)).2 ⟨hcycles, hbare v hv⟩

/-- **What exit code 2 tells.** The exit code tells how the program ended, and code 2 a host
without a usable interface and nothing else, exactly if the command line is not refused: that leaves
code 2 as well, on any host. So runs are skipped if each was refused its arguments or found no
interface, and with the orchestrator's own arguments, which are always taken, if they were to run at
all and there was no interface. -/
theorem exit_codes_told (w : World) (arguments : List String) :
    (Tells w arguments ↔ ¬Refused arguments) ∧
    (Refused arguments → (Socket.perform w arguments).exitCode = some 2) ∧
    (w.Apart → FindsNone w arguments → w.Bare) ∧
    (∀ runs : List (World × List String),
      socketVerdict (runs.map fun r => .ofExit (Socket.perform r.1 r.2)) = .skip ↔
        runs ≠ [] ∧ ∀ r ∈ runs, Refused r.2 ∨ FindsNone r.1 r.2) ∧
    ∀ (s : Settings) (hosts : List World), (∀ v ∈ hosts, v.Apart) →
      (socketVerdict (hosts.map fun v => .ofExit (Socket.perform v s.socketArguments)) = .skip ↔
        hosts ≠ [] ∧ s.cycles ≠ 0 ∧ ∀ v ∈ hosts, v.Bare) := by
  refine ⟨Socket.tells_iff w arguments, fun h => ?_, fun h hnone => ?_, skip_iff_unable,
    fun s hosts h => skip_iff_bare s h⟩
  · exact Socket.exitCode_of_refused h w
  · obtain ⟨a, -, hrun⟩ := hnone
    exact ((Socket.run_eq_noInterface_iff h).1 hrun).2.2

/-- A misspelt option on a host with a usable interface: the run that was never made is skipped
as one on a host without any. -/
theorem refused_arguments_skipped :
    let c : Socket.Config := {}
    let w := (c.host (.ok [⟨"eth0", false, some ⟨192, 168, 1, 20⟩⟩]) (.errno ⟨32⟩)).worldOf c
    ¬w.Bare ∧ Socket.program.parse ["--nope"] = .error (.usage (.unexpected "--nope")) ∧
      (Socket.perform w ["--nope"]).exitCode = some 2 ∧ ¬Tells w ["--nope"] ∧
      socketVerdict [.ofExit (Socket.perform w ["--nope"])] = .skip := by
  intro c w
  have hparse : Socket.program.parse ["--nope"] = .error (.usage (.unexpected "--nope")) := by
    decide
  have hrefused : Refused ["--nope"] := ⟨_, hparse⟩
  refine ⟨?_, hparse, Socket.exitCode_of_refused hrefused w, ?_, ?_⟩
  · rintro ⟨records, hrecords, hnone⟩
    cases hrecords
    exact hnone _ List.mem_cons_self ⟨192, 168, 1, 20⟩ (by constructor <;> decide)
  · exact fun h => (Socket.tells_iff w _).1 h hrefused
  · exact (skip_iff_unable [(w, ["--nope"])]).2 ⟨by simp, by simp [hrefused]⟩

/-- Two runs with the orchestrator's arguments on a host of which only the loopback interface has
an address. -/
theorem loopback_alone_skipped :
    let s : Settings := {}
    let c : Socket.Config := {}
    let w := (c.host (.ok [⟨"lo", true, some .localhost⟩]) (.errno ⟨32⟩)).worldOf c
    w.Apart ∧ Refused ["--port", "65536"] ∧
      (Socket.perform w ["--port", "65536"]).exitCode = some 2 ∧ FindsNone w [] ∧ w.Bare ∧
      socketVerdict [.ofExit (Socket.perform w s.socketArguments),
        .ofExit (Socket.perform w s.socketArguments)] = .skip := by
  intro s c w
  have hrefused : Refused ["--port", "65536"] := by
    refine ⟨.valueRefused "--port <PORT>" "65536" (.outside 65536 65535), ?_⟩
    decide
  have hapart : w.Apart := Socket.Loopback.apart_worldOf (by simp [Socket.Config.host]) c
  have hfinds : FindsNone w [] := ⟨{}, by decide, by decide⟩
  obtain ⟨-, hcode, -, -, hskipped⟩ := exit_codes_told w ["--port", "65536"]
  have hbare := (exit_codes_told w []).2.2.1 hapart hfinds
  refine ⟨hapart, hrefused, hcode hrefused, hfinds, hbare, ?_⟩
  exact (hskipped s [w, w] (by simp [hapart])).2 ⟨by simp, by decide, by simp [hbare]⟩

end Orchestrator

end Standstill
