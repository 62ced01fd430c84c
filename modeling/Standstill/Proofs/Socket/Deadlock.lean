import Mathlib
import Standstill.Proofs.Socket.Fork
import Standstill.Proofs.Socket.Progress

/-!
# A connection that is never made

The two parties of a run are in one of three phases: before connecting has
been tried, after it failed, and after it has made a stream. With a stream
some party can step until the run has returned, and it returns a report. After
a failure the connector's side has ended and the listener's side waits for a
connection that nobody makes: what a run makes of the failure is never come to.

Results:
* `World.runThreads_of_connect_error`, `World.runFork_of_connect_error`: what
  a run makes of the failure once its listener is done.
* `Loopback.waits_of_connect_error`: the runs of a host that come to wait.
* `Parties.Phase.step`, `Parties.phase_of_reaches`: the phases.
* `Parties.stuck_iff_connect_failed`: the states that no party can leave.
* `Parties.listener_waits_for_ever`: both ways to host the sides get there.
-/
namespace Standstill.Socket

/-! ## Reporting the failure -/

namespace World

variable {w : World} {address : Endpoint} {report : Report} {l : ListenerReport}

theorem runThreads_of_ok {r : ConnectorReport} (hthread : w.thread = none)
    (hl : (w.serve address).result = .ok l) (hc : (w.connect address).result = .ok r) :
    (w.runThreads address report).result =
      .ok { report with listener := some l, connector := some r } := by
  unfold runThreads
  simp only [hthread, Traced.note_bind]
  rw [(Traced.events_bind_of_ok _ hl).2]
  rw [(Traced.events_bind_of_ok _ (show (w.connect address).apart.result = .ok r from hc)).2]
  rfl

theorem runThreads_of_connect_error {f : Failure} (hthread : w.thread = none)
    (hl : (w.serve address).result = .ok l) (hc : (w.connect address).result = .error f) :
    (w.runThreads address report).result = .error f := by
  unfold runThreads
  simp only [hthread, Traced.note_bind]
  rw [(Traced.events_bind_of_ok _ hl).2]
  exact (Traced.events_bind_of_error _ (show (w.connect address).apart.result = .error f from hc)).2

theorem runFork_of_connect_error {process : Nat} {pipe : Sink} {f : IoFault}
    (hpipe : w.pipe = none) (hfork : w.fork = .ok process)
    (hwait : w.wait = .ok (Child.ofRun (w.connect address) pipe).ending)
    (hl : (w.serve address).result = .ok l)
    (hc : (w.connect address).result = .error (.connect address f)) :
    (w.runFork address report).result = .error (.peer .connector (.exitCode 1)) := by
  have hending : (Child.ofRun (w.connect address) pipe).ending = .exited 1 := by
    simp only [Child.ofRun, hc]
    rfl
  rw [result_runFork hpipe hfork hwait, hending, settleFork_exitCode hl (by decide)]

theorem mem_runThreads {e : Event} (hthread : w.thread = none)
    (he : e ∈ (w.serve address).events) : e ∈ (w.runThreads address report).events := by
  simp only [runThreads, hthread]
  exact Traced.mem_events_bind.2 (.inr ⟨(), rfl, Traced.mem_events_bind_left he _⟩)

theorem mem_runFork {e : Event} {process : Nat} (hpipe : w.pipe = none)
    (hfork : w.fork = .ok process) (he : e ∈ (w.serve address).events) :
    e ∈ (w.runFork address report).events := by
  simp only [runFork, hpipe, hfork]
  iterate 3 refine Traced.mem_events_bind.2 (.inr ⟨(), rfl, ?_⟩)
  exact Traced.mem_events_bind.2 (.inl he)

end World

/-! ## The program on a host -/

namespace Loopback

variable {h : Loopback} {c : Config}

/-- A run of both endpoints whose listener is bound waits for ever if
connecting fails. -/
theorem waits_of_connect_error {ip : Ipv4} {address : Endpoint} {f : IoFault}
    (hvalid : c.validate = .ok ()) (hrole : c.role = .both)
    (hip : (Net.resolve c.address h.table).result = .ok ip)
    (hbind : h.bind (.v4 ip c.port) = .ok address) (hlink : h.link = .error f) :
    h.waits c = true := by
  set w := h.worldOf c with hw
  have hserve : Event.awaitingConnection address ∈ (w.serve address).events :=
    Traced.mem_events_bind.2 (.inl (List.mem_singleton.2 rfl))
  have hlisten : (w.listen (.v4 ip c.port)).result = .ok address := by
    have hbound : w.bind (.v4 ip c.port) = .ok address := hbind
    simp only [World.listen, hbound, Traced.note_bind, Traced.ofExcept_ok_bind]
    rfl
  have hmem : Event.awaitingConnection address ∈ (run c w).events := by
    simp only [run, hvalid]
    refine Traced.mem_events_bind.2 (.inr ⟨ip, hip, ?_⟩)
    simp only [World.runAt, hrole]
    refine Traced.mem_events_bind.2 (.inr ⟨address, hlisten, ?_⟩)
    cases c.composition with
    | threads => exact World.mem_runThreads rfl hserve
    | fork => exact World.mem_runFork rfl rfl hserve
  simp only [waits, hrole, hlink, Bool.and_eq_true, List.any_eq_true]
  exact ⟨⟨rfl, rfl⟩, _, hmem, rfl⟩

/-- The address of a group can be bound, and connecting to it fails. -/
theorem waits_of_group {ip : Ipv4} (hvalid : c.validate = .ok ()) (hrole : c.role = .both)
    (haddress : c.address = some ip) (hgroup : ip.isGroup = true) (table : Net.Table)
    (fault : IoFault) : (c.host table fault).waits c = true := by
  have hlink : (c.host table fault).link = .error unreachable := by
    simp [Config.host, linkAt, haddress, hgroup]
  exact waits_of_connect_error hvalid hrole (by rw [haddress]; rfl)
    (if_pos (by simp [isLocal, hgroup])) hlink

end Loopback

/-! ## Phases -/

/-- A move of one side leaves the other end of the stream as it is. -/
theorem Link.connectorClosed_of_step {k m : Link} {v : Move} (hv : v.isListeners = true)
    (h : k.step v = some m) : m.connectorClosed = k.connectorClosed := by
  cases moves_of_step h with
  | read | readEnd | closeConnector => cases hv
  | write | writeLost | writeFails | closeListener => rfl

theorem Link.listenerClosed_of_step {k m : Link} {v : Move} (hv : v.isListeners = false)
    (h : k.step v = some m) : m.listenerClosed = k.listenerClosed := by
  cases moves_of_step h with
  | write | writeLost | writeFails | closeListener => cases hv
  | read | readEnd | closeConnector => rfl

/-- The steps that are left to the listener's side, moves of the loops apart. -/
def ListenerSide.left : ListenerSide → Nat
  | .accepting => 3
  | .serving => 2
  | .collecting => 1
  | .returned => 0

def ConnectorSide.left : ConnectorSide → Nat
  | .delaying => 3
  | .connecting => 2
  | .reading => 1
  | .ended => 0

namespace Parties

variable {c : Config} {address : Endpoint} {p q : Parties}

/-- Where a run can be. -/
inductive Phase (c : Config) (address : Endpoint) : Parties → Prop
  /-- Connecting has not been tried. -/
  | apart {s : ConnectorSide} (hs : s = .delaying ∨ s = .connecting) :
      Phase c address ⟨c, address, .accepting, s, none⟩
  /-- Connecting has failed. -/
  | failed (f : IoFault) : Phase c address ⟨c, address, .accepting, .ended, some (.error f)⟩
  /-- There is a stream, and a side that is past it has closed its end. -/
  | joined {l : ListenerSide} {s : ConnectorSide} {k : Link} (hk : k.Sound c.cycles c.cycles)
      (hl : l = .collecting ∨ l = .returned → k.listenerClosed = true)
      (hs : s = .reading ∨ s = .ended ∧ k.connectorClosed = true)
      (hr : l = .returned → s = .ended) : Phase c address ⟨c, address, l, s, some (.ok k)⟩

/-- What a step does in the phase that it is made in. -/
inductive Steps (c : Config) (address : Endpoint) : Parties → Parties → Prop
  | delayEnds : Steps c address ⟨c, address, .accepting, .delaying, none⟩
      ⟨c, address, .accepting, .connecting, none⟩
  | connects : Steps c address ⟨c, address, .accepting, .connecting, none⟩
      ⟨c, address, .accepting, .reading, some (.ok (.start c.cycles c.cycles))⟩
  | connectFails (f : IoFault) : Steps c address ⟨c, address, .accepting, .connecting, none⟩
      ⟨c, address, .accepting, .ended, some (.error f)⟩
  | accepts (s : ConnectorSide) (k : Link) :
      Steps c address ⟨c, address, .accepting, s, some (.ok k)⟩
        ⟨c, address, .serving, s, some (.ok k)⟩
  | listenerMoves (s : ConnectorSide) {k m : Link} {v : Move} (hv : v.isListeners = true)
      (h : k.step v = some m) :
      Steps c address ⟨c, address, .serving, s, some (.ok k)⟩
        ⟨c, address, .serving, s, some (.ok m)⟩
  | connectorMoves (l : ListenerSide) {k m : Link} {v : Move} (hv : v.isListeners = false)
      (h : k.step v = some m) :
      Steps c address ⟨c, address, l, .reading, some (.ok k)⟩
        ⟨c, address, l, .reading, some (.ok m)⟩
  | servingEnds (s : ConnectorSide) {k : Link} (h : k.listenerClosed = true) :
      Steps c address ⟨c, address, .serving, s, some (.ok k)⟩
        ⟨c, address, .collecting, s, some (.ok k)⟩
  | readingEnds (l : ListenerSide) {k : Link} (h : k.connectorClosed = true) :
      Steps c address ⟨c, address, l, .reading, some (.ok k)⟩
        ⟨c, address, l, .ended, some (.ok k)⟩
  | returns (k : Link) : Steps c address ⟨c, address, .collecting, .ended, some (.ok k)⟩
      ⟨c, address, .returned, .ended, some (.ok k)⟩

/-- After a failure no party can step. -/
theorem step_of_failed (f : IoFault) (m : PartyMove) :
    (⟨c, address, .accepting, .ended, some (.error f)⟩ : Parties).step m = none := by
  cases m <;> rfl

theorem Phase.steps (h : Phase c address p) {m : PartyMove} (hm : p.step m = some q) :
    Steps c address p q := by
  cases h with
  | apart hs =>
    rcases hs with rfl | rfl
    · cases m <;> simp only [Parties.step, reduceCtorEq, ↓reduceIte, false_and,
        Option.some.injEq] at hm
      exact hm ▸ .delayEnds
    · cases m <;> simp only [Parties.step, reduceCtorEq, ↓reduceIte, false_and,
        Option.some.injEq] at hm
      · exact hm ▸ .connects
      · exact hm ▸ .connectFails _
  | failed f =>
    rw [step_of_failed] at hm
    cases hm
  | @joined l s k hk hl hs hr =>
    cases m with
    | delayEnds | connects | connectFails =>
      rcases hs with rfl | ⟨rfl, -⟩ <;> simp only [Parties.step, reduceCtorEq, ↓reduceIte] at hm
    | accepts =>
      cases l <;> simp only [Parties.step, reduceCtorEq, Option.some.injEq] at hm
      exact hm ▸ .accepts s k
    | crosses v =>
      simp only [Parties.step, Option.ite_none_right_eq_some, Option.map_eq_some_iff] at hm
      obtain ⟨hat, n, hn, rfl⟩ := hm
      cases hv : v.isListeners with
      | true =>
        obtain rfl : l = .serving := by simpa [atLoop, hv] using hat
        exact .listenerMoves s hv hn
      | false =>
        obtain rfl : s = .reading := by simpa [atLoop, hv] using hat
        exact .connectorMoves l hv hn
    | servingEnds =>
      cases l <;> simp only [Parties.step, reduceCtorEq, Option.ite_none_right_eq_some,
        Option.some.injEq] at hm
      exact hm.2 ▸ .servingEnds s hm.1
    | readingEnds =>
      rcases hs with rfl | ⟨rfl, -⟩ <;> simp only [Parties.step, reduceCtorEq,
        Option.ite_none_right_eq_some, Option.some.injEq] at hm
      exact hm.2 ▸ .readingEnds l hm.1
    | returns =>
      simp only [Parties.step, Option.ite_none_right_eq_some, Option.some.injEq] at hm
      obtain ⟨⟨rfl, rfl⟩, rfl⟩ := hm
      exact .returns k

/-- **One step.** -/
theorem Phase.step (h : Phase c address p) {m : PartyMove} (hm : p.step m = some q) :
    Phase c address q := by
  cases h.steps hm with
  | delayEnds => exact .apart (.inr rfl)
  | connects => exact .joined (Link.sound_start _ _) (by simp) (.inl rfl) nofun
  | connectFails f => exact .failed f
  | accepts s k =>
    cases h with
    | joined hk hl hs hr => exact .joined hk (by simp) hs nofun
  | listenerMoves s hv hn =>
    cases h with
    | joined hk hl hs hr =>
      rw [← Link.connectorClosed_of_step hv hn] at hs
      exact .joined (Link.sound_step hk hn) (by simp) hs nofun
  | connectorMoves l hv hn =>
    cases h with
    | joined hk hl hs hr =>
      rw [← Link.listenerClosed_of_step hv hn] at hl
      exact .joined (Link.sound_step hk hn) hl (.inl rfl) hr
  | servingEnds s hclosed =>
    cases h with
    | joined hk hl hs hr => exact .joined hk (fun _ => hclosed) hs nofun
  | readingEnds l hclosed =>
    cases h with
    | joined hk hl hs hr => exact .joined hk hl (.inr ⟨rfl, hclosed⟩) fun _ => rfl
  | returns k =>
    cases h with
    | joined hk hl hs hr => exact .joined hk (fun _ => hl (.inl rfl)) hs fun _ => rfl

theorem phase_of_reaches (h : Reaches (start c address) p) : Phase c address p := by
  induction h with
  | refl => exact .apart (.inl rfl)
  | tail m _ hm ih => exact ih.step hm

/-- The moves of a list, one after the other. -/
theorem Reaches.moves {r : Parties} (h : Reaches p q) {ms : List PartyMove}
    (hms : ms.foldlM Parties.step q = some r) : Reaches p r := by
  induction ms generalizing q with
  | nil =>
    cases hms
    exact h
  | cons m ms ih =>
    rw [List.foldlM_cons, Option.bind_eq_bind, Option.bind_eq_some_iff] at hms
    obtain ⟨n, hn, hrest⟩ := hms
    exact ih (h.tail m hn) hrest

/-! ## Progress -/

theorem step_crosses {k m : Link} {v : Move} (hlink : p.link = some (.ok k))
    (hat : p.atLoop v = true) (h : k.step v = some m) :
    p.step (.crosses v) = some { p with link := some (.ok m) } := by
  simp only [step, hlink, hat, ↓reduceIte, h, Option.map_some]

/-- With a stream some party can step until the run has returned. -/
theorem canStep_of_joined {l : ListenerSide} {s : ConnectorSide} {k : Link}
    (hl : l = .collecting → k.listenerClosed = true)
    (hs : s = .reading ∨ s = .ended ∧ k.connectorClosed = true) (hr : l ≠ .returned) :
    CanStep ⟨c, address, l, s, some (.ok k)⟩ := by
  cases l with
  | accepting => exact ⟨.accepts, _, rfl⟩
  | serving =>
    cases hclosed : k.listenerClosed with
    | true => exact ⟨.servingEnds, _, if_pos hclosed⟩
    | false =>
      obtain ⟨v, m, hv, hm⟩ := Link.exists_listener_step hclosed
      exact ⟨.crosses v, _, step_crosses rfl (by simp [atLoop, hv]) hm⟩
  | collecting =>
    rcases hs with rfl | ⟨rfl, -⟩
    · cases hclosed : k.connectorClosed with
      | true => exact ⟨.readingEnds, _, if_pos hclosed⟩
      | false =>
        obtain ⟨v, m, hv, hm⟩ := Link.exists_connector_step (hl rfl) hclosed
        exact ⟨.crosses v, _, step_crosses rfl (by simp [atLoop, hv]) hm⟩
    · exact ⟨.returns, _, rfl⟩
  | returned => exact absurd rfl hr

/-- A bound on the steps that are left. -/
def movesLeft (p : Parties) : Nat :=
  p.listener.left + p.connector.left +
    match p.link with
    | none => (Link.start p.config.cycles p.config.cycles).movesLeft
    | some (.ok k) => k.movesLeft
    | some (.error _) => 0

theorem Phase.movesLeft_step (h : Phase c address p) {m : PartyMove} (hm : p.step m = some q) :
    q.movesLeft < p.movesLeft := by
  cases h.steps hm with
  | delayEnds | connects | accepts | servingEnds | readingEnds | returns =>
    simp [movesLeft, ListenerSide.left, ConnectorSide.left]
  | connectFails f =>
    simp only [movesLeft, ConnectorSide.left]
    omega
  | listenerMoves s hv hn =>
    cases h with
    | joined hk hl hs hr =>
      have hless := Link.movesLeft_step hk hn
      simp only [movesLeft]
      omega
  | connectorMoves l hv hn =>
    cases h with
    | joined hk hl hs hr =>
      have hless := Link.movesLeft_step hk hn
      simp only [movesLeft]
      omega

/-! ## The end of a run -/

/-- The report of a run whose sides have met. -/
def fullReport (c : Config) (address : Endpoint) (k : Link) : Report where
  address := address
  role := .both
  composition := c.composition
  listener := some k.listener.report
  connector := some k.connector.report
  peerExitCode := if c.composition = .fork then some 0 else none

/-- A run that returns has the reports of both sides. -/
theorem result_of_joined (s : ConnectorSide) (k : Link) :
    result? ⟨c, address, .returned, s, some (.ok k)⟩ = some (.ok (fullReport c address k)) := by
  set p : Parties := ⟨c, address, .returned, s, some (.ok k)⟩ with hp
  have hserve : (p.world.serve address).result = .ok k.listener.report :=
    Listener.result_trace ..
  have hconnect : (p.world.connect address).result = .ok k.connector.report :=
    Connector.result_trace ..
  rw [result?, if_pos (show p.listener = .returned from rfl)]
  cases hway : p.config.composition with
  | threads =>
    rw [World.runThreads_of_ok rfl hserve hconnect]
    simp [fullReport, blankReport, hp, show c.composition = .threads from hway]
  | fork =>
    have hexits : Leaves (p.world.connect address) {} (Child.ofRun (p.world.connect address) {}) :=
      .exits
    obtain ⟨r, hr, hrun⟩ := @World.runFork_of_zero p.world address p.blankReport 2 {} _ rfl rfl rfl
      hexits rfl (arrived_single _) _ hserve (ending_ofRun_of_unlimited hconnect rfl rfl)
    rw [hrun]
    cases hconnect.symm.trans hr
    simp [fullReport, blankReport, hp, show c.composition = .fork from hway]

theorem Phase.stuck_iff (h : Phase c address p) :
    p.result? = none ∧ ¬ p.CanStep ↔ ∃ f, p.link = some (.error f) := by
  cases h with
  | apart hs =>
    refine ⟨fun ⟨_, hstuck⟩ => absurd ?_ hstuck, nofun⟩
    rcases hs with rfl | rfl
    · exact ⟨.delayEnds, _, rfl⟩
    · exact ⟨.connects, _, rfl⟩
  | failed f =>
    refine ⟨fun _ => ⟨f, rfl⟩, fun _ => ⟨rfl, ?_⟩⟩
    rintro ⟨m, q, hm⟩
    rw [step_of_failed] at hm
    cases hm
  | @joined l s k hk hl hs hr =>
    refine ⟨?_, nofun⟩
    rintro ⟨hnone, hstuck⟩
    by_cases hreturned : l = .returned
    · subst hreturned
      rw [result_of_joined] at hnone
      cases hnone
    · exact absurd (canStep_of_joined (fun hc => hl (.inl hc)) hs hreturned) hstuck

theorem Phase.sides_of_failed (h : Phase c address p) {f : IoFault}
    (hf : p.link = some (.error f)) : p.listener = .accepting ∧ p.connector = .ended := by
  cases h with
  | apart hs => cases hf
  | failed => exact ⟨rfl, rfl⟩
  | joined hk hl hs hr => cases hf

theorem Phase.eq_fullReport (h : Phase c address p) {r : Except Failure Report}
    (hresult : p.result? = some r) :
    ∃ k, p.link = some (.ok k) ∧ k.isOver = true ∧ r = .ok (fullReport c address k) := by
  cases h with
  | apart hs => cases hresult
  | failed => cases hresult
  | @joined l s k hk hl hs hr =>
    obtain rfl : l = .returned := by
      by_contra hne
      simp [result?, hne] at hresult
    obtain rfl := hr rfl
    rw [result_of_joined] at hresult
    have hclosed : k.connectorClosed = true := by simpa using hs
    exact ⟨k, rfl, by simp [Link.isOver, hl, hclosed], by simpa using hresult.symm⟩

/-- The states that no party can leave before the run has returned are those in
which connecting has failed, and then the run never returns. A run that returns
has the reports of both sides. No run goes on for ever, so one that connects
comes to such a report. -/
theorem stuck_iff_connect_failed (h : Reaches (start c address) p) :
    (p.result? = none ∧ ¬ p.CanStep ↔ ∃ f, p.link = some (.error f)) ∧
      (∀ f, p.link = some (.error f) → p.listener = .accepting ∧ p.connector = .ended) ∧
      (∀ r, p.result? = some r →
        ∃ k, p.link = some (.ok k) ∧ k.isOver = true ∧ r = .ok (fullReport c address k)) ∧
      ∀ m q, p.step m = some q → q.movesLeft < p.movesLeft := by
  have hphase := phase_of_reaches h
  exact ⟨hphase.stuck_iff, fun _ => hphase.sides_of_failed, fun _ => hphase.eq_fullReport,
    fun _ _ => hphase.movesLeft_step⟩

/-- One message between two threads, up to the report of the run. -/
theorem one_message_reported :
    ∃ p k, Reaches (start { cycles := 1, composition := .threads } (.v4 .localhost 49152)) p ∧
      p.link = some (.ok k) ∧ k.isOver = true ∧ k.connector.bytes = 100 ∧
      p.result? = some (.ok
        (fullReport { cycles := 1, composition := .threads } (.v4 .localhost 49152) k)) := by
  let run : Option Parties := [PartyMove.delayEnds, .connects, .accepts, .crosses .write,
    .crosses .closeListener, .servingEnds, .crosses (.read 100), .crosses .closeConnector,
    .readingEnds, .returns].foldlM step
      (start { cycles := 1, composition := .threads } (.v4 .localhost 49152))
  have hends : run.isSome = true := by decide +kernel
  have hlistener : run.map Parties.listener = some .returned := by decide +kernel
  have hbytes : ((run.bind Parties.link).bind Except.toOption).map (·.connector.bytes) =
      some 100 := by decide +kernel
  obtain ⟨p, hp⟩ := Option.isSome_iff_exists.1 hends
  have hrun := (Reaches.refl _).moves hp
  simp only [hp, Option.map_some, Option.some.injEq] at hlistener
  obtain ⟨r, hr⟩ : ∃ r, p.result? = some r := ⟨_, if_pos hlistener⟩
  obtain ⟨k, hk, hover, rfl⟩ := (stuck_iff_connect_failed hrun).2.2.1 r hr
  exact ⟨p, k, hrun, hk, hover, by simpa [hp, hk, Except.toOption] using hbytes, hr⟩

/-- Connecting can fail in every run, and then no party can step. -/
theorem exists_stuck (c : Config) (address : Endpoint) (f : IoFault) :
    ∃ p, Reaches (start c address) p ∧ p.link = some (.error f) ∧ p.connector = .ended ∧
      p.result? = none ∧ ∀ m, p.step m = none :=
  ⟨_, ((Reaches.refl _).tail .delayEnds rfl).tail (.connectFails f) rfl, rfl, rfl, rfl,
    step_of_failed f⟩

/-- A run at the address of a group of hosts, which can be bound but not connected to. -/
def groupRun (way : Composition) : Config where
  address := some ⟨224, 0, 0, 1⟩
  port := 0
  cycles := 1
  connectDelayTicks := 0
  composition := way

/-- The address that such a run binds. -/
def groupAddress : Endpoint := .v4 ⟨224, 0, 0, 1⟩ 49152

/-- With two threads and with two processes, an accepted configuration comes to
a state in which the connector's side has ended, the run has not returned and
no party can step. -/
theorem listener_waits_for_ever :
    ((groupRun .threads).validate = .ok () ∧
      ∃ p, Reaches (start (groupRun .threads) groupAddress) p ∧
        p.link = some (.error Loopback.unreachable) ∧ p.connector = .ended ∧
        p.result? = none ∧ ∀ m, p.step m = none) ∧
    (groupRun .fork).validate = .ok () ∧
      ∃ p, Reaches (start (groupRun .fork) groupAddress) p ∧
        p.link = some (.error Loopback.unreachable) ∧ p.connector = .ended ∧
        p.result? = none ∧ ∀ m, p.step m = none :=
  ⟨⟨by cbv, exists_stuck _ _ _⟩, by cbv, exists_stuck _ _ _⟩

end Parties

end Standstill.Socket
