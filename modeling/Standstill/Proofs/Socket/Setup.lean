import Mathlib
import Standstill.Proofs.Socket.Stream
import Standstill.Socket.Loopback

/-!
# How a run is set up

A run goes through fixed stages: its configuration is checked, its address is
resolved, and only with an address anything is created. A stage that fails ends
the run there. A run that gets to its end fills in the report that its role and
its composition call for. None of this depends on what the system answers.

Results:
* `Interface.isUsable_iff`, `discover_of_first`: the record that is chosen.
* `reports_of_runAt`, `World.Reports.filled`: the reports that a run can come to.
* `World.Ordinary`: a system whose endpoints are the loops of the two sides.
* `set_up_in_order`: the stages of a run, its report and what it asked for.
-/
namespace Standstill

/-- Whether a socket, a pipe, a process or a thread is to be created. -/
def Event.creates : Event → Bool
  | .bindAsked _ | .connectAsked _ | .pipeAsked | .forkAsked | .threadAsked _ => true
  | _ => false

/-! ## The address -/

namespace Net

/-- A record with an address outside the loopback network, which is neither
flagged loopback nor named as such. -/
structure Interface.Offers (i : Interface) (ip : Ipv4) : Prop where
  address : i.address = some ip
  notFlagged : i.loopback = false
  notNamed : i.name ≠ "lo"
  outside : ip.a ≠ 127

theorem Interface.usable?_eq_some_iff {i : Interface} {ip : Ipv4} :
    i.usable? = some ip ↔ i.Offers ip := by
  unfold usable?
  constructor
  · intro h
    split at h
    · next a ha =>
      split at h
      · cases h
      · next hno =>
        obtain rfl := Option.some.inj h
        simp only [not_or, Ipv4.isLoopback, beq_iff_eq] at hno
        exact ⟨ha, by simpa using hno.1, hno.2.1, hno.2.2⟩
    · cases h
  · rintro ⟨ha, hflag, hname, hout⟩
    simp [ha, hflag, hname, Ipv4.isLoopback, hout]

theorem Interface.isUsable_iff {i : Interface} : i.isUsable = true ↔ ∃ ip, i.Offers ip := by
  simp only [isUsable, Option.isSome_iff_exists, usable?_eq_some_iff]

theorem Interface.isUsable_eq_false_iff {i : Interface} :
    i.isUsable = false ↔ ∀ ip, ¬i.Offers ip := by
  rw [← Bool.not_eq_true, isUsable_iff, not_exists]

theorem discover_of_none {records : List Interface} (h : ∀ i ∈ records, ∀ ip, ¬i.Offers ip) :
    discover (.ok records) =
      ⟨[.interfacesAsked, .scanned records.length], .error .noInterface⟩ := by
  have hnone : firstUsable records = none := by
    refine List.find?_eq_none.2 fun i hi => ?_
    simp [Interface.isUsable_eq_false_iff.2 (h i hi)]
  simp [discover, hnone, Traced.error]

theorem discover_of_first {before after : List Interface} {i : Interface} {ip : Ipv4}
    (hbefore : ∀ j ∈ before, ∀ ip, ¬j.Offers ip) (hi : i.Offers ip) :
    discover (.ok (before ++ i :: after)) =
      ⟨[.interfacesAsked, .scanned (before ++ i :: after).length, .usingInterface i.name ip],
        .ok ip⟩ := by
  have hfirst : firstUsable (before ++ i :: after) = some i :=
    firstUsable_eq_some_iff.2 ⟨Interface.isUsable_iff.2 ⟨ip, hi⟩, before, after, rfl,
      fun j hj => Interface.isUsable_eq_false_iff.2 (hbefore j hj)⟩
  have hip := Interface.usable?_eq_some_iff.2 hi
  simp only [discover, Traced.note_bind, Traced.ofExcept_ok_bind, hfirst, hip]
  rfl

/-- The table is asked for exactly without a configured address. -/
theorem interfacesAsked_mem_resolve {configured : Option Ipv4} {table : Table} :
    .interfacesAsked ∈ (resolve configured table).events ↔ configured = none := by
  cases configured with
  | some ip => simp [resolve]
  | none => simp [resolve, discover]

/-- No address is resolved by creating anything. -/
theorem creates_resolve (configured : Option Ipv4) (table : Table) :
    ∀ e ∈ (resolve configured table).events, e.creates = false := by
  cases configured with
  | some ip => simp [resolve, Event.creates]
  | none =>
    cases table with
    | error f => simp [resolve, discover, Event.creates]
    | ok records =>
      cases hfirst : firstUsable records with
      | none => simp [resolve, discover, hfirst, Event.creates]
      | some i => cases hip : i.usable? <;> simp [resolve, discover, hfirst, hip, Event.creates]

end Net

namespace Socket

theorem Config.cycles_ne_zero_of_validate {c : Config} (h : c.validate = .ok ()) :
    c.cycles ≠ 0 := (validate_eq_ok_iff.1 h).1

/-! ## The report -/

namespace World

/-- The reports that the endpoints of a run come to. -/
inductive Reports (w : World) (c : Config) (ip : Ipv4) : Report → Prop
  | listener {address : Endpoint} {l : ListenerReport} (hrole : c.role = .listener)
      (hbind : w.bind (.v4 ip c.port) = .ok address) (hl : (w.serve address).result = .ok l) :
      Reports w c ip {
        address := .v4 ip c.port
        role := c.role
        composition := c.composition
        listener := some l }
  | connector {r : ConnectorReport} (hrole : c.role = .connector)
      (hr : (w.connect (.v4 ip c.port)).result = .ok r) :
      Reports w c ip {
        address := .v4 ip c.port
        role := c.role
        composition := c.composition
        connector := some r }
  | threads {address : Endpoint} {l : ListenerReport} {r : ConnectorReport}
      (hrole : c.role = .both) (hcomp : c.composition = .threads)
      (hbind : w.bind (.v4 ip c.port) = .ok address) (hl : (w.serve address).result = .ok l)
      (hr : (w.connect address).result = .ok r) :
      Reports w c ip {
        address
        role := c.role
        composition := c.composition
        listener := some l
        connector := some r }
  | fork {address : Endpoint} {l : ListenerReport} {r : ConnectorReport}
      (hrole : c.role = .both) (hcomp : c.composition = .fork)
      (hbind : w.bind (.v4 ip c.port) = .ok address) (hl : (w.serve address).result = .ok l)
      (hwait : w.wait = .ok (.exited 0)) (hr : receiveReport w.reads = .ok (some r)) :
      Reports w c ip {
        address
        role := c.role
        composition := c.composition
        listener := some l
        connector := some r
        peerExitCode := some 0 }

variable {w : World} {c : Config} {ip : Ipv4} {address : Endpoint} {report whole : Report}

theorem bind_of_listen {bound : Endpoint} (h : (w.listen address).result = .ok bound) :
    w.bind address = .ok bound := by
  obtain ⟨-, -, h⟩ := Traced.of_result_bind h
  obtain ⟨a, ha, h⟩ := Traced.of_result_bind h
  obtain ⟨-, -, h⟩ := Traced.of_result_bind h
  cases h
  exact ha

/-- With two threads a report takes a result of both. -/
theorem parts_of_runThreads (h : (w.runThreads address report).result = .ok whole) :
    ∃ l r, (w.serve address).result = .ok l ∧ (w.connect address).result = .ok r ∧
      whole = { report with listener := some l, connector := some r } := by
  obtain ⟨-, -, h⟩ := Traced.of_result_bind h
  split at h
  · cases h
  · obtain ⟨l, hl, h⟩ := Traced.of_result_bind h
    obtain ⟨r, hr, h⟩ := Traced.of_result_bind h
    cases h
    exact ⟨l, r, hl, hr, rfl⟩

theorem parts_of_settleFork {process : Nat} {ending : ChildEnd}
    {listener : Except Failure ListenerReport} {received : Except Failure (Option ConnectorReport)}
    (h : (settleFork process report ending listener received).result = .ok whole) :
    ∃ l r, ending = .exited 0 ∧ listener = .ok l ∧ received = .ok (some r) ∧
      whole = { report with
        listener := some l, connector := some r, peerExitCode := some 0 } := by
  cases ending with
  | killed signal dumped => cases h
  | exited code =>
    obtain ⟨l, hl, h⟩ := Traced.of_result_bind h
    split at h
    · cases h
    · next hcode =>
      obtain rfl := not_not.1 hcode
      obtain ⟨r?, hr, h⟩ := Traced.of_result_bind h
      cases r? with
      | none => cases h
      | some r =>
        obtain ⟨-, -, h⟩ := Traced.of_result_bind h
        cases h
        exact ⟨l, r, rfl, hl, hr, rfl⟩

/-- With two processes a report takes a listener's result, a child that exits with code zero and
a report from its pipe; the child's code in the report is then zero. -/
theorem parts_of_runFork (h : (w.runFork address report).result = .ok whole) :
    ∃ l r, w.wait = .ok (.exited 0) ∧ (w.serve address).result = .ok l ∧
      receiveReport w.reads = .ok (some r) ∧
      whole = { report with
        listener := some l, connector := some r, peerExitCode := some 0 } := by
  obtain ⟨-, -, h⟩ := Traced.of_result_bind h
  split at h
  · cases h
  obtain ⟨-, -, h⟩ := Traced.of_result_bind h
  split at h
  · cases h
  obtain ⟨-, -, h⟩ := Traced.of_result_bind h
  obtain ⟨listener, hlistener, h⟩ := Traced.of_result_bind h
  split at h
  · cases h
  next ending hwait =>
    -- The listener's result was kept as a value, so it can still be a failure here.
    obtain ⟨l, r, hending, hl, hr, hwhole⟩ := parts_of_settleFork h
    obtain rfl : (w.serve address).result = listener := Except.ok.inj hlistener
    exact ⟨l, r, hending ▸ hwait, hl, hr, hwhole⟩

/-- All results of the endpoints at an address. -/
theorem reports_of_runAt (h : (w.runAt c ip).result = .ok report) : w.Reports c ip report := by
  unfold runAt at h
  cases hrole : c.role with
  | listener =>
    simp only [hrole] at h
    obtain ⟨a, ha, h⟩ := Traced.of_result_bind h
    obtain ⟨l, hl, h⟩ := Traced.of_result_bind h
    cases h
    rw [← hrole]
    exact .listener hrole (bind_of_listen ha) hl
  | connector =>
    simp only [hrole] at h
    obtain ⟨r, hr, h⟩ := Traced.of_result_bind h
    cases h
    rw [← hrole]
    exact .connector hrole hr
  | both =>
    simp only [hrole] at h
    obtain ⟨a, ha, h⟩ := Traced.of_result_bind h
    rw [← hrole] at h
    cases hcomp : c.composition with
    | threads =>
      simp only [hcomp] at h
      obtain ⟨l, r, hl, hr, rfl⟩ := parts_of_runThreads h
      rw [← hcomp]
      exact .threads hrole hcomp (bind_of_listen ha) hl hr
    | fork =>
      simp only [hcomp] at h
      obtain ⟨l, r, hwait, hl, hr, rfl⟩ := parts_of_runFork h
      rw [← hcomp]
      exact .fork hrole hcomp (bind_of_listen ha) hl hwait hr

/-- A report as the role and the composition of a run call for it. -/
structure Filled (w : World) (c : Config) (ip : Ipv4) (r : Report) : Prop where
  role : r.role = c.role
  composition : r.composition = c.composition
  /-- With both endpoints the address is the one that was bound. -/
  address : if c.role = .both then w.bind (.v4 ip c.port) = .ok r.address
    else r.address = .v4 ip c.port
  listener : r.listener.isSome = true ↔ c.role ≠ .connector
  connector : r.connector.isSome = true ↔ c.role ≠ .listener
  peerExitCode : r.peerExitCode = if c.role = .both ∧ c.composition = .fork then some 0 else none

theorem Reports.filled (h : w.Reports c ip report) : w.Filled c ip report := by
  cases h with
  | listener hrole hbind hl => constructor <;> simp [hrole]
  | connector hrole hr => constructor <;> simp [hrole]
  | threads hrole hcomp hbind hl hr => constructor <;> simp [hrole, hcomp, hbind]
  | fork hrole hcomp hbind hl hwait hr => constructor <;> simp [hrole, hcomp, hbind]

end World

/-! ## What is asked of the system -/

/-- The loop of a listener does not ask for the interfaces. -/
theorem Listener.Reached.interfacesAsked_notMem {cycles : UInt32} {l : Listener}
    (h : l.Reached cycles) : .interfacesAsked ∉ l.events := by
  induction h with
  | start => exact List.not_mem_nil
  | write o _ _ ih => cases o <;> simp [onWrite, ih]

theorem Connector.Reached.interfacesAsked_notMem {cycles : UInt32} {k : Connector}
    (h : k.Reached cycles) : .interfacesAsked ∉ k.events := by
  induction h with
  | start => exact List.not_mem_nil
  | read o _ _ _ ih =>
    cases o with
    | data n => simp [onRead, ih]
    | streamEnd => simp [onRead, ih]
    | fault f => cases hf : f.isInterrupted <;> simp [onRead, hf, ih]

namespace World

/-- A system whose endpoints are the two loops, whatever these meet with. -/
structure Ordinary (w : World) (c : Config) : Prop where
  serve : ∀ address, ∃ accepted, w.serve address = Listener.trace address accepted ∧
    ∀ peer l, accepted = .ok (peer, l) → l.Reached c.cycles
  connect : ∀ address, ∃ loop, w.connect address = Connector.trace c.connectDelay address loop ∧
    ∀ k, loop = .ok k → k.Reached c.cycles

theorem events_listen (w : World) (address : Endpoint) :
    .bindAsked address ∈ (w.listen address).events ∧
      .interfacesAsked ∉ (w.listen address).events := by
  cases hb : w.bind address <;> simp [listen, hb]

theorem settleFork_notMem {process : Nat} (report : Report) (ending : ChildEnd)
    (listener : Except Failure ListenerReport)
    (received : Except Failure (Option ConnectorReport)) :
    .interfacesAsked ∉ (settleFork process report ending listener received).events := by
  unfold settleFork
  split
  · simp
  · refine Traced.notMem_events_bind List.not_mem_nil fun l => ?_
    split
    · simp
    · refine Traced.notMem_events_bind List.not_mem_nil fun r => ?_
      split <;> simp

section Ordinary
variable {w : World} {c : Config} (h : w.Ordinary c) (address : Endpoint)
include h

theorem Ordinary.serve_notMem : .interfacesAsked ∉ (w.serve address).events := by
  obtain ⟨accepted, htrace, hreached⟩ := h.serve address
  rw [htrace]
  cases accepted with
  | error f => simp [Listener.trace]
  | ok a =>
    have hloop := (hreached a.1 a.2 rfl).interfacesAsked_notMem
    simpa [Listener.trace] using hloop

theorem Ordinary.connect_notMem : .interfacesAsked ∉ (w.connect address).events := by
  obtain ⟨loop, htrace, hreached⟩ := h.connect address
  rw [htrace]
  cases loop with
  | error f => cases hd : c.connectDelay.isZero <;> simp [Connector.trace, hd]
  | ok k =>
    have hloop := (hreached k rfl).interfacesAsked_notMem
    cases hd : c.connectDelay.isZero <;> simpa [Connector.trace, hd] using hloop

theorem Ordinary.connectAsked_mem : .connectAsked address ∈ (w.connect address).events := by
  obtain ⟨loop, htrace, -⟩ := h.connect address
  rw [htrace]
  cases loop <;> cases hd : c.connectDelay.isZero <;> simp [Connector.trace, hd]

theorem Ordinary.runThreads_notMem (report : Report) :
    .interfacesAsked ∉ (w.runThreads address report).events := by
  unfold runThreads
  refine Traced.notMem_events_bind (by simp [Traced.note]) fun _ => ?_
  split
  · simp
  · refine Traced.notMem_events_bind (h.serve_notMem address) fun l => ?_
    exact Traced.notMem_events_bind List.not_mem_nil fun r => List.not_mem_nil

theorem Ordinary.runFork_notMem (report : Report) :
    .interfacesAsked ∉ (w.runFork address report).events := by
  unfold runFork
  refine Traced.notMem_events_bind (by simp [Traced.note]) fun _ => ?_
  split
  · simp
  refine Traced.notMem_events_bind (by simp [Traced.note]) fun _ => ?_
  split
  · simp
  refine Traced.notMem_events_bind (by simp [Traced.note]) fun _ => ?_
  refine Traced.notMem_events_bind (h.serve_notMem address) fun l => ?_
  split
  · simp
  · exact settleFork_notMem report _ _ _

/-- Once there is an address, the interfaces are not asked for. -/
theorem Ordinary.runAt_notMem (ip : Ipv4) : .interfacesAsked ∉ (w.runAt c ip).events := by
  unfold runAt
  split
  · refine Traced.notMem_events_bind (events_listen w _).2 fun a => ?_
    exact Traced.notMem_events_bind (h.serve_notMem a) fun l => List.not_mem_nil
  · exact Traced.notMem_events_bind (h.connect_notMem _) fun r => List.not_mem_nil
  · refine Traced.notMem_events_bind (events_listen w _).2 fun a => ?_
    split
    · exact h.runThreads_notMem a _
    · exact h.runFork_notMem a _

/-- At an address a socket is always asked for. -/
theorem Ordinary.creates_runAt (ip : Ipv4) : ∃ e ∈ (w.runAt c ip).events, e.creates = true := by
  have hbound := (events_listen w (.v4 ip c.port)).1
  unfold runAt
  split
  · exact ⟨_, Traced.mem_events_bind_left hbound _, rfl⟩
  · exact ⟨_, Traced.mem_events_bind_left (h.connectAsked_mem _) _, rfl⟩
  · exact ⟨_, Traced.mem_events_bind_left hbound _, rfl⟩

end Ordinary

end World

/-! ## The whole run -/

theorem run_of_resolved {c : Config} {w : World} {ip : Ipv4} (hv : c.validate = .ok ())
    (h : (Net.resolve c.address w.table).result = .ok ip) :
    run c w = ⟨(Net.resolve c.address w.table).events ++ (w.runAt c ip).events,
      (w.runAt c ip).result⟩ := by
  simp only [run, hv]
  exact Traced.bind_of_ok _ h

/-- A configured address is used as it is. -/
theorem run_of_configured {c : Config} {w : World} {ip : Ipv4} (hv : c.validate = .ok ())
    (h : c.address = some ip) :
    run c w = ⟨.usingConfigured ip :: (w.runAt c ip).events, (w.runAt c ip).result⟩ := by
  have hrun := @run_of_resolved c w ip hv (by rw [h]; rfl)
  rwa [h] at hrun

theorem run_of_table {c : Config} {w : World} {f : Failure} (hv : c.validate = .ok ())
    (h : c.address = none) (hf : w.table = .error f) :
    run c w = ⟨[.interfacesAsked], .error f⟩ := by
  have hresolve : Net.resolve c.address w.table = ⟨[.interfacesAsked], .error f⟩ := by
    rw [h, hf]
    rfl
  rw [run_of_unresolved hv (congrArg Traced.result hresolve), hresolve]

theorem run_of_noneUsable {c : Config} {w : World} {records : List Net.Interface}
    (hv : c.validate = .ok ()) (h : c.address = none) (hrecords : w.table = .ok records)
    (hnone : ∀ i ∈ records, ∀ ip, ¬i.Offers ip) :
    run c w = ⟨[.interfacesAsked, .scanned records.length], .error .noInterface⟩ := by
  have hresolve := Net.discover_of_none hnone
  rw [← hrecords, show Net.discover w.table = Net.resolve c.address w.table by rw [h]; rfl]
    at hresolve
  rw [run_of_unresolved hv (congrArg Traced.result hresolve), hresolve]

/-- The first record that offers an address decides, whatever stands around it. -/
theorem run_of_firstUsable {c : Config} {w : World} {before after : List Net.Interface}
    {i : Net.Interface} {ip : Ipv4} (hv : c.validate = .ok ()) (h : c.address = none)
    (hrecords : w.table = .ok (before ++ i :: after))
    (hbefore : ∀ j ∈ before, ∀ ip, ¬j.Offers ip) (hi : i.Offers ip) :
    run c w = ⟨[.interfacesAsked, .scanned (before ++ i :: after).length,
      .usingInterface i.name ip] ++ (w.runAt c ip).events, (w.runAt c ip).result⟩ := by
  have hresolve := @Net.discover_of_first before after i ip hbefore hi
  rw [← hrecords, show Net.discover w.table = Net.resolve c.address w.table by rw [h]; rfl]
    at hresolve
  rw [run_of_resolved hv (congrArg Traced.result hresolve), hresolve]

/-- A run that comes to a report has passed all stages before. -/
theorem of_run_ok {c : Config} {w : World} {r : Report} (h : (run c w).result = .ok r) :
    c.validate = .ok () ∧
      ∃ ip, (Net.resolve c.address w.table).result = .ok ip ∧ w.Reports c ip r := by
  unfold run at h
  split at h
  · cases h
  · next hv =>
    obtain ⟨ip, hip, h⟩ := Traced.of_result_bind h
    exact ⟨hv, ip, hip, World.reports_of_runAt h⟩

/-- The events of a run: those of resolving its address, and after them those at the address. -/
theorem mem_events_run {c : Config} {w : World} {e : Event} :
    e ∈ (run c w).events ↔ c.validate = .ok () ∧
      (e ∈ (Net.resolve c.address w.table).events ∨
        ∃ ip, (Net.resolve c.address w.table).result = .ok ip ∧ e ∈ (w.runAt c ip).events) := by
  unfold run
  cases hv : c.validate with
  | error f => simp
  | ok u => simp [Traced.mem_events_bind]

/-- The interfaces are asked for once at most, and only without a configured address. -/
theorem World.Ordinary.interfacesAsked_mem_run {c : Config} {w : World} (h : w.Ordinary c) :
    .interfacesAsked ∈ (run c w).events ↔ c.validate = .ok () ∧ c.address = none := by
  rw [mem_events_run, Net.interfacesAsked_mem_resolve]
  constructor
  · rintro ⟨hv, hnone | ⟨ip, -, he⟩⟩
    · exact ⟨hv, hnone⟩
    · exact absurd he (h.runAt_notMem ip)
  · rintro ⟨hv, hnone⟩
    exact ⟨hv, .inl hnone⟩

/-- Something is created exactly if there is an address to create it at. -/
theorem World.Ordinary.creates_run {c : Config} {w : World} (h : w.Ordinary c) :
    (∃ e ∈ (run c w).events, e.creates = true) ↔
      c.validate = .ok () ∧ ∃ ip, (Net.resolve c.address w.table).result = .ok ip := by
  constructor
  · rintro ⟨e, he, hcreates⟩
    obtain ⟨hv, he | ⟨ip, hip, -⟩⟩ := mem_events_run.1 he
    · rw [Net.creates_resolve _ _ e he] at hcreates
      cases hcreates
    · exact ⟨hv, ip, hip⟩
  · rintro ⟨hv, ip, hip⟩
    obtain ⟨e, he, hcreates⟩ := h.creates_runAt ip
    exact ⟨e, mem_events_run.2 ⟨hv, .inr ⟨ip, hip, he⟩⟩, hcreates⟩

/-- **Setting up.** A refused configuration ends the run before anything is asked. A configured
address is used without a look at the interfaces; without one, the first record that offers an
address decides, and where there is none nothing is created. A report has what its role and its
composition call for. On an ordinary system the interfaces are asked for, and anything is created,
exactly when it comes to that. -/
theorem set_up_in_order (c : Config) (w : World) :
    (∀ f, c.validate = .error f → run c w = ⟨[], .error (.config f)⟩) ∧
    (c.validate = .ok () →
      (∀ ip, c.address = some ip →
        run c w = ⟨.usingConfigured ip :: (w.runAt c ip).events, (w.runAt c ip).result⟩ ∧
        ∀ table, run c { w with table } = run c w) ∧
      (c.address = none →
        (∀ f, w.table = .error f → run c w = ⟨[.interfacesAsked], .error f⟩) ∧
        ∀ records, w.table = .ok records →
          ((∀ i ∈ records, ∀ ip, ¬i.Offers ip) →
            run c w = ⟨[.interfacesAsked, .scanned records.length], .error .noInterface⟩) ∧
          ∀ before i after ip, records = before ++ i :: after →
            (∀ j ∈ before, ∀ ip, ¬j.Offers ip) → i.Offers ip →
            run c w = ⟨[.interfacesAsked, .scanned records.length, .usingInterface i.name ip] ++
              (w.runAt c ip).events, (w.runAt c ip).result⟩)) ∧
    (∀ r, (run c w).result = .ok r → c.validate = .ok () ∧
      ∃ ip, (Net.resolve c.address w.table).result = .ok ip ∧ w.Filled c ip r) ∧
    (w.Ordinary c →
      (.interfacesAsked ∈ (run c w).events ↔ c.validate = .ok () ∧ c.address = none) ∧
      ((∃ e ∈ (run c w).events, e.creates = true) ↔
        c.validate = .ok () ∧ ∃ ip, (Net.resolve c.address w.table).result = .ok ip)) := by
  refine ⟨fun f hf => run_of_invalid hf w, fun hv => ⟨?_, ?_⟩, ?_, ?_⟩
  · intro ip hip
    refine ⟨run_of_configured hv hip, fun table => ?_⟩
    rw [run_of_configured hv hip, run_of_configured hv hip]
    rfl
  · intro hnone
    refine ⟨fun f hf => run_of_table hv hnone hf, fun records hrecords => ⟨?_, ?_⟩⟩
    · exact run_of_noneUsable hv hnone hrecords
    · rintro before i after ip rfl hbefore hi
      exact run_of_firstUsable hv hnone hrecords hbefore hi
  · intro r hr
    obtain ⟨hv, ip, hip, hreports⟩ := of_run_ok hr
    exact ⟨hv, ip, hip, hreports.filled⟩
  · intro h
    exact ⟨h.interfacesAsked_mem_run, h.creates_run⟩

/-- The hosts on which runs are looked at have both loops for endpoints. -/
theorem Config.ordinary_host (c : Config) (table : Net.Table) (fault : IoFault) :
    ((c.host table fault).worldOf c).Ordinary c := by
  have hlink : ∀ k, (c.host table fault).link = .ok k →
      k.listener.Reached c.cycles ∧ k.connector.Reached c.cycles := by
    intro k hk
    have hk' : k = Link.play fault c.cycles c.cycles := by
      unfold host Loopback.linkAt at hk
      simp only at hk
      split at hk
      · cases hk
      split at hk
      · cases hk
      · next hrole =>
        split at hrole
        · rw [← Option.some.inj hrole] at hk
          exact (Except.ok.inj hk).symm
        · cases hrole
    have hsound := Link.sound_of_reaches (Link.sound_start c.cycles c.cycles)
      (Link.reaches_play fault c.cycles c.cycles)
    rw [hk']
    exact ⟨hsound.listener, hsound.connector⟩
  constructor
  · intro address
    refine ⟨_, rfl, fun peer l hl => ?_⟩
    split at hl
    · cases hl
    · next k hk =>
      cases hl
      exact (hlink k hk).1
  · intro address
    refine ⟨_, rfl, fun k hk => ?_⟩
    cases hl : (c.host table fault).link with
    | error f =>
      rw [hl] at hk
      cases hk
    | ok k' =>
      rw [hl] at hk
      cases hk
      exact (hlink k' hl).2

/-- Two records that offer no address, a usable one and one more after it. -/
theorem third_record_used :
    let c : Config := { port := 0, cycles := 2, connectDelayTicks := 0 }
    let ip : Ipv4 := ⟨192, 168, 1, 20⟩
    let before : List Net.Interface := [⟨"lo", true, some .localhost⟩, ⟨"eth0", false, none⟩]
    let after : List Net.Interface := [⟨"eth1", false, some ⟨10, 0, 0, 5⟩⟩]
    let w := (c.host (.ok (before ++ ⟨"eth0", false, some ip⟩ :: after)) (.errno ⟨32⟩)).worldOf c
    run c w = ⟨[.interfacesAsked, .scanned 4, .usingInterface "eth0" ip] ++
      (w.runAt c ip).events, (w.runAt c ip).result⟩ ∧
    ∃ e ∈ (run c w).events, e.creates = true := by
  intro c ip before after w
  obtain ⟨-, hvalid, -, hordinary⟩ := set_up_in_order c w
  have hv : c.validate = .ok () := by decide
  have hbefore : ∀ j ∈ before, j.isUsable = false := by decide
  have hoffers : Net.Interface.Offers ⟨"eth0", false, some ip⟩ ip := by
    constructor <;> decide
  refine ⟨(((hvalid hv).2 rfl).2 _ rfl).2 before _ after ip rfl ?_ hoffers, ?_⟩
  · exact fun j hj => Net.Interface.isUsable_eq_false_iff.1 (hbefore j hj)
  · exact (hordinary (c.ordinary_host _ _)).2.2 ⟨hv, ip, by decide⟩

end Socket

end Standstill
