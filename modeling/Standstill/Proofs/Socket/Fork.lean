import Mathlib
import Standstill.Proofs.Socket.Handover
import Standstill.Socket.Loopback

/-!
# What a forked run reports

A forked run has three things to go by: the listener's own result, how the
child ended, and the bytes that came through the pipe. The child exits with
code zero only if its connector came to a report and the whole report went
into the pipe, so with that code the report that comes out is the one the
child computed. Any other ending decides the failure without the bytes.

Results:
* `Leaves.sent`: what a child that exits with code zero has sent.
* `settleFork_received`, `settleFork_killed`, `settleFork_listener`,
  `settleFork_exitCode`: the end of a forked run, case by case.
* `runFork_of_zero`, `of_runFork_ok`: when there is a report, and which.
* `fork_reports_child`: the whole run, for every behaviour of the child.
-/
namespace Standstill.Socket

/-! ## The child -/

/-- A writer that takes all bytes has taken exactly them. -/
theorem Sink.taken_of_ok {w : Sink} {bytes : List UInt8} (h : (w.writeAll bytes).2 = .ok ()) :
    (w.writeAll bytes).1.taken = w.taken ++ bytes := by
  have htaken := w.taken_writeAll bytes
  cases hr : w.room with
  | none => rw [htaken, hr, Option.getD_none, List.take_length]
  | some c =>
    rw [result_writeAll hr] at h
    by_cases hc : bytes.length ≤ c
    · rw [htaken, hr, Option.getD_some, List.take_of_length_le hc]
    · rw [if_neg hc] at h
      cases h

/-- A report that was sent is on the wire, with its line end. -/
theorem taken_of_sendReport {w : Sink} {r : ConnectorReport} (h : (sendReport w r).2 = .ok ()) :
    (sendReport w r).1.taken = w.taken ++ sentLine r := by
  unfold sendReport at h ⊢
  rcases hw : w.writeAll (reportBytes r) with ⟨v, _ | _⟩
  · simp [hw] at h
  rcases hv : v.writeAll [newline] with ⟨u, _ | _⟩
  · simp [hw, hv] at h
  have h1 : v.taken = w.taken ++ reportBytes r := by
    simpa only [hw] using Sink.taken_of_ok (congrArg Prod.snd hw)
  have h2 : u.taken = v.taken ++ [newline] := by
    simpa only [hv] using Sink.taken_of_ok (congrArg Prod.snd hv)
  simp only [hv, Sink.flush, h2, h1, sentLine, List.append_assoc]

/-- What a forked child may leave behind whose connector comes to `connector`
and whose pipe is `pipe`: it runs to its exit, or a signal ends it after a part
of what it would have written. -/
inductive Leaves (connector : Traced Failure ConnectorReport) (pipe : Sink) : Child → Prop
  | exits : Leaves connector pipe (Child.ofRun connector pipe)
  | killed (signal : String) (dumped : Bool) {wire : List UInt8} {events : List Event}
      (hwire : wire <+: (Child.ofRun connector pipe).wire)
      (hevents : events <+: (Child.ofRun connector pipe).events) :
      Leaves connector pipe ⟨.killed signal dumped, wire, events⟩

/-- A child that exits with code zero has sent the report that its connector came to. -/
theorem Leaves.sent {connector : Traced Failure ConnectorReport} {pipe : Sink} {child : Child}
    (h : Leaves connector pipe child) (hpipe : pipe.taken = []) (h0 : child.ending = .exited 0) :
    ∃ r, connector.result = .ok r ∧ child.wire = sentLine r := by
  cases h with
  | exits =>
    obtain ⟨r, hr, hsent⟩ := (ending_ofRun_eq_zero_iff connector pipe).1 h0
    refine ⟨r, hr, ?_⟩
    have htaken := taken_of_sendReport hsent
    rw [hpipe, List.nil_append] at htaken
    rcases hs : sendReport pipe r with ⟨w, res⟩
    simp only [hs] at hsent htaken
    subst hsent
    simp only [Child.ofRun, hr, hs, htaken]
  | killed signal dumped hwire hevents => cases h0

/-- A child whose connector comes to a report and whose pipe takes all of it. -/
theorem ending_ofRun_of_unlimited {connector : Traced Failure ConnectorReport} {pipe : Sink}
    {r : ConnectorReport} (hr : connector.result = .ok r) (h : pipe.room = none)
    (hf : pipe.flushFault = none) : (Child.ofRun connector pipe).ending = .exited 0 :=
  (ending_ofRun_eq_zero_iff connector pipe).2 ⟨r, hr, sendReport_unlimited r h hf⟩

/-! ## The run -/

namespace World

variable {w : World} {address : Endpoint} {report : Report} {process : Nat}

section Settle

variable {listener : Except Failure ListenerReport}
  {received : Except Failure (Option ConnectorReport)}

theorem settleFork_killed (signal : String) (dumped : Bool) :
    (settleFork process report (.killed signal dumped) listener received).result =
      .error (.peer .connector (.killed process signal dumped)) := rfl

theorem settleFork_listener {f : Failure} (h : listener = .error f) (code : Int32) :
    (settleFork process report (.exited code) listener received).result = .error f := by
  subst h
  rfl

theorem settleFork_exitCode {l : ListenerReport} (h : listener = .ok l) {code : Int32}
    (hc : code ≠ 0) :
    (settleFork process report (.exited code) listener received).result =
      .error (.peer .connector (.exitCode code)) := by
  subst h
  simp only [settleFork, hc, ne_eq, not_false_eq_true, ↓reduceIte]
  rfl

theorem settleFork_received {l : ListenerReport} {r : ConnectorReport} (h : listener = .ok l)
    (hr : received = .ok (some r)) :
    (settleFork process report (.exited 0) listener received).result =
      .ok { report with listener := some l, connector := some r, peerExitCode := some 0 } := by
  subst h hr
  rfl

end Settle

/-- With a pipe, a child and its end, a forked run comes to what is settled of them. -/
theorem result_runFork {ending : ChildEnd} (hpipe : w.pipe = none) (hfork : w.fork = .ok process)
    (hwait : w.wait = .ok ending) :
    (w.runFork address report).result =
      (settleFork process report ending (w.serve address).result (receiveReport w.reads)).result := by
  unfold runFork
  rw [hpipe, hfork, hwait]
  rfl

section Forked

variable {pipe : Sink} {child : Child} (hpipe : w.pipe = none) (hfork : w.fork = .ok process)
  (hwait : w.wait = .ok child.ending) (hchild : Leaves (w.connect address) pipe child)
  (hfresh : pipe.taken = []) (hreads : arrived w.reads = (child.wire, none))

include hchild hfresh hreads in
/-- What comes from a child that exits with code zero is its own report. -/
theorem receiveReport_of_zero (h0 : child.ending = .exited 0) :
    ∃ r, (w.connect address).result = .ok r ∧ receiveReport w.reads = .ok (some r) := by
  obtain ⟨r, hr, hwire⟩ := hchild.sent hfresh h0
  refine ⟨r, hr, receiveReport_whole (c := (sentLine r).length) ?_ (by simp [sentLine])⟩
  rw [hreads, hwire, List.take_length]

include hpipe hfork hwait hchild hfresh hreads in
theorem runFork_of_zero {l : ListenerReport} (hl : (w.serve address).result = .ok l)
    (h0 : child.ending = .exited 0) :
    ∃ r, (w.connect address).result = .ok r ∧ (w.runFork address report).result =
      .ok { report with
        listener := some l, connector := some r, peerExitCode := some 0 } := by
  obtain ⟨r, hr, hreceived⟩ := receiveReport_of_zero hchild hfresh hreads h0
  refine ⟨r, hr, ?_⟩
  rw [result_runFork hpipe hfork hwait, h0, settleFork_received hl hreceived]

include hpipe hfork hwait in
/-- Only a listener with a report and a child that exits with code zero make a report. -/
theorem of_runFork_ok {whole : Report} (h : (w.runFork address report).result = .ok whole) :
    (∃ l, (w.serve address).result = .ok l) ∧ child.ending = .exited 0 := by
  rw [result_runFork hpipe hfork hwait] at h
  cases he : child.ending with
  | killed signal dumped =>
    rw [he, settleFork_killed] at h
    cases h
  | exited code =>
    rw [he] at h
    cases hl : (w.serve address).result with
    | error f =>
      rw [settleFork_listener hl] at h
      cases h
    | ok l =>
      refine ⟨⟨l, rfl⟩, ?_⟩
      by_cases hc : code = 0
      · rw [hc]
      · rw [settleFork_exitCode hl hc] at h
        cases h

include hpipe hfork hwait hchild hfresh hreads in
/-- A forked run whose child connects to the listener's address and hands its
report over through a pipe of its own. The run has a report exactly if the
listener has one and the child exits with code zero, and then it is the one the
child computed. Otherwise the first of these decides, whatever bytes came: a
signal, the listener's failure, the exit code. -/
theorem fork_reports_child :
    ((∃ whole, (w.runFork address report).result = .ok whole) ↔
        (∃ l, (w.serve address).result = .ok l) ∧ child.ending = .exited 0) ∧
      (∀ whole, (w.runFork address report).result = .ok whole →
        ∃ l r, (w.serve address).result = .ok l ∧ (w.connect address).result = .ok r ∧
          whole = { report with
            listener := some l, connector := some r, peerExitCode := some 0 }) ∧
      (child.ending = .exited 0 →
        ∃ r, (w.connect address).result = .ok r ∧ receiveReport w.reads = .ok (some r)) ∧
      ∀ reads, let failed := ({ w with reads }.runFork address report).result
        (∀ signal dumped, child.ending = .killed signal dumped →
          failed = .error (.peer .connector (.killed process signal dumped))) ∧
        (∀ code f, child.ending = .exited code → (w.serve address).result = .error f →
          failed = .error f) ∧
        ∀ code l, child.ending = .exited code → code ≠ 0 → (w.serve address).result = .ok l →
          failed = .error (.peer .connector (.exitCode code)) := by
  refine ⟨⟨fun ⟨whole, h⟩ => of_runFork_ok hpipe hfork hwait h, ?_⟩, ?_,
    receiveReport_of_zero hchild hfresh hreads, ?_⟩
  · rintro ⟨⟨l, hl⟩, h0⟩
    obtain ⟨r, -, h⟩ := runFork_of_zero hpipe hfork hwait hchild hfresh hreads hl h0
    exact ⟨_, h⟩
  · intro whole h
    obtain ⟨⟨l, hl⟩, h0⟩ := of_runFork_ok hpipe hfork hwait h
    obtain ⟨r, hr, h'⟩ := runFork_of_zero hpipe hfork hwait hchild hfresh hreads hl h0
    rw [h] at h'
    cases h'
    exact ⟨l, r, hl, hr, rfl⟩
  · intro reads
    have hfailed : ({ w with reads }.runFork address report).result =
        (settleFork process report child.ending (w.serve address).result
          (receiveReport reads)).result := result_runFork hpipe hfork hwait
    refine ⟨?_, ?_, ?_⟩
    · intro signal dumped he
      rw [hfailed, he, settleFork_killed]
    · intro code f he hl
      rw [hfailed, he, settleFork_listener hl]
    · intro code l he hc hl
      rw [hfailed, he, settleFork_exitCode hl hc]

end Forked

/-- Three messages to a child on the same host, and its report of them. -/
theorem three_messages_forked :
    let host : Loopback := { link := .ok (Link.play (.errno ⟨32⟩) 3 3) }
    let address : Endpoint := .v4 .localhost 49152
    let report : Report := { address, role := .both, composition := .fork }
    (host.child address).ending = .exited 0 ∧
      ((host.world address).runFork address report).result = .ok { report with
        listener := some ⟨3, .cycleLimit⟩
        connector := some ⟨3, 300, .cycleLimit⟩
        peerExitCode := some 0 } := by
  intro host address report
  have h0 : (host.child address).ending = .exited 0 := by cbv
  have hserve : (host.serve address).result = .ok ⟨3, .cycleLimit⟩ := by cbv
  have hconnect : (host.connect address).result = .ok ⟨3, 300, .cycleLimit⟩ := by cbv
  have hexits : Leaves ((host.world address).connect address) {} (host.child address) := .exits
  obtain ⟨hiff, hwhole, -, -⟩ := @fork_reports_child (host.world address) address report 2 {}
    (host.child address) rfl rfl rfl hexits rfl (arrived_single _)
  obtain ⟨whole, h⟩ := hiff.2 ⟨⟨_, hserve⟩, h0⟩
  obtain ⟨l, r, hl, hr, rfl⟩ := hwhole whole h
  cases hserve.symm.trans hl
  cases hconnect.symm.trans hr
  exact ⟨h0, h⟩

end World

end Standstill.Socket
