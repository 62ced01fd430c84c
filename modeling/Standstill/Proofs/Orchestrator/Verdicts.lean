import Mathlib
import Standstill.Orchestrator.Verdict
import Standstill.Proofs.Contention.Outcome
import Standstill.Proofs.Json.Lines
import Standstill.Proofs.Socket.Fork
import Standstill.Proofs.Socket.Setup

/-!
# Verdicts on correct runs

A fixture prints its report as a line, and the orchestrator reads it back from
what was printed. All runs of a fixture pass if each exits with code zero and
has a report of the full work. The reports of a joined contention run are such
reports, in any order of steps, and so are those of a forked socket run whose
stream and pipe deliver what was written.

Results:
* `readPrinted_ofLine`: a printed record is read back.
* `socketVerdict_eq_pass_iff`, `contentionVerdict_eq_pass_iff`: when all runs pass.
* `completes_of_mayReport`, `exchanges_of_run`: the reports of correct runs.
* `correct_runs_pass`: no correct run is failed or skipped.
-/
namespace Standstill.Orchestrator

/-! ## What is printed -/

/-- What is left of a run that prints a line and exits with code zero. -/
def Output.ofLine (line : String) : Output :=
  ⟨some 0, String.ofList (decodeMarked (encodeText (line ++ "\n")))⟩

theorem readPrinted_ofLine {α : Type} {codec : Json.Codec α} {a : α} (h : codec.Faithful a) :
    readPrinted codec (.ofLine (codec.line a)) = .ok a := by
  have hvisible : ∀ c ∈ codec.write a, IsVisible c := h.visible
  have hascii : ∀ c ∈ codec.write a ++ ['\n'], c.toNat < 0x80 := by
    intro c hc
    rcases List.mem_append.1 hc with hc | hc
    · exact (hvisible c hc).2.trans (by decide)
    · rw [List.mem_singleton.1 hc]
      decide
  have hline : codec.line a ++ "\n" = String.ofList (codec.write a ++ ['\n']) := by
    simp [Json.Codec.line, String.ofList_append]
  have htext : (Output.ofLine (codec.line a)).text.toList = codec.write a ++ ['\n'] := by
    rw [Output.ofLine, hline, decodeMarked_encodeText hascii, String.toList_ofList]
  rw [readPrinted, htext, dropBlankEnds_line hvisible (by decide)]
  exact Json.Codec.parse_line h

/-! ## When runs pass -/

theorem codesStable_iff {outputs : List Output} :
    codesStable outputs = true ↔
      ∀ o ∈ outputs, o.exitCode = outputs.head?.bind Output.exitCode := by
  fun_induction codesStable outputs with
  | case1 a b rest ih =>
    simp only [Bool.and_eq_true, beq_iff_eq, ih, List.head?_cons, Option.bind_some,
      List.forall_mem_cons, true_and]
    constructor
    · rintro ⟨hab, h⟩
      exact ⟨hab.symm, hab ▸ h⟩
    · rintro ⟨hba, h⟩
      exact ⟨hba.symm, hba ▸ h⟩
  | case2 outputs hshort =>
    cases outputs with
    | nil => simp
    | cons a rest =>
      cases rest with
      | nil => simp
      | cons b rest => exact absurd rfl (hshort a b rest)

/-- All runs have one exit code. -/
theorem codesStable_of_forall {outputs : List Output} {code : Option Int32}
    (h : ∀ o ∈ outputs, o.exitCode = code) : codesStable outputs = true := by
  refine codesStable_iff.2 fun o ho => ?_
  cases outputs with
  | nil => cases ho
  | cons a rest => rw [h o ho, List.head?_cons, Option.bind_some, h a (by simp)]

/-- Data went across, and the forked connector exited with code zero. -/
structure Exchanges (r : Socket.Report) : Prop where
  received : ∃ k, r.connector = some k ∧ 0 < k.bytesReceived
  peer : r.peerExitCode = some 0

theorem exchanges_iff {r : Socket.Report} :
    Exchanges r ↔ r.connector.isSome = true ∧ r.exchangedData = true ∧ r.peerExitCode = some 0 := by
  constructor
  · rintro ⟨⟨k, hk, hpos⟩, hpeer⟩
    simp [Socket.Report.exchangedData, hk, hpos, hpeer]
  · rintro ⟨hsome, hdata, hpeer⟩
    obtain ⟨k, hk⟩ := Option.isSome_iff_exists.1 hsome
    refine ⟨⟨k, hk, ?_⟩, hpeer⟩
    simpa [Socket.Report.exchangedData, hk] using hdata

theorem socketRunFault_eq_none_iff {o : Output} :
    socketRunFault o = none ↔
      ∃ r, readPrinted Socket.Report.codec o = .ok r ∧ Exchanges r := by
  unfold socketRunFault
  cases hr : readPrinted Socket.Report.codec o with
  | error e => simp
  | ok r =>
    simp only [Except.ok.injEq, exists_eq_left', exchanges_iff]
    split
    · next hnone => simp [Option.isNone_iff_eq_none.1 hnone]
    next hconnector =>
    have hsome : r.connector.isSome = true := by simpa [Option.isSome_iff_ne_none] using hconnector
    split
    · next hdata => simp [hdata]
    next hdata =>
    split
    · next hpeer => simp [hpeer]
    · next hpeer => simp [hsome, not_not.1 hpeer, Bool.eq_true_of_not_eq_false hdata]

/-- All workers have done all cycles, and no lock had two holders at once. -/
@[mk_iff]
structure Completes (cycles : UInt32) (r : Contention.Report) : Prop where
  total : r.totalAcquisitions = expectedAcquisitions cycles r
  exclusion : r.mutualExclusionHeld = true
  cycles : ∀ w ∈ r.workers, w.cycles = cycles

theorem contentionRunFault_eq_none_iff {cycles : UInt32} {o : Output} :
    contentionRunFault cycles o = none ↔ o.exitCode = some 0 ∧
      ∃ r, readPrinted Contention.Report.codec o = .ok r ∧ Completes cycles r := by
  unfold contentionRunFault
  cases hr : readPrinted Contention.Report.codec o with
  | error e => by_cases hcode : o.exitCode = some 0 <;> simp [hcode]
  | ok r =>
    simp only [Except.ok.injEq, exists_eq_left', completes_iff]
    split
    · next hcode => simp [hcode]
    next hcode =>
    split
    · next htotal => simp [htotal]
    next htotal =>
    split
    · next hshared => simp [hshared]
    · next hshared =>
      simp [not_not.1 hcode, not_not.1 htotal, Bool.eq_true_of_not_eq_false hshared]

theorem socketVerdict_eq_pass_iff {outputs : List Output} {n : Nat} :
    socketVerdict outputs = .pass n ↔ outputs ≠ [] ∧ n = outputs.length ∧
      ∀ o ∈ outputs, o.exitCode = some 0 ∧
        ∃ r, readPrinted Socket.Report.codec o = .ok r ∧ Exchanges r := by
  simp only [← socketRunFault_eq_none_iff]
  unfold socketVerdict
  constructor
  · intro h
    split at h
    · cases h
    next hstable =>
    simp only at h
    split at h
    · next hcode =>
      split at h
      · cases h
      next hfaults =>
      have hcodes := codesStable_iff.1 (Bool.eq_true_of_not_eq_false hstable)
      rw [hcode] at hcodes
      refine ⟨?_, (Verdict.pass.inj h).symm, fun o ho => ⟨hcodes o ho, ?_⟩⟩
      · rintro rfl
        cases hcode
      · exact List.findSome?_eq_none_iff.1 hfaults o ho
    · split at h <;> cases h
  · rintro ⟨hsome, rfl, h⟩
    obtain ⟨a, rest, rfl⟩ := List.exists_cons_of_ne_nil hsome
    have hstable := codesStable_of_forall fun o ho => (h o ho).1
    have hcode := (h a (by simp)).1
    have hfaults := List.findSome?_eq_none_iff.2 fun o ho => (h o ho).2
    simp only [hstable, List.head?_cons, Option.bind_some, hcode, hfaults]
    rfl

theorem contentionVerdict_eq_pass_iff {cycles : UInt32} {outputs : List Output} {n : Nat} :
    contentionVerdict cycles outputs = .pass n ↔ n = outputs.length ∧
      ∀ o ∈ outputs, o.exitCode = some 0 ∧
        ∃ r, readPrinted Contention.Report.codec o = .ok r ∧ Completes cycles r := by
  simp only [← contentionRunFault_eq_none_iff, ← List.findSome?_eq_none_iff]
  unfold contentionVerdict
  constructor
  · intro h
    split at h
    · cases h
    split at h
    · cases h
    next hfaults => exact ⟨(Verdict.pass.inj h).symm, hfaults⟩
  · rintro ⟨rfl, hfaults⟩
    have hcodes := fun o ho =>
      (contentionRunFault_eq_none_iff.1 (List.findSome?_eq_none_iff.1 hfaults o ho)).1
    rw [codesStable_of_forall hcodes, hfaults]
    rfl

/-! ## The reports of correct runs -/

/-- What is expected is in a word what the workers have to do together. -/
theorem expectedAcquisitions_eq (cycles : UInt32) (r : Contention.Report) :
    expectedAcquisitions cycles r = UInt64.ofNat (r.workers.length * cycles.toNat) := by
  rw [expectedAcquisitions, UInt64.ofNat_mul, UInt64.ofNat_uInt32ToNat]

theorem toNat_expectedAcquisitions {cycles : UInt32} {r : Contention.Report}
    (h : r.workers.length * cycles.toNat < UInt64.size) :
    (expectedAcquisitions cycles r).toNat = r.workers.length * cycles.toNat := by
  rw [expectedAcquisitions_eq, UInt64.toNat_ofNat_of_lt' h]

/-- The workers and locks of a joined run, in any order of steps. -/
theorem completes_of_mayReport {c : Contention.Config} {r : Contention.Report}
    (hlocks : c.locks ≠ 0) (hjoin : c.completion = .join)
    (hfew : c.workers.toNat * c.cycles.toNat < UInt64.size)
    (h : Contention.MayReport c.begin .join r) : Completes c.cycles r := by
  rw [c.eq_fullReport_of_mayReport hlocks hjoin h]
  constructor
  · have hlength : c.fullReport.workers.length = c.workers.toNat := by
      simp [Contention.Config.fullReport]
    rw [← UInt64.toNat_inj, toNat_expectedAcquisitions (by rwa [hlength]),
      Contention.Config.totalAcquisitions_fullReport hlocks hfew, hlength]
  · exact c.mutualExclusionHeld_fullReport
  · intro w hw
    obtain ⟨i, -, rfl⟩ := List.mem_map.1 hw
    rfl

/-- A system on which what is written arrives: the two loops of a run are the sides of one
stream that keeps order, and what the child writes to its pipe is read from it. -/
structure Delivers (w : Socket.World) (cycles : UInt32) (address : Endpoint) : Prop where
  stream : ∃ k, (Socket.Link.start cycles cycles).Reaches k ∧ k.isOver = true ∧
    (w.serve address).result = .ok k.listener.report ∧
    (w.connect address).result = .ok k.connector.report
  pipe : ∃ pipe child, Socket.Leaves (w.connect address) pipe child ∧ pipe.taken = [] ∧
    w.wait = .ok child.ending ∧ Socket.arrived w.reads = (child.wire, none)

/-- With a cycle to run, a connector that has returned has received some bytes. -/
theorem bytesReceived_pos {cycles : UInt32} {k : Socket.Link} (hcycles : cycles ≠ 0)
    (h : (Socket.Link.start cycles cycles).Reaches k) (hover : k.isOver = true) :
    0 < k.connector.report.bytesReceived := by
  have hsound := Socket.Link.sound_of_reaches (Socket.Link.sound_start cycles cycles) h
  have hended := hsound.connectorLeft ((Bool.and_eq_true _ _).mp hover).2
  have hpos : 0 < cycles.toNat := Nat.pos_of_ne_zero fun h0 => hcycles (UInt32.toNat_inj.1 h0)
  exact UInt64.lt_iff_toNat_lt.2 ((hsound.bytes_pos_iff hended).2 ⟨hpos, hpos⟩)

/-- A forked run that comes to a report. -/
theorem exchanges_of_run {c : Socket.Config} {w : Socket.World} {r : Socket.Report}
    (hrole : c.role = .both) (hcomp : c.composition = .fork)
    (hr : (Socket.run c w).result = .ok r) (h : Delivers w c.cycles r.address) : Exchanges r := by
  obtain ⟨hv, ip, -, hreports⟩ := Socket.of_run_ok hr
  cases hreports with
  | listener hrole' => cases hrole.symm.trans hrole'
  | connector hrole' => cases hrole.symm.trans hrole'
  | threads _ hcomp' => cases hcomp.symm.trans hcomp'
  | fork _ _ hbind hl hwait hreceived =>
    obtain ⟨⟨k, hk, hover, -, hconnect⟩, ⟨pipe, child, hchild, hfresh, hending, hreads⟩⟩ := h
    have h0 : child.ending = .exited 0 := Except.ok.inj (hending.symm.trans hwait)
    obtain ⟨r', hr', hsent⟩ := Socket.World.receiveReport_of_zero hchild hfresh hreads h0
    have hcycles := Socket.Config.cycles_ne_zero_of_validate hv
    cases hsent.symm.trans hreceived
    cases hconnect.symm.trans hr'
    exact ⟨⟨_, rfl, bytesReceived_pos hcycles hk hover⟩, rfl⟩

/-! ## No correct run fails -/

/-- **No false alarm.** A contention fixture that prints the report of a joined run, whatever the
order of its steps and the host were, passes. So does a socket fixture that prints the report of a
forked run whose stream and pipe deliver what was written. -/
theorem correct_runs_pass :
    (∀ (cycles : UInt32) (outputs : List Output),
      (∀ o ∈ outputs, ∃ (c : Contention.Config) (r : Contention.Report),
        o = .ofLine (Contention.Report.codec.line r) ∧ c.cycles = cycles ∧ c.locks ≠ 0 ∧
        c.completion = .join ∧ c.workers.toNat * cycles.toNat < UInt64.size ∧
        (Contention.MayReport c.begin .join r ∨
          ∃ host, (Contention.run c host).result = .ok r)) →
      contentionVerdict cycles outputs = .pass outputs.length) ∧
    ∀ outputs : List Output, outputs ≠ [] →
      (∀ o ∈ outputs, ∃ (c : Socket.Config) (w : Socket.World) (r : Socket.Report),
        o = .ofLine (Socket.Report.codec.line r) ∧ c.role = .both ∧ c.composition = .fork ∧
        (Socket.run c w).result = .ok r ∧ Delivers w c.cycles r.address) →
      socketVerdict outputs = .pass outputs.length := by
  refine ⟨fun cycles outputs h => ?_, fun outputs hsome h => ?_⟩
  · refine contentionVerdict_eq_pass_iff.2 ⟨rfl, fun o ho => ?_⟩
    obtain ⟨c, r, rfl, rfl, hlocks, hjoin, hfew, hreport⟩ := h o ho
    have hmay : Contention.MayReport c.begin .join r := by
      rcases hreport with hmay | ⟨host, hr⟩
      · exact hmay
      · exact hjoin ▸ Contention.Config.mayReport_of_run hr
    exact ⟨rfl, r, readPrinted_ofLine r.record_faithful.codec,
      completes_of_mayReport hlocks hjoin hfew hmay⟩
  · refine socketVerdict_eq_pass_iff.2 ⟨hsome, rfl, fun o ho => ?_⟩
    obtain ⟨c, w, r, rfl, hrole, hcomp, hr, hdelivers⟩ := h o ho
    exact ⟨rfl, r, readPrinted_ofLine r.record_faithful.codec,
      exchanges_of_run hrole hcomp hr hdelivers⟩

/-- Two joined runs with an idle lock, and a forked run of three messages. -/
theorem idle_lock_and_three_messages :
    let c : Contention.Config := { workers := 2, locks := 3, cycles := 4 }
    let d : Socket.Config := { address := some .localhost, cycles := 3 }
    let host := d.host (.ok []) (.errno ⟨32⟩)
    let r : Socket.Report := {
      address := .v4 .localhost defaultPort
      role := .both
      composition := .fork
      listener := some ⟨3, .cycleLimit⟩
      connector := some ⟨3, 300, .cycleLimit⟩
      peerExitCode := some 0 }
    contentionVerdict 4 [.ofLine (Contention.Report.codec.line c.fullReport),
      .ofLine (Contention.Report.codec.line c.fullReport)] = .pass 2 ∧
    (Socket.run d (host.worldOf d)).result = .ok r ∧
    socketVerdict [.ofLine (Socket.Report.codec.line r)] = .pass 1 := by
  intro c d host r
  obtain ⟨hjoined, hforked⟩ := correct_runs_pass
  have hjoin : (Contention.run c {}).result = .ok c.fullReport :=
    Contention.Config.run_eq_fullReport (by rfl) rfl ⟨by decide, by decide, fun _ _ => rfl⟩
  have hr : (Socket.run d (host.worldOf d)).result = .ok r := by
    rw [Socket.run_of_configured (by decide) rfl]
    decide +kernel
  refine ⟨hjoined 4 _ fun o ho => ?_, hr, hforked _ (by simp) fun o ho => ?_⟩
  · have ho' : o = .ofLine (Contention.Report.codec.line c.fullReport) := by simpa using ho
    exact ⟨c, _, ho', rfl, by decide, rfl, by decide, .inr ⟨{}, hjoin⟩⟩
  · refine ⟨d, _, r, List.mem_singleton.1 ho, rfl, rfl, hr, ?_, ?_⟩
    · refine ⟨_, Socket.Link.reaches_play (.errno ⟨32⟩) 3 3, ?_, ?_, ?_⟩
      · decide +kernel
      · decide +kernel
      · decide +kernel
    · exact ⟨{}, _, .exits, rfl, rfl, Socket.arrived_single _⟩

end Standstill.Orchestrator
