import Mathlib
import Standstill.Proofs.Json.Records
import Standstill.Socket.Handover

/-!
# A report cut off on its way

What a reader makes of a connector's report depends on the bytes that arrive
and not on how they are split. A writer leaves the first bytes of the report
and its line end, as many as it has room for, and tells by its result which
part it got to. Of a report that was cut inside, the reader makes a fault and
never another report; nothing at all is no report; and the line end may be
missing.

Results:
* `firstLine_eq`: the first line is one of the bytes that arrive.
* `sendReport_cut`, `sendReport_unended`, `sendReport_whole`: a writer that
  gets into the report, to its line end, or past it.
* `receiveReport_cut`: what is read from a cut of the line.
* `handover_cut_anywhere`: both together, for every report and every writer.
-/
namespace Standstill.Socket

/-! ## The report -/

theorem EndReason.faithful (e : EndReason) : EndReason.codec.Faithful e :=
  Json.Choices.faithful_named (by decide)
    (by simp [EndReason.all, EndReason.name, Json.IsNameChar, IsVisible])
    (by cases e <;> decide)

theorem ConnectorReport.record_faithful (r : ConnectorReport) :
    ConnectorReport.record.Faithful r where
  named := by
    simp [Json.Fields.Named, ConnectorReport.record, Json.Fields.names, Json.IsNameChar, IsVisible]
  fields := ⟨Json.Codec.faithful_word32 r.reads, Json.Codec.faithful_word64 r.bytesReceived,
    r.endedBy.faithful, trivial⟩
  build := rfl

example : ConnectorReport.codec.line ⟨3, 300, .peerClosed⟩ =
    "\x7b\"reads\":3,\"bytes_received\":300,\"ended_by\":\"peer_closed\"\x7d" := by cbv

/-- The characters that carry a report. -/
def reportText (r : ConnectorReport) : List Char := ConnectorReport.codec.write r

/-- All that is written of a report: its line. -/
def sentLine (r : ConnectorReport) : List UInt8 := reportBytes r ++ [newline]

theorem reportText_visible {r : ConnectorReport} {c : Char} (h : c ∈ reportText r) :
    IsVisible c := r.record_faithful.codec.visible c h

theorem reportText_ascii {r : ConnectorReport} {c : Char} (h : c ∈ reportText r) :
    c.toNat < 0x80 := (reportText_visible h).2.trans (by decide)

theorem length_reportBytes (r : ConnectorReport) :
    (reportBytes r).length = (reportText r).length :=
  length_encodeText fun _ => reportText_ascii

theorem length_sentLine (r : ConnectorReport) :
    (sentLine r).length = (reportBytes r).length + 1 := by simp [sentLine]

theorem reportBytes_pos (r : ConnectorReport) : 0 < (reportBytes r).length := by
  rw [length_reportBytes]
  exact Nat.succ_pos _

theorem newline_notMem_reportBytes (r : ConnectorReport) : newline ∉ reportBytes r :=
  asciiByte_notMem (d := '\n') (fun _ => reportText_ascii) (by decide) fun h =>
    absurd (reportText_visible h) (by decide)

/-! ## Writing -/

namespace Sink

/-- Writing fails exactly where the room ends before the bytes do. -/
theorem result_writeAll {w : Sink} {c : Nat} (h : w.room = some c) (bytes : List UInt8) :
    (w.writeAll bytes).2 =
      if bytes.length ≤ c then .ok () else .error (w.fault.getD .writerFull) := by
  fun_induction writeAll w bytes generalizing c with
  | case1 w => simp
  | case2 w bytes hb hs =>
    have h0 : c = 0 := by simpa [h] using share_eq_zero hb hs
    have hl := List.length_pos_iff.2 hb
    rw [if_neg (by omega)]
  | case3 w bytes hb hs ih =>
    have hc := share_le_room h bytes
    have hl := w.share_le bytes
    rw [ih (c := c - w.share bytes) (by simp [took, h]), List.length_drop]
    by_cases hle : bytes.length ≤ c
    · rw [if_pos hle, if_pos (by omega)]
    · rw [if_neg hle, if_neg (by omega)]
      rfl

theorem result_writeAll_unlimited {w : Sink} (h : w.room = none) (bytes : List UInt8) :
    (w.writeAll bytes).2 = .ok () ∧ (w.writeAll bytes).1.room = none := by
  fun_induction writeAll w bytes with
  | case1 w => exact ⟨rfl, h⟩
  | case2 w bytes hb hs =>
    rw [share_eq_zero hb hs] at h
    cases h
  | case3 w bytes hb hs ih => exact ih (by simp [took, h])

theorem room_writeAll {w : Sink} {c : Nat} (h : w.room = some c) (bytes : List UInt8) :
    (w.writeAll bytes).1.room = some (c - bytes.length) := by
  fun_induction writeAll w bytes generalizing c with
  | case1 w => simp [h]
  | case2 w bytes hb hs =>
    have h0 : c = 0 := by simpa [h] using share_eq_zero hb hs
    simp [h, h0]
  | case3 w bytes hb hs ih =>
    have hl := w.share_le bytes
    rw [ih (c := c - w.share bytes) (by simp [took, h]), List.length_drop]
    congr 1
    omega

/-- Writing changes neither what fails nor the count of flushes. -/
theorem frame_writeAll (w : Sink) (bytes : List UInt8) :
    (w.writeAll bytes).1.fault = w.fault ∧ (w.writeAll bytes).1.flushFault = w.flushFault ∧
      (w.writeAll bytes).1.flushes = w.flushes := by
  fun_induction writeAll w bytes with
  | case1 w => exact ⟨rfl, rfl, rfl⟩
  | case2 w bytes hb hs => exact ⟨rfl, rfl, rfl⟩
  | case3 w bytes hb hs ih => exact ih

end Sink

section Send

variable {w : Sink} {c : Nat} (r : ConnectorReport)

/-- A writer whose room ends inside the report. -/
theorem sendReport_cut (h : w.room = some c) (hc : c < (reportBytes r).length) :
    (sendReport w r).2 = .error (.record (.io (w.fault.getD .writerFull))) ∧
      (sendReport w r).1.taken = w.taken ++ (sentLine r).take c ∧
      (sendReport w r).1.flushes = w.flushes := by
  have hres := Sink.result_writeAll h (reportBytes r)
  have htaken := w.taken_writeAll (reportBytes r)
  have hframe := w.frame_writeAll (reportBytes r)
  rw [if_neg (by omega)] at hres
  rw [h, Option.getD_some] at htaken
  have hs : sendReport w r = ((w.writeAll (reportBytes r)).1,
      .error (.record (.io (w.fault.getD .writerFull)))) := by
    rcases hw : w.writeAll (reportBytes r) with ⟨w', res⟩
    obtain rfl : res = _ := by simpa only [hw] using hres
    simp only [sendReport, hw]
  rw [hs]
  refine ⟨rfl, ?_, hframe.2.2⟩
  rw [htaken, sentLine, List.take_append_of_le_length hc.le]

/-- Past the report, the room that is left decides on the line end. -/
theorem sendReport_of_report (h : w.room = some c) (hc : (reportBytes r).length ≤ c) :
    sendReport w r =
      match (w.writeAll (reportBytes r)).1.writeAll [newline] with
      | (w, .error f) => (w, .error (.io f))
      | (w, .ok ()) => (w.flush.1, w.flush.2.mapError Failure.io) := by
  have hres := Sink.result_writeAll h (reportBytes r)
  rw [if_pos hc] at hres
  rcases hw : w.writeAll (reportBytes r) with ⟨w', res⟩
  obtain rfl : res = .ok () := by simpa only [hw] using hres
  rcases hv : w'.writeAll [newline] with ⟨u, _ | _⟩ <;> simp only [sendReport, hw, hv]

/-- A writer that has room for the report and not for its line end. -/
theorem sendReport_unended (h : w.room = some c) (hc : c = (reportBytes r).length) :
    (sendReport w r).2 = .error (.io (w.fault.getD .writerFull)) ∧
      (sendReport w r).1.taken = w.taken ++ (sentLine r).take c ∧
      (sendReport w r).1.flushes = w.flushes := by
  have hroom := Sink.room_writeAll h (reportBytes r)
  have htaken := w.taken_writeAll (reportBytes r)
  obtain ⟨hf, -, hn⟩ := w.frame_writeAll (reportBytes r)
  rw [sendReport_of_report r h hc.ge]
  generalize (w.writeAll (reportBytes r)).1 = v at *
  have hres := Sink.result_writeAll hroom [newline]
  have htaken' := v.taken_writeAll [newline]
  have hn' := (v.frame_writeAll [newline]).2.2
  rw [if_neg (by simp; omega), hf] at hres
  rcases hv : v.writeAll [newline] with ⟨u, res⟩
  simp only [hv] at hres htaken' hn'
  subst hres
  refine ⟨rfl, ?_, hn'.trans hn⟩
  simp only [htaken', hroom, htaken, h, hc, Option.getD_some, Nat.sub_self, List.take_zero,
    List.append_nil, sentLine]
  rw [List.take_of_length_le le_rfl, List.take_append_of_le_length le_rfl,
    List.take_of_length_le le_rfl]

/-- A writer that has room for the whole line flushes once. -/
theorem sendReport_whole (h : w.room = some c) (hc : (reportBytes r).length < c) :
    (sendReport w r).2 = (match w.flushFault with
        | some f => .error (.io f)
        | none => .ok ()) ∧
      (sendReport w r).1.taken = w.taken ++ (sentLine r).take c ∧
      (sendReport w r).1.flushes = w.flushes + 1 := by
  have hroom := Sink.room_writeAll h (reportBytes r)
  have htaken := w.taken_writeAll (reportBytes r)
  obtain ⟨-, hfl, hn⟩ := w.frame_writeAll (reportBytes r)
  rw [sendReport_of_report r h hc.le]
  generalize (w.writeAll (reportBytes r)).1 = v at *
  have hres := Sink.result_writeAll hroom [newline]
  have htaken' := v.taken_writeAll [newline]
  obtain ⟨-, hfl', hn'⟩ := v.frame_writeAll [newline]
  rw [if_pos (by simp; omega)] at hres
  rcases hv : v.writeAll [newline] with ⟨u, res⟩
  simp only [hv] at hres htaken' hn' hfl'
  subst hres
  refine ⟨?_, ?_, by simp [Sink.flush, hn', hn]⟩
  · simp only [Sink.flush, hfl', hfl]
    cases w.flushFault <;> rfl
  · simp only [Sink.flush, htaken', hroom, htaken, h, Option.getD_some, sentLine]
    rw [List.take_of_length_le hc.le, List.take_of_length_le (by simp; omega),
      List.take_of_length_le (by simp; omega), List.append_assoc]

/-- A writer without a limit takes the whole line, if flushing does not fail. -/
theorem sendReport_unlimited (h : w.room = none) (hf : w.flushFault = none) :
    (sendReport w r).2 = .ok () := by
  obtain ⟨hres, hroom⟩ := Sink.result_writeAll_unlimited h (reportBytes r)
  have hfl := (w.frame_writeAll (reportBytes r)).2.1
  rcases hw : w.writeAll (reportBytes r) with ⟨v, res⟩
  simp only [hw] at hres hroom hfl
  obtain ⟨hres', -⟩ := Sink.result_writeAll_unlimited hroom [newline]
  have hfl' := (v.frame_writeAll [newline]).2.1
  rcases hv : v.writeAll [newline] with ⟨u, res'⟩
  simp only [hv] at hres' hfl'
  subst hres hres'
  simp only [sendReport, hw, hv, Sink.flush, hfl', hfl, hf]
  rfl

end Send

/-! ## Reading -/

/-- The bytes that arrive before the end of the data or a read that fails, and
what that read fails with. Reads that were broken off bring nothing. -/
def arrived : List Read → List UInt8 × Option IoFault
  | [] => ([], none)
  | .fault f :: reads => if f.isInterrupted then arrived reads else ([], some f)
  | .data [] :: _ => ([], none)
  | .data (b :: bytes) :: reads => (b :: bytes ++ (arrived reads).1, (arrived reads).2)

theorem arrived_data {bytes : List UInt8} (h : bytes ≠ []) (reads : List Read) :
    arrived (.data bytes :: reads) = (bytes ++ (arrived reads).1, (arrived reads).2) := by
  cases bytes with
  | nil => exact absurd rfl h
  | cons b bytes => rfl

theorem arrived_single (bytes : List UInt8) : arrived [.data bytes] = (bytes, none) := by
  cases bytes <;> simp [arrived]

theorem takeWhile_append_of_mem {bytes : List UInt8} (h : newline ∈ bytes) (rest : List UInt8) :
    (bytes ++ rest).takeWhile (· != newline) = bytes.takeWhile (· != newline) := by
  induction bytes with
  | nil => cases h
  | cons b bytes ih =>
    by_cases hb : b = newline
    · simp [hb]
    · have hne : (b != newline) = true := by simpa using hb
      simp only [List.cons_append, List.takeWhile_cons, hne, ↓reduceIte]
      rw [ih ((List.mem_cons.1 h).resolve_left (Ne.symm hb))]

theorem takeWhile_newline {front : List UInt8} (h : newline ∉ front) (rest : List UInt8) :
    (front ++ newline :: rest).takeWhile (· != newline) = front := by
  have hpos : ∀ b ∈ front, (b != newline) = true :=
    fun b hb => bne_iff_ne.2 (ne_of_mem_of_not_mem hb h)
  simp [List.takeWhile_append_of_pos hpos]

/-- The first line does not depend on how the bytes are split. -/
theorem firstLine_eq (reads : List Read) :
    firstLine reads =
      if newline ∈ (arrived reads).1 then
        .ok ((arrived reads).1.takeWhile (· != newline) ++ [newline])
      else match (arrived reads).2 with
        | none => .ok (arrived reads).1
        | some f => .error f := by
  fun_induction arrived reads with
  | case1 => simp [firstLine]
  | case2 f reads hf ih => simpa [firstLine, hf] using ih
  | case3 f reads hf => simp [firstLine, hf]
  | case4 reads => simp [firstLine]
  | case5 b bytes reads ih =>
    rw [firstLine, if_neg (by simp)]
    by_cases hb : newline ∈ b :: bytes
    · rw [if_pos hb, if_pos (List.mem_append_left _ hb), takeWhile_append_of_mem hb]
    · have htake : (b :: bytes ++ (arrived reads).1).takeWhile (· != newline) =
          b :: bytes ++ (arrived reads).1.takeWhile (· != newline) :=
        List.takeWhile_append_of_pos fun x hx => bne_iff_ne.2 (ne_of_mem_of_not_mem hx hb)
      have hmem : newline ∈ b :: bytes ++ (arrived reads).1 ↔ newline ∈ (arrived reads).1 := by
        simp only [List.mem_append, hb, false_or]
      rw [if_neg hb, ih, htake]
      by_cases hr : newline ∈ (arrived reads).1
      · rw [if_pos hr, if_pos (hmem.2 hr)]
        simp [Except.map]
      · rw [if_neg hr, if_neg (mt hmem.1 hr)]
        cases (arrived reads).2 <;> rfl

/-! ## Reading a report -/

theorem receiveReport_of_line {reads : List Read} {line : List UInt8}
    (h : firstLine reads = .ok line) (hne : line ≠ []) :
    receiveReport reads = (decodeReport line).map some := by
  cases line with
  | nil => exact absurd rfl hne
  | cons b bytes => simp only [receiveReport, h]

/-- A text is taken for JSON without the white space at its end. -/
theorem decodeReport_of_text (kept blanks : List Char) (hblanks : ∀ c ∈ blanks, isBlank c = true)
    (hkept : ∀ c ∈ kept.getLast?, isBlank c = false) :
    decodeReport (encodeText (String.ofList (kept ++ blanks))) =
      (ConnectorReport.codec.parse (String.ofList kept)).mapError fun e => .record (.json e) := by
  simp only [decodeReport, decodeText_encodeText, String.toList_ofList,
    dropBlankEnd_of_split kept blanks hblanks hkept]
  cases ConnectorReport.codec.parse (String.ofList kept) <;> rfl

/-- A line of visible characters is taken for JSON as it is, -/
theorem decodeReport_visible {s : List Char} (h : ∀ ch ∈ s, IsVisible ch) :
    decodeReport (encodeText (String.ofList s)) =
      (ConnectorReport.codec.parse (String.ofList s)).mapError fun e => .record (.json e) := by
  simpa using decodeReport_of_text s [] (by simp) (isBlank_getLast_of_visible h)

/-- and with its end dropped if it has one. -/
theorem decodeReport_ended {s : List Char} (h : ∀ ch ∈ s, IsVisible ch) :
    decodeReport (encodeText (String.ofList (s ++ ['\n']))) =
      (ConnectorReport.codec.parse (String.ofList s)).mapError fun e => .record (.json e) :=
  decodeReport_of_text s ['\n'] (by simp [isBlank]) (isBlank_getLast_of_visible h)

section Receive

variable {r : ConnectorReport} {c : Nat} {reads : List Read}

/-- If nothing arrives there is no report. -/
theorem receiveReport_nothing (h : arrived reads = ([], none)) :
    receiveReport reads = .ok none := by
  have hl : firstLine reads = .ok [] := by simp [firstLine_eq, h]
  simp only [receiveReport, hl]

/-- A report that arrives in part is a fault. -/
theorem receiveReport_within (h : arrived reads = ((sentLine r).take c, none)) (h0 : 0 < c)
    (hc : c < (reportBytes r).length) : ∃ e, receiveReport reads = .error (.record (.json e)) := by
  have hvis : ∀ ch ∈ (reportText r).take c, IsVisible ch :=
    fun ch hch => reportText_visible (List.mem_of_mem_take hch)
  have hpart : (sentLine r).take c = encodeText (String.ofList ((reportText r).take c)) := by
    rw [sentLine, List.take_append_of_le_length hc.le, ← take_encodeText fun _ => reportText_ascii]
    rfl
  have hend : newline ∉ (sentLine r).take c := by
    rw [sentLine, List.take_append_of_le_length hc.le]
    exact fun hmem => newline_notMem_reportBytes r (List.mem_of_mem_take hmem)
  have hne : (sentLine r).take c ≠ [] := by
    rw [← List.length_pos_iff, List.length_take, length_sentLine]
    omega
  have hl : firstLine reads = .ok ((sentLine r).take c) := by
    simp only [firstLine_eq, h, hend, ↓reduceIte]
  rw [length_reportBytes] at hc
  obtain ⟨e, he⟩ := r.record_faithful.parse_of_cut (Json.isCut_take hc)
  have hp : ConnectorReport.codec.parse (String.ofList ((reportText r).take c)) = .error e := he
  refine ⟨e, ?_⟩
  rw [receiveReport_of_line hl hne, hpart, decodeReport_visible hvis, hp]
  rfl

/-- A report that arrives whole is received, with its line end or without. -/
theorem receiveReport_whole (h : arrived reads = ((sentLine r).take c, none))
    (hc : (reportBytes r).length ≤ c) : receiveReport reads = .ok (some r) := by
  have hp : ConnectorReport.codec.parse (String.ofList (reportText r)) = .ok r :=
    Json.Codec.parse_line r.record_faithful.codec
  have hvis : ∀ ch ∈ reportText r, IsVisible ch := fun _ => reportText_visible
  have hend := newline_notMem_reportBytes r
  have hpos := reportBytes_pos r
  rcases hc.lt_or_eq with hc | hc
  · -- the line end has come
    have hline : sentLine r = encodeText (String.ofList (reportText r ++ ['\n'])) := by
      rw [sentLine, encodeText_ofList, List.flatMap_append, ← encodeText_ofList]
      rfl
    have hall : (sentLine r).take c = sentLine r :=
      List.take_of_length_le (by rw [length_sentLine]; omega)
    have htake : (sentLine r).takeWhile (· != newline) = reportBytes r := takeWhile_newline hend []
    have hmem : newline ∈ sentLine r := by simp [sentLine]
    have hl : firstLine reads = .ok (sentLine r) := by
      simp only [firstLine_eq, h, hall, hmem, ↓reduceIte, htake]
      rfl
    have hne : sentLine r ≠ [] := List.ne_nil_of_mem hmem
    rw [receiveReport_of_line hl hne, hline, decodeReport_ended hvis, hp]
    rfl
  · have hall : (sentLine r).take c = reportBytes r := by
      rw [sentLine, ← hc, List.take_append_of_le_length le_rfl, List.take_length]
    have hl : firstLine reads = .ok (reportBytes r) := by
      simp only [firstLine_eq, h, hall, hend, ↓reduceIte]
    rw [receiveReport_of_line hl (List.length_pos_iff.1 hpos)]
    change (decodeReport (encodeText (String.ofList (reportText r)))).map some = _
    rw [decodeReport_visible hvis, hp]
    rfl

end Receive

/-- A report may be cut off after any byte `c`. What the writer leaves and the
result it has are those of the part it got to, and from what it leaves no other
report is received. -/
theorem handover_cut_anywhere (r : ConnectorReport) {w : Sink} {c : Nat} (hroom : w.room = some c)
    (hfresh : w.taken = []) :
    (sendReport w r).1.taken = (sentLine r).take (min c (sentLine r).length) ∧
      ((sendReport w r).2 = .ok () ↔ (sentLine r).length ≤ c ∧ w.flushFault = none) ∧
      ((∃ f, (sendReport w r).2 = .error (.record f)) ↔ c < (reportBytes r).length) ∧
      ((∃ f, (sendReport w r).2 = .error (.io f)) ↔
        c = (reportBytes r).length ∨ ((sentLine r).length ≤ c ∧ w.flushFault ≠ none)) ∧
      (sendReport w r).1.flushes = w.flushes + (if (sentLine r).length ≤ c then 1 else 0) ∧
      ∀ reads, arrived reads = ((sendReport w r).1.taken, none) →
        (c = 0 → receiveReport reads = .ok none) ∧
        (0 < c → c < (reportBytes r).length →
          ∃ e, receiveReport reads = .error (.record (.json e))) ∧
        ((reportBytes r).length ≤ c → receiveReport reads = .ok (some r)) ∧
        ∀ r', receiveReport reads = .ok (some r') → r' = r := by
  have hpos := reportBytes_pos r
  have htaken : (sendReport w r).1.taken = (sentLine r).take c := by
    rw [← List.nil_append ((sentLine r).take c), ← hfresh]
    rcases Nat.lt_trichotomy c (reportBytes r).length with hc | hc | hc
    · exact (sendReport_cut r hroom hc).2.1
    · exact (sendReport_unended r hroom hc).2.1
    · exact (sendReport_whole r hroom hc).2.1
  have hsent : ((sendReport w r).2 = .ok () ↔ (sentLine r).length ≤ c ∧ w.flushFault = none) ∧
      ((∃ f, (sendReport w r).2 = .error (.record f)) ↔ c < (reportBytes r).length) ∧
      ((∃ f, (sendReport w r).2 = .error (.io f)) ↔
        c = (reportBytes r).length ∨ ((sentLine r).length ≤ c ∧ w.flushFault ≠ none)) ∧
      (sendReport w r).1.flushes = w.flushes + (if (sentLine r).length ≤ c then 1 else 0) := by
    rw [length_sentLine]
    rcases Nat.lt_trichotomy c (reportBytes r).length with hc | hc | hc
    · obtain ⟨hres, -, hflushes⟩ := sendReport_cut r hroom hc
      have hshort : ¬(reportBytes r).length + 1 ≤ c := by omega
      simp [hres, hflushes, hc, hc.ne, hshort]
    · obtain ⟨hres, -, hflushes⟩ := sendReport_unended r hroom hc
      simp [hres, hflushes, hc]
    · obtain ⟨hres, -, hflushes⟩ := sendReport_whole r hroom hc
      have hlong : (reportBytes r).length + 1 ≤ c := hc
      rw [hres, hflushes]
      cases w.flushFault <;> simp [hlong, hc.le, hc.ne']
  obtain ⟨hok, hrecord, hio, hflushes⟩ := hsent
  refine ⟨by rw [htaken, List.take_eq_take_min], hok, hrecord, hio, hflushes, ?_⟩
  · intro reads hreads
    rw [htaken] at hreads
    have hnone : c = 0 → receiveReport reads = .ok none := by
      rintro rfl
      exact receiveReport_nothing (by simpa using hreads)
    have hpart := receiveReport_within (c := c) hreads
    have hwhole := receiveReport_whole (c := c) hreads
    refine ⟨hnone, hpart, hwhole, ?_⟩
    intro r' hr'
    rcases Nat.eq_zero_or_pos c with h0 | h0
    · rw [hnone h0] at hr'
      cases hr'
    · rcases Nat.lt_or_ge c (reportBytes r).length with hc | hc
      · obtain ⟨e, he⟩ := hpart h0 hc
        rw [he] at hr'
        cases hr'
      · rw [hwhole hc] at hr'
        cases hr'
        rfl

/-- A pipe that breaks after twenty bytes, taken five at a time and read in two parts. -/
theorem report_cut_after_twenty :
    let r : ConnectorReport := ⟨3, 300, .peerClosed⟩
    let w : Sink := { room := some 20, portion := fun _ => 4, fault := some (.errno ⟨32⟩) }
    let wire := (sentLine r).take 20
    (sendReport w r).1.taken = wire ∧ (∃ f, (sendReport w r).2 = .error (.record f)) ∧
      ∃ e, receiveReport [.data (wire.take 7), .fault (.kind .interrupted), .data (wire.drop 7)] =
        .error (.record (.json e)) := by
  intro r w wire
  obtain ⟨htaken, -, hrecord, -, -, hreads⟩ := handover_cut_anywhere r (w := w) (c := 20) rfl rfl
  have hlen : 20 < (reportBytes r).length := by cbv
  have hwire : (sendReport w r).1.taken = wire := by
    rw [htaken, length_sentLine, Nat.min_eq_left (by omega)]
  have hlen' : wire.length = 20 := by
    rw [List.length_take, length_sentLine]
    omega
  refine ⟨hwire, hrecord.2 hlen, (hreads _ ?_).2.1 (by decide) hlen⟩
  have h1 : wire.take 7 ≠ [] := List.length_pos_iff.1 (by rw [List.length_take]; omega)
  have h2 : wire.drop 7 ≠ [] := List.length_pos_iff.1 (by rw [List.length_drop]; omega)
  rw [hwire, arrived_data h1]
  simp [arrived, IoFault.isInterrupted, arrived_data h2]

end Standstill.Socket
