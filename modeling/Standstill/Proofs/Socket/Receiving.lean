import Mathlib
import Standstill.Proofs.Socket.Handover

/-!
# A report by its first line

What a reader of a connector's report comes to is told from its whole input: the
reads that were not broken off, up to the first that brings nothing, and the bytes
of these one after the other. The first line of them decides, and what comes after
it, be it data, no text at all or a failure, is never looked at.

Results:
* `arrived_eq`: what arrives, read off from all reads.
* `decodeText_eq_some_iff`: which bytes are a text.
* `receiveReport_of_newline`, `receiveReport_of_fault`, `receiveReport_of_end`: the
  ways in which a first line comes or does not.
* `received_by_first_line`: all of it, for every sequence of reads.
-/
namespace Standstill

/-! ## Decoding -/

/-- Bytes are a text exactly if a text is written as them. -/
theorem decodeText_eq_some_iff {bytes : List UInt8} {s : String} :
    decodeText bytes = some s ↔ encodeText s = bytes := by
  constructor
  · intro h
    unfold decodeText String.fromUTF8? at h
    split at h
    · cases h
      rfl
    · cases h
  · rintro rfl
    exact decodeText_encodeText s

theorem decodeText_eq_none_iff {bytes : List UInt8} :
    decodeText bytes = none ↔ ∀ s, encodeText s ≠ bytes := by
  rw [Option.eq_none_iff_forall_ne_some]
  exact forall_congr' fun s => not_congr decodeText_eq_some_iff

namespace Socket

theorem decodeReport_of_no_text {line : List UInt8} (h : ∀ s, encodeText s ≠ line) :
    decodeReport line = .error (.io .notText) := by
  rw [decodeReport, decodeText_eq_none_iff.2 h]

/-! ## The whole input -/

namespace Read

/-- Whether a read is not just tried again. -/
def counts : Read → Bool
  | .data _ => true
  | .fault f => !f.isInterrupted

/-- The bytes that a read brings. -/
def bytes : Read → List UInt8
  | .data bytes => bytes
  | .fault _ => []

/-- Whether a read brings some byte. -/
def brings (r : Read) : Bool := !r.bytes.isEmpty

/-- What a read fails with. -/
def fault? : Read → Option IoFault
  | .data _ => none
  | .fault f => some f

end Read

/-- The bytes of all reads before the end of the data or a failure. -/
def stream (reads : List Read) : List UInt8 :=
  ((reads.filter Read.counts).takeWhile Read.brings).flatMap Read.bytes

/-- What the first read that brings nothing fails with, unless it is the end of the data. -/
def cutFault (reads : List Read) : Option IoFault :=
  ((reads.filter Read.counts).dropWhile Read.brings).head?.bind Read.fault?

theorem arrived_eq (reads : List Read) : arrived reads = (stream reads, cutFault reads) := by
  unfold stream cutFault
  fun_induction arrived reads with
  | case1 => rfl
  | case2 f reads hf ih => simpa [Read.counts, hf] using ih
  | case3 f reads hf => simp [Read.counts, hf, Read.brings, Read.bytes, Read.fault?]
  | case4 reads => simp [List.filter_cons, Read.counts, Read.brings, Read.bytes, Read.fault?]
  | case5 b bytes reads ih => simp [List.filter_cons, Read.counts, Read.brings, Read.bytes, ih]

theorem firstLine_of_newline {reads : List Read} {front rest : List UInt8}
    (hfront : newline ∉ front) (h : stream reads = front ++ newline :: rest) :
    firstLine reads = .ok (front ++ [newline]) := by
  rw [firstLine_eq, arrived_eq, h, if_pos (by simp), takeWhile_newline hfront]

theorem firstLine_of_fault {reads : List Read} {f : IoFault} (h : newline ∉ stream reads)
    (hf : cutFault reads = some f) : firstLine reads = .error f := by
  rw [firstLine_eq, arrived_eq, if_neg h]
  simp only [hf]

theorem firstLine_of_end {reads : List Read} (h : newline ∉ stream reads)
    (hend : cutFault reads = none) : firstLine reads = .ok (stream reads) := by
  rw [firstLine_eq, arrived_eq, if_neg h]
  simp only [hend]

/-! ## The first line -/

section Receive
variable {reads : List Read}

theorem receiveReport_of_newline {front rest : List UInt8} (hfront : newline ∉ front)
    (h : stream reads = front ++ newline :: rest) :
    receiveReport reads = (decodeReport (front ++ [newline])).map some :=
  receiveReport_of_line (firstLine_of_newline hfront h) (by simp)

theorem receiveReport_of_fault {f : IoFault} (h : newline ∉ stream reads)
    (hf : cutFault reads = some f) : receiveReport reads = .error (.io f) := by
  rw [receiveReport, firstLine_of_fault h hf]

theorem receiveReport_of_end (h : newline ∉ stream reads) (hend : cutFault reads = none) :
    receiveReport reads =
      if stream reads = [] then .ok none else (decodeReport (stream reads)).map some := by
  have hfirst := firstLine_of_end h hend
  split
  · next hnone => rw [receiveReport, hfirst, hnone]
  · next hsome => exact receiveReport_of_line hfirst hsome

end Receive

/-- **The first line decides.** For every sequence of reads, let the stream be the bytes of those
that were not broken off, up to the first that brings nothing. With a newline in it, the report is
decoded from all up to the first newline, whatever comes after it; without one, a failure is
reported as it is, no byte at all is no report, and anything else is decoded as it stands. Bytes
that are no text are refused, and a text is parsed without the white space at its end. So reads
with one first line, or with one stream and one ending, come to the same. -/
theorem received_by_first_line (reads : List Read) :
    (∀ front rest, newline ∉ front → stream reads = front ++ newline :: rest →
      receiveReport reads = (decodeReport (front ++ [newline])).map some ∧
      ∀ reads' rest', stream reads' = front ++ newline :: rest' →
        receiveReport reads' = receiveReport reads) ∧
    (newline ∉ stream reads →
      (∀ f, cutFault reads = some f → receiveReport reads = .error (.io f)) ∧
      (cutFault reads = none → stream reads = [] → receiveReport reads = .ok none) ∧
      (cutFault reads = none → stream reads ≠ [] →
        receiveReport reads = (decodeReport (stream reads)).map some)) ∧
    (∀ reads', stream reads' = stream reads → cutFault reads' = cutFault reads →
      receiveReport reads' = receiveReport reads) ∧
    (∀ line, (∀ s, encodeText s ≠ line) → decodeReport line = .error (.io .notText)) ∧
    ∀ kept blanks : List Char, (∀ c ∈ blanks, isBlank c = true) →
      (∀ c ∈ kept.getLast?, isBlank c = false) →
      decodeReport (encodeText (String.ofList (kept ++ blanks))) =
        (ConnectorReport.codec.parse (String.ofList kept)).mapError fun e =>
          .record (.json e) := by
  refine ⟨fun front rest hfront h => ⟨receiveReport_of_newline hfront h, ?_⟩, fun h => ⟨?_, ?_, ?_⟩,
    ?_, fun line => decodeReport_of_no_text, decodeReport_of_text⟩
  · intro reads' rest' h'
    rw [receiveReport_of_newline hfront h, receiveReport_of_newline hfront h']
  · exact fun f hf => receiveReport_of_fault h hf
  · intro hend hnone
    rw [receiveReport_of_end h hend, if_pos hnone]
  · intro hend hsome
    rw [receiveReport_of_end h hend, if_neg hsome]
  · intro reads' hstream hcut
    have hline : firstLine reads' = firstLine reads := by
      rw [firstLine_eq, firstLine_eq, arrived_eq, arrived_eq, hstream, hcut]
    rw [receiveReport, receiveReport, hline]

/-- A report in two parts with an interruption between them, then bytes that are no text, and a
failure; a failure inside the report; no byte; and no text. -/
theorem report_before_failure :
    let r : ConnectorReport := ⟨3, 300, .peerClosed⟩
    let front := (reportBytes r).take 20
    let back := (reportBytes r).drop 20
    let broken : Read := .fault (.errno ⟨5⟩)
    receiveReport [.data front, .fault (.kind .interrupted), .data (back ++ [newline, 0xFF]),
      broken] = .ok (some r) ∧
    receiveReport [.data front, broken, .data (back ++ [newline])] = .error (.io (.errno ⟨5⟩)) ∧
    receiveReport [.data []] = .ok none ∧
    receiveReport [.data [0xFF], .data []] = .error (.io .notText) := by
  intro r front back broken
  have hline : decodeReport (reportBytes r ++ [newline]) = .ok r := by
    have hended := (received_by_first_line []).2.2.2.2 (reportText r) ['\n'] (by simp [isBlank])
      (isBlank_getLast_of_visible fun _ => reportText_visible)
    have hbytes : reportBytes r ++ [newline] =
        encodeText (String.ofList (reportText r ++ ['\n'])) := by decide +kernel
    rw [hbytes, hended]
    decide +kernel
  refine ⟨?_, ?_, ?_, ?_⟩
  · have hfirst := (received_by_first_line [.data front, .fault (.kind .interrupted),
      .data (back ++ [newline, 0xFF]), broken]).1 (reportBytes r) [0xFF]
      (newline_notMem_reportBytes r) (by decide +kernel)
    rw [hfirst.1, hline]
    rfl
  · exact ((received_by_first_line [.data front, broken, .data (back ++ [newline])]).2.1
      (by decide +kernel)).1 _ (by decide +kernel)
  · exact ((received_by_first_line [.data []]).2.1 (by decide)).2.1 (by decide) (by decide)
  · have hwhole := ((received_by_first_line [.data [0xFF], .data []]).2.1 (by decide)).2.2
      (by decide) (by decide)
    have hno := (received_by_first_line []).2.2.2.1 [0xFF] (decodeText_eq_none_iff.1 (by decide))
    rw [hwhole, show stream [.data [0xFF], .data []] = [0xFF] from rfl, hno]
    rfl

end Socket

end Standstill
