import Mathlib
import Standstill.Contention.Config
import Standstill.Contention.Report
import Standstill.Proofs.Json.Containers
import Standstill.Proofs.Net.Addresses
import Standstill.Proofs.Socket.Handover
import Standstill.Socket.Config

/-!
# Records as lines

All records are printed as one line each, and each line is read back as the
record it was printed for, also with blanks around it. So whatever form a text
has that is accepted as a record (other blanks, another order of the fields,
unknown fields, an array), the line printed for it is accepted in its place.

Results:
* `record_faithful`, for each record: its fields have names of their own, and
  read back what they write.
* `Record.Faithful.parse_around`: a line with blanks around it.
* `printed_records_read_back`: all records at once.
-/
namespace Standstill

/-! ## Blanks around a line -/

namespace Json

/-- Only blanks, or nothing. -/
def IsBlankText (s : String) : Prop := ∀ c ∈ s.toList, isJsonBlank c = true

theorem skipBlanks_append {s : List Char} (h : ∀ c ∈ s, isJsonBlank c = true) (t : List Char) :
    skipBlanks (s ++ t) = skipBlanks t := List.dropWhile_append_of_pos h

theorem Record.Faithful.parse_around {α : Type} {r : Record α} {a : α} (h : r.Faithful a)
    {before after : String} (hbefore : IsBlankText before) (hafter : IsBlankText after) :
    r.codec.parse (before ++ r.codec.line a ++ after) = .ok a := by
  have htext : (before ++ r.codec.line a ++ after).toList =
      before.toList ++ (r.codec.write a ++ after.toList) := by
    simp [Codec.line, String.toList_append]
  have hread : r.codec.read (before.toList ++ (r.codec.write a ++ after.toList)) =
      (.ok a, after.toList) := by
    have hline := h.read_write after.toList
    change r.read _ = _
    unfold Record.read at hline ⊢
    rw [skipBlanks_append hbefore]
    exact hline
  have hend : skipBlanks after.toList = [] := by
    have hskip := skipBlanks_append hafter []
    rwa [List.append_nil] at hskip
  simp only [Codec.parse, htext, hread, hend]

/-- A codec whose values are all read back from the lines printed for them. -/
structure Codec.ReadsBack {α : Type} (c : Codec α) : Prop where
  /-- Each value, with blanks around its line or without. -/
  parse_around : ∀ (a : α) (before after : String), IsBlankText before → IsBlankText after →
    c.parse (before ++ c.line a ++ after) = .ok a
  one_line : ∀ a : α, Socket.newline ∉ encodeText (c.line a)
  /-- The line printed for an accepted text is accepted, and printed again as it is. -/
  reprints : ∀ (text : String) (a : α), c.parse text = .ok a →
    ∃ b, c.parse (c.line a) = .ok b ∧ c.line b = c.line a

theorem Record.readsBack {α : Type} {r : Record α} (h : ∀ a, r.Faithful a) :
    r.codec.ReadsBack where
  parse_around a _ _ hbefore hafter := (h a).parse_around hbefore hafter
  one_line a := by
    have hvisible := (h a).codec.visible
    refine asciiByte_notMem (d := '\n') (fun c hc => ?_) (by decide) fun hc => ?_
    · exact (hvisible c hc).2.trans (by decide)
    · exact absurd (hvisible _ hc) (by decide)
  reprints _ a _ := ⟨a, Codec.parse_line (h a).codec, rfl⟩

end Json

/-! ## Fields -/

open Json (IsNameChar)

theorem Ipv4.faithful (ip : Ipv4) : Ipv4.codec.Faithful ip :=
  Json.Codec.faithful_formatted ip.parse?_text fun c hc => by
    rw [text, String.toList_ofList] at hc
    exact isNameChar_of_mem_chars hc

theorem Endpoint.faithful (e : Endpoint) : Endpoint.codec.Faithful e :=
  Json.Codec.faithful_formatted e.parse?_text fun c hc => by
    rw [text, String.toList_ofList] at hc
    exact isNameChar_of_mem_chars hc

/-- Seconds and nanoseconds below one second carry nothing over. -/
theorem Span.record_faithful (s : Span) : Span.record.Faithful s where
  named := by
    simp [Json.Fields.Named, Span.record, Json.Fields.names, IsNameChar, IsVisible]
  fields := ⟨Json.Codec.faithful_word64 s.secs, Json.Codec.faithful_word32 s.nanos, trivial⟩
  build := by simp [Span.record, ofParts?_parts]

namespace Socket

theorem Role.faithful (r : Role) : Role.codec.Faithful r :=
  Json.Choices.faithful_named (by decide)
    (by simp [Role.all, Role.name, IsNameChar, IsVisible]) (by cases r <;> decide)

theorem Composition.faithful (c : Composition) : Composition.codec.Faithful c :=
  Json.Choices.faithful_named (by decide)
    (by simp [Composition.all, Composition.name, IsNameChar, IsVisible]) (by cases c <;> decide)

/-! ## Records of a socket run -/

theorem ListenerReport.record_faithful (r : ListenerReport) : ListenerReport.record.Faithful r where
  named := by
    simp [Json.Fields.Named, ListenerReport.record, Json.Fields.names, IsNameChar, IsVisible]
  fields := ⟨Json.Codec.faithful_word32 r.messagesSent, r.endedBy.faithful, trivial⟩
  build := rfl

theorem Report.record_faithful (r : Report) : Report.record.Faithful r where
  named := by
    simp [Json.Fields.Named, Report.record, Json.Fields.names, IsNameChar, IsVisible]
  fields := by
    refine ⟨r.address.faithful, r.role.faithful, r.composition.faithful, ?_, ?_, ?_, trivial⟩
    · exact Json.Codec.faithful_optional (.inl ⟨_, _, rfl⟩) fun l _ =>
        ⟨l.record_faithful.codec, Json.opens_brace _⟩
    · exact Json.Codec.faithful_optional (.inl ⟨_, _, rfl⟩) fun c _ =>
        ⟨c.record_faithful.codec, Json.opens_brace _⟩
    · exact Json.Codec.faithful_optional (.inl ⟨_, _, rfl⟩) fun n _ =>
        ⟨Json.Codec.faithful_signed32 n, Json.opens_writeInteger _⟩
  build := rfl

theorem Config.record_faithful (c : Config) : Config.record.Faithful c where
  named := by
    simp [Json.Fields.Named, Config.record, Json.Fields.names, IsNameChar, IsVisible]
  fields := by
    refine ⟨?_, Json.Codec.faithful_word16 c.port, Json.Codec.faithful_word32 c.cycles,
      c.tick.record_faithful.codec, Json.Codec.faithful_word32 c.connectDelayTicks,
      c.role.faithful, c.composition.faithful, trivial⟩
    exact Json.Codec.faithful_optional (.inl ⟨_, _, rfl⟩) fun ip _ =>
      ⟨ip.faithful, Json.opens_quote _⟩
  build := rfl

end Socket

/-! ## Records of a contention run -/

namespace Contention

theorem CompletionMode.timedWaitRecord_faithful (ticks : UInt32) :
    timedWaitRecord.Faithful (.timedWait ticks) where
  named := by
    simp [Json.Fields.Named, timedWaitRecord, Json.Fields.names, IsNameChar, IsVisible]
  fields := ⟨Json.Codec.faithful_word32 ticks, trivial⟩
  build := rfl

theorem CompletionMode.faithful (m : CompletionMode) : CompletionMode.codec.Faithful m := by
  cases m with
  | join =>
    exact @Json.Choices.faithful_unit _ choices "join" _ rfl rfl
      (by simp [IsNameChar, IsVisible])
  | timedWait ticks =>
    exact @Json.Choices.faithful_value _ choices "timed_wait" _ _ rfl rfl
      (by simp [IsNameChar, IsVisible]) (timedWaitRecord_faithful ticks).codec

theorem WorkerReport.record_faithful (r : WorkerReport) : WorkerReport.record.Faithful r where
  named := by
    simp [Json.Fields.Named, WorkerReport.record, Json.Fields.names, IsNameChar, IsVisible]
  fields := ⟨Json.Codec.faithful_size r.index, Json.Codec.faithful_size r.lock,
    Json.Codec.faithful_word32 r.cycles, trivial⟩
  build := rfl

theorem LockReport.record_faithful (r : LockReport) : LockReport.record.Faithful r where
  named := by
    simp [Json.Fields.Named, LockReport.record, Json.Fields.names, IsNameChar, IsVisible]
  fields := ⟨Json.Codec.faithful_size r.index, Json.Codec.faithful_word64 r.acquisitions,
    Json.Codec.faithful_size r.peakHolders, trivial⟩
  build := rfl

theorem Report.record_faithful (r : Report) : Report.record.Faithful r where
  named := by
    simp [Json.Fields.Named, Report.record, Json.Fields.names, IsNameChar, IsVisible]
  fields := by
    refine ⟨r.completion.faithful, ?_, ?_, Json.Codec.faithful_size r.finishedWorkers, trivial⟩
    · exact Json.Codec.faithful_list fun w _ => ⟨w.record_faithful.codec, Json.opens_brace _⟩
    · exact Json.Codec.faithful_list fun l _ => ⟨l.record_faithful.codec, Json.opens_brace _⟩
  build := rfl

theorem Config.record_faithful (c : Config) : Config.record.Faithful c where
  named := by
    simp [Json.Fields.Named, Config.record, Json.Fields.names, IsNameChar, IsVisible]
  fields := ⟨Json.Codec.faithful_size c.workers, Json.Codec.faithful_size c.locks,
    Json.Codec.faithful_word32 c.cycles, c.tick.record_faithful.codec, c.completion.faithful,
    trivial⟩
  build := rfl

end Contention

/-- Every report and every configuration is read back from its line, whatever
its fields hold, and the ticks of the configurations that are read have less
than a second in nanoseconds. -/
theorem printed_records_read_back :
    Socket.Report.codec.ReadsBack ∧ Contention.Report.codec.ReadsBack ∧
    Socket.ListenerReport.codec.ReadsBack ∧ Socket.ConnectorReport.codec.ReadsBack ∧
    Contention.WorkerReport.codec.ReadsBack ∧ Contention.LockReport.codec.ReadsBack ∧
    Socket.Config.codec.ReadsBack ∧ Contention.Config.codec.ReadsBack ∧
    (∀ text c, Socket.Config.codec.parse text = .ok c → c.tick.nanos.toNat < nanosPerSecond) ∧
    ∀ text c, Contention.Config.codec.parse text = .ok c → c.tick.nanos.toNat < nanosPerSecond :=
  ⟨Json.Record.readsBack Socket.Report.record_faithful,
    Json.Record.readsBack Contention.Report.record_faithful,
    Json.Record.readsBack Socket.ListenerReport.record_faithful,
    Json.Record.readsBack Socket.ConnectorReport.record_faithful,
    Json.Record.readsBack Contention.WorkerReport.record_faithful,
    Json.Record.readsBack Contention.LockReport.record_faithful,
    Json.Record.readsBack Socket.Config.record_faithful,
    Json.Record.readsBack Contention.Config.record_faithful,
    fun _ c _ => c.tick.nanos_lt, fun _ c _ => c.tick.nanos_lt⟩

-- An array is accepted for a record, and nanoseconds are carried over into seconds.
example : Contention.Config.codec.parse "[2, 1, 3, [0, 1500000000], \x7b\"timed_wait\": [4]\x7d]" =
    .ok ⟨2, 1, 3, ⟨1, 500000000, by decide⟩, .timedWait 4⟩ := by cbv

end Standstill
