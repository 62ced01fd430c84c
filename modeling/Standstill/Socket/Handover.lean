import Standstill.Log
import Standstill.Text.Blank
import Standstill.Text.Bytes

/-!
# Handing a connector's report over

A forked connector writes its report as one line of JSON to a pipe, and the
listener's process reads the first line from the other end. A writer may
take bytes in portions and stop at any of them; a reader may get bytes in
portions, be broken off or fail.

Results:
* `taken_writeAll`: a writer with room left has taken exactly what it was
  given, otherwise exactly what it had room for.
-/
namespace Standstill.Socket

/-! ## Writing -/

/-- A writer and what it has taken. -/
structure Sink where
  /-- The bytes taken so far, first one first. -/
  taken : List UInt8 := []
  /-- Bytes it will still take; no limit if absent. -/
  room : Option Nat := none
  /-- The calls so far that took something. -/
  calls : Nat := 0
  /-- A bound on what the call of a number takes, less one. -/
  portion : Nat → Nat := fun _ => messageSize
  /-- What a call fails with when there is no room left. Without it the call
  takes no byte. A fault that breaks a call off is none of these. -/
  fault : Option IoFault := none
  /-- What flushing fails with. -/
  flushFault : Option IoFault := none
  flushes : Nat := 0

namespace Sink

/-- The bytes that one call takes of those it is given. -/
def share (w : Sink) (bytes : List UInt8) : Nat :=
  let n := min bytes.length (w.portion w.calls + 1)
  match w.room with
  | some r => min n r
  | none => n

/-- The writer after a call that took `n` bytes. -/
def took (w : Sink) (n : Nat) (bytes : List UInt8) : Sink :=
  { w with
    taken := w.taken ++ bytes.take n
    room := w.room.map (· - n)
    calls := w.calls + 1 }

/-- Write all bytes, call by call. -/
def writeAll (w : Sink) (bytes : List UInt8) : Sink × Except IoFault Unit :=
  if bytes = [] then (w, .ok ())
  else if _h : w.share bytes = 0 then (w, .error (w.fault.getD .writerFull))
  else (w.took (w.share bytes) bytes).writeAll (bytes.drop (w.share bytes))
termination_by bytes.length
decreasing_by
  rw [List.length_drop]
  have := List.length_pos_iff.2 ‹bytes ≠ []›
  omega

theorem share_le (w : Sink) (bytes : List UInt8) : w.share bytes ≤ bytes.length := by
  unfold share
  cases w.room <;> simp only <;> omega

/-- A call takes nothing only if nothing is given or there is no room. -/
theorem share_eq_zero {w : Sink} {bytes : List UInt8} (hb : bytes ≠ [])
    (h : w.share bytes = 0) : w.room = some 0 := by
  have hl := List.length_pos_iff.2 hb
  unfold share at h
  cases hr : w.room with
  | none => simp only [hr] at h; omega
  | some r => simp only [hr] at h; congr 1; omega

theorem share_le_room {w : Sink} {r : Nat} (h : w.room = some r) (bytes : List UInt8) :
    w.share bytes ≤ r := by
  simp only [share, h]
  omega

/-- A writer takes what it has room for and no more, however it splits that. -/
theorem taken_writeAll (w : Sink) (bytes : List UInt8) :
    (w.writeAll bytes).1.taken = w.taken ++ bytes.take (w.room.getD bytes.length) := by
  fun_induction writeAll w bytes with
  | case1 w => simp
  | case2 w bytes hb h => simp [share_eq_zero hb h]
  | case3 w bytes hb h ih =>
    have hle := w.share_le bytes
    have hd : (bytes.drop (w.share bytes)).length = bytes.length - w.share bytes := by simp
    rw [ih]
    cases hr : w.room with
    | none =>
      simp only [took, hr, Option.map_none, Option.getD_none, List.take_length, List.append_assoc,
        List.take_append_drop]
    | some r =>
      have hroom := share_le_room hr bytes
      simp only [took, hr, Option.map_some, Option.getD_some, List.append_assoc]
      rw [← List.take_add, Nat.add_sub_cancel' hroom]

def flush (w : Sink) : Sink × Except IoFault Unit :=
  ({ w with flushes := w.flushes + 1 },
    match w.flushFault with
    | some f => .error f
    | none => .ok ())

end Sink

/-- The line that carries a report, less its end. -/
def reportBytes (r : ConnectorReport) : List UInt8 := encodeText (ConnectorReport.codec.line r)

/-- The end of a line. -/
def newline : UInt8 := 10

/-- Write a report and the end of its line, then flush. -/
def sendReport (w : Sink) (r : ConnectorReport) : Sink × Except Failure Unit :=
  match w.writeAll (reportBytes r) with
  | (w, .error f) => (w, .error (.record (.io f)))
  | (w, .ok ()) =>
    match w.writeAll [newline] with
    | (w, .error f) => (w, .error (.io f))
    | (w, .ok ()) =>
      let (w, r) := w.flush
      (w, r.mapError Failure.io)

/-! ## Reading -/

/-- What one read comes to. -/
inductive Read
  /-- Some bytes; none is the end of the data. -/
  | data (bytes : List UInt8)
  | fault (f : IoFault)
deriving Repr, DecidableEq

/-- The bytes up to and with the first newline, or up to the end of the data.
A read that was broken off is tried again. -/
def firstLine : List Read → Except IoFault (List UInt8)
  | [] => .ok []
  | .fault f :: reads => if f.isInterrupted then firstLine reads else .error f
  | .data bytes :: reads =>
    if bytes = [] then .ok []
    else if newline ∈ bytes then .ok (bytes.takeWhile (· != newline) ++ [newline])
    else (firstLine reads).map fun rest => bytes ++ rest

/-- The report that a line carries. -/
def decodeReport (line : List UInt8) : Except Failure ConnectorReport :=
  match decodeText line with
  | none => .error (.io .notText)
  | some text =>
    match ConnectorReport.codec.parse (String.ofList (dropBlankEnd text.toList)) with
    | .ok r => .ok r
    | .error e => .error (.record (.json e))

/-- The report that reads bring, if they bring any byte. -/
def receiveReport (reads : List Read) : Except Failure (Option ConnectorReport) :=
  match firstLine reads with
  | .error f => .error (.io f)
  | .ok [] => .ok none
  | .ok line => (decodeReport line).map some

end Standstill.Socket
