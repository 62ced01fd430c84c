import Standstill.Json.Record

/-!
# Spans of time

A span is a number of seconds in 64 bits and of nanoseconds below one
second. Multiples are formed on the two parts with a carry and are refused,
or capped at the longest span, when the seconds do not fit.

Results:
* `ofParts?_eq_none_iff`: parts are refused exactly when their sum in
  nanoseconds reaches `2 ^ 64` seconds.
* `total_of_ofParts?`: parts that are accepted keep their sum.
* `times_eq_none_iff`: a multiple is refused exactly when its nanoseconds reach that.
-/
namespace Standstill

/-- Nanoseconds in a second. -/
def nanosPerSecond : Nat := 1000000000

structure Span where
  secs : UInt64
  nanos : UInt32
  nanos_lt : nanos.toNat < nanosPerSecond := by decide
deriving Repr, DecidableEq

namespace Span

/-- The span in nanoseconds. -/
def total (s : Span) : Nat := s.secs.toNat * nanosPerSecond + s.nanos.toNat

theorem total_mul (s : Span) (n : Nat) :
    s.total * n = s.secs.toNat * n * nanosPerSecond + s.nanos.toNat * n := by
  rw [total, Nat.add_mul, Nat.mul_right_comm]

/-- The nanoseconds of a span are fewer than this. -/
def capacity : Nat := UInt64.size * nanosPerSecond

@[ext]
theorem ext {s t : Span} (h1 : s.secs = t.secs) (h2 : s.nanos = t.nanos) : s = t := by
  cases s; cases t; simp_all

/-- Seconds and nanoseconds, whole seconds carried over; `none` if the seconds do not fit. -/
def ofParts? (secs nanos : Nat) : Option Span :=
  if secs + nanos / nanosPerSecond < UInt64.size then
    some ⟨UInt64.ofNat (secs + nanos / nanosPerSecond), UInt32.ofNat (nanos % nanosPerSecond), by
      have h : nanos % nanosPerSecond < nanosPerSecond := Nat.mod_lt _ (by decide)
      rw [UInt32.toNat_ofNat_of_lt' (Nat.lt_trans h (by decide))]
      exact h⟩
  else none

theorem ofParts?_eq_none_iff (secs nanos : Nat) :
    ofParts? secs nanos = none ↔ capacity ≤ secs * nanosPerSecond + nanos := by
  unfold ofParts? capacity
  split
  · rename_i hs
    simp only [reduceCtorEq, false_iff, nanosPerSecond] at hs ⊢
    omega
  · rename_i hs
    simp only [true_iff, nanosPerSecond] at hs ⊢
    omega

theorem total_of_ofParts? {secs nanos : Nat} {s : Span} (h : ofParts? secs nanos = some s) :
    s.total = secs * nanosPerSecond + nanos := by
  unfold ofParts? at h
  split at h
  · rename_i hs
    obtain rfl := Option.some.inj h
    have hm : nanos % nanosPerSecond < UInt32.size :=
      Nat.lt_trans (Nat.mod_lt _ (by decide)) (by decide)
    simp only [total]
    rw [UInt64.toNat_ofNat_of_lt' hs, UInt32.toNat_ofNat_of_lt' hm]
    unfold nanosPerSecond
    omega
  · cases h

theorem ofParts?_parts (s : Span) : ofParts? s.secs.toNat s.nanos.toNat = some s := by
  have hn := s.nanos_lt
  have hd : s.nanos.toNat / nanosPerSecond = 0 := Nat.div_eq_of_lt hn
  simp only [ofParts?, hd, Nat.add_zero, s.secs.toNat_lt_size, ↓reduceIte, UInt64.ofNat_toNat,
    Nat.mod_eq_of_lt hn, UInt32.ofNat_toNat]

/-- The longest span there is. -/
def longest : Span := ⟨18446744073709551615, 999999999, by decide⟩

/-- `n` seconds. -/
def ofSecs (n : UInt64) : Span := ⟨n, 0, by decide⟩

def zero : Span := ofSecs 0

/-- `n` milliseconds. -/
def ofMillis (n : UInt64) : Span :=
  ⟨n / 1000, UInt32.ofNat (n.toNat % 1000 * 1000000), by
    have h : n.toNat % 1000 * 1000000 < nanosPerSecond := by unfold nanosPerSecond; omega
    rw [UInt32.toNat_ofNat_of_lt' (Nat.lt_trans h (by decide))]
    exact h⟩

/-- A millisecond is a million nanoseconds. -/
theorem total_ofMillis (n : UInt64) : (ofMillis n).total = n.toNat * 1000000 := by
  have h : n.toNat % 1000 * 1000000 < UInt32.size := by unfold UInt32.size; omega
  simp only [total, ofMillis, UInt64.toNat_div, UInt32.toNat_ofNat_of_lt' h, nanosPerSecond,
    UInt64.reduceToNat]
  omega

/-- `n` times a span; `none` if it is longer than the longest one. -/
def times (s : Span) (n : UInt32) : Option Span :=
  ofParts? (s.secs.toNat * n.toNat) (s.nanos.toNat * n.toNat)

theorem times_eq_none_iff (s : Span) (n : UInt32) :
    s.times n = none ↔ capacity ≤ s.total * n.toNat := by
  rw [times, ofParts?_eq_none_iff, total_mul]

/-- Up to a thousand ticks that are given in milliseconds are no longer than the longest span. -/
theorem times_ofMillis_ne_none (ms : UInt64) {n : UInt32} (h : n.toNat ≤ 1000) :
    (ofMillis ms).times n ≠ none := by
  rw [Ne, times_eq_none_iff, total_ofMillis]
  have hms := ms.toNat_lt_size
  have hprod : ms.toNat * 1000000 * n.toNat ≤ ms.toNat * 1000000 * 1000 :=
    Nat.mul_le_mul_left _ h
  unfold capacity nanosPerSecond
  omega

/-- `n` times a span, or the longest span if that is shorter. -/
def timesCapped (s : Span) (n : UInt32) : Span := (s.times n).getD longest

def isZero (s : Span) : Bool := s.secs == 0 && s.nanos == 0

/-! ## Text -/

/-- `n` in `width` digits, less the zeros at its end, after a point; nothing for zero. -/
def fraction (width n : Nat) : String :=
  if n = 0 then ""
  else
    let ds := Nat.toDigits 10 n
    let full := List.replicate (width - ds.length) '0' ++ ds
    "." ++ String.ofList (full.reverse.dropWhile (· == '0')).reverse

/-- A span in the largest unit of which it has at least one, without rounding. -/
def text (s : Span) : String :=
  let n := s.nanos.toNat
  if 0 < s.secs.toNat then toString s.secs.toNat ++ fraction 9 n ++ "s"
  else if 1000000 ≤ n then toString (n / 1000000) ++ fraction 6 (n % 1000000) ++ "ms"
  else if 1000 ≤ n then toString (n / 1000) ++ fraction 3 (n % 1000) ++ "µs"
  else toString n ++ "ns"

/-! ## JSON -/

/-- A span as its two parts. -/
def record : Json.Record Span where
  title := "struct Duration"
  arity := "struct Duration"
  fields := .cons "secs" .word64 none (.cons "nanos" .word32 none .nil)
  build := fun (secs, nanos, ()) =>
    match ofParts? secs.toNat nanos.toNat with
    | some s => .ok s
    | none => .error (.refused "overflow deserializing Duration")
  parts := fun s => (s.secs, s.nanos, ())
  closed := true

def codec : Json.Codec Span := record.codec

end Span

end Standstill
