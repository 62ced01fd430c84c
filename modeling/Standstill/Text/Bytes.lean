/-!
# Bytes of a text

A text as its UTF-8 bytes, and the text that bytes stand for. Bytes that are
not valid may also be read with a mark in place of each broken character. A
part of a text may be cut out at places that are counted in bytes.

Results:
* `decodeText_encodeText`: a text is read back from its bytes.
* `cut?_append`: a part is cut out at the places where it begins and ends.
-/
namespace Standstill

/-- The bytes of a text. -/
def encodeText (s : String) : List UInt8 := s.toUTF8.data.toList

/-- The text of some bytes; `none` if they are not valid. -/
def decodeText (bytes : List UInt8) : Option String := String.fromUTF8? ⟨bytes.toArray⟩

theorem decodeText_encodeText (s : String) : decodeText (encodeText s) = some s := by
  simp only [decodeText, encodeText, Array.toArray_toList, String.fromUTF8?]
  exact dif_pos s.isValidUTF8

/-! ## Broken texts -/

/-- The mark that stands for a broken character. -/
def brokenMark : Char := '\uFFFD'

/-- What the first byte of a longer character tells. -/
structure Lead where
  /-- Bytes that follow. -/
  following : Nat
  /-- The range of the next byte. -/
  low : UInt8
  high : UInt8
  /-- The bits of the first byte. -/
  bits : Nat

def lead? (b : UInt8) : Option Lead :=
  if 0xC2 ≤ b ∧ b ≤ 0xDF then some ⟨1, 0x80, 0xBF, b.toNat % 32⟩
  else if b = 0xE0 then some ⟨2, 0xA0, 0xBF, 0⟩
  else if b = 0xED then some ⟨2, 0x80, 0x9F, 13⟩
  else if 0xE1 ≤ b ∧ b ≤ 0xEF then some ⟨2, 0x80, 0xBF, b.toNat % 16⟩
  else if b = 0xF0 then some ⟨3, 0x90, 0xBF, 0⟩
  else if 0xF1 ≤ b ∧ b ≤ 0xF3 then some ⟨3, 0x80, 0xBF, b.toNat % 8⟩
  else if b = 0xF4 then some ⟨3, 0x80, 0x8F, 4⟩
  else none

/-- The character that continues with `following` bytes, if they are there,
and how many of them are. -/
def continued : (following : Nat) → (low high : UInt8) → (bits used : Nat) → List UInt8 →
    Char × Nat
  | 0, _, _, bits, used, _ => (Char.ofNat bits, used)
  | _ + 1, _, _, _, used, [] => (brokenMark, used)
  | n + 1, low, high, bits, used, b :: bs =>
    if low ≤ b ∧ b ≤ high then continued n 0x80 0xBF (bits * 64 + b.toNat % 64) (used + 1) bs
    else (brokenMark, used)

/-- The characters of some bytes, with marks for broken ones. -/
def decodeMarked : List UInt8 → List Char
  | [] => []
  | b :: bs =>
    if b < 0x80 then Char.ofNat b.toNat :: decodeMarked bs
    else match lead? b with
      | none => brokenMark :: decodeMarked bs
      | some l =>
        let (c, used) := continued l.following l.low l.high l.bits 0 bs
        c :: decodeMarked (bs.drop used)
termination_by bytes => bytes.length
decreasing_by all_goals simp only [List.length_cons, List.length_drop]; omega

/-! ## Places -/

/-- The bytes that characters take up. -/
def byteCount : List Char → Nat
  | [] => 0
  | c :: s => c.utf8Size + byteCount s

/-- A text from a place on; `none` if that is inside a character or past the end. -/
def dropBytes? : Nat → List Char → Option (List Char)
  | 0, s => some s
  | _ + 1, [] => none
  | n + 1, c :: s => if c.utf8Size ≤ n + 1 then dropBytes? (n + 1 - c.utf8Size) s else none

/-- A text up to a place; `none` if that is inside a character or past the end. -/
def takeBytes? : Nat → List Char → Option (List Char)
  | 0, _ => some []
  | _ + 1, [] => none
  | n + 1, c :: s =>
    if c.utf8Size ≤ n + 1 then (takeBytes? (n + 1 - c.utf8Size) s).map (c :: ·) else none

/-- The part of a text between two places. -/
def cut? (s : List Char) (start stop : Nat) : Option (List Char) :=
  (dropBytes? start s).bind (takeBytes? (stop - start))

theorem dropBytes?_append (s t : List Char) : dropBytes? (byteCount s) (s ++ t) = some t := by
  induction s with
  | nil => cases t <;> rfl
  | cons c s ih =>
    obtain ⟨n, hn⟩ := Nat.exists_eq_succ_of_ne_zero (Nat.ne_of_gt c.utf8Size_pos)
    have h : byteCount (c :: s) = (n + byteCount s) + 1 := by rw [byteCount, hn]; omega
    rw [h, List.cons_append, dropBytes?, if_pos (by omega)]
    rw [show n + byteCount s + 1 - c.utf8Size = byteCount s by omega, ih]

theorem takeBytes?_append (s t : List Char) : takeBytes? (byteCount s) (s ++ t) = some s := by
  induction s with
  | nil => cases t <;> rfl
  | cons c s ih =>
    obtain ⟨n, hn⟩ := Nat.exists_eq_succ_of_ne_zero (Nat.ne_of_gt c.utf8Size_pos)
    have h : byteCount (c :: s) = (n + byteCount s) + 1 := by rw [byteCount, hn]; omega
    rw [h, List.cons_append, takeBytes?, if_pos (by omega)]
    rw [show n + byteCount s + 1 - c.utf8Size = byteCount s by omega, ih]
    rfl

theorem cut?_append (r s t : List Char) :
    cut? (r ++ s ++ t) (byteCount r) (byteCount r + byteCount s) = some s := by
  rw [cut?, List.append_assoc, dropBytes?_append, Option.bind_some, Nat.add_sub_cancel_left,
    takeBytes?_append]

end Standstill
