import Mathlib
import Standstill.Text.Blank
import Standstill.Text.Bytes

/-!
# ASCII texts

A text of ASCII characters has a byte for each character, so it may be cut
after any of its bytes. Visible characters are neither blanks nor ends of
lines.

Results:
* `take_encodeText`: the first bytes of an ASCII text are those of its first
  characters.
* `decodeMarked_encodeText`: an ASCII text is read back from its bytes.
* `dropBlankEnd_of_split`: what is left of a text without its blank end.
* `dropBlankEnd_visible`, `dropBlankEnds_line`: a text of visible characters
  has no blank end.
-/
namespace Standstill

/-- A visible ASCII character. -/
def IsVisible (c : Char) : Prop := 0x20 < c.toNat ∧ c.toNat < 0x7F

instance (c : Char) : Decidable (IsVisible c) := inferInstanceAs (Decidable (_ ∧ _))

theorem isVisible_of_isDigit {c : Char} (h : c.isDigit = true) : IsVisible c := by
  simp only [Char.isDigit, Bool.and_eq_true, decide_eq_true_eq] at h
  have h1 : '0'.toNat ≤ c.toNat := UInt32.le_iff_toNat_le.1 h.1
  have h2 : c.toNat ≤ '9'.toNat := UInt32.le_iff_toNat_le.1 h.2
  simp only [Char.reduceToNat] at h1 h2
  exact ⟨by omega, by omega⟩

/-- The byte of an ASCII character. -/
def asciiByte (c : Char) : UInt8 := UInt8.ofNat c.toNat

theorem encodeText_ofList (s : List Char) :
    encodeText (String.ofList s) = s.flatMap String.utf8EncodeChar := by
  rw [encodeText, String.toUTF8, String.toByteArray_ofList, List.utf8Encode,
    List.data_toByteArray]

theorem encodeText_ascii {s : List Char} (h : ∀ c ∈ s, c.toNat < 0x80) :
    encodeText (String.ofList s) = s.map asciiByte := by
  rw [encodeText_ofList]
  induction s with
  | nil => rfl
  | cons c s ih =>
    have hc : c.val.toNat ≤ 127 := Nat.le_of_lt_succ (h c (by simp))
    have he : String.utf8EncodeChar c = [asciiByte c] := by
      simp only [String.utf8EncodeChar, hc, ↓reduceIte]
      rfl
    rw [List.flatMap_cons, he, ih fun d hd => h d (by simp [hd])]
    rfl

/-- ASCII bytes are read without a mark. -/
theorem decodeMarked_encodeText {s : List Char} (h : ∀ c ∈ s, c.toNat < 0x80) :
    decodeMarked (encodeText (String.ofList s)) = s := by
  rw [encodeText_ascii h]
  induction s with
  | nil => simp [decodeMarked]
  | cons c s ih =>
    have hc := h c (by simp)
    have hbyte : (asciiByte c).toNat = c.toNat := by
      rw [asciiByte, UInt8.toNat_ofNat']
      omega
    have hlt : asciiByte c < 0x80 := UInt8.lt_iff_toNat_lt.2 (hbyte ▸ hc)
    rw [List.map_cons, decodeMarked, if_pos hlt, hbyte, Char.ofNat_toNat,
      ih fun d hd => h d (by simp [hd])]

theorem take_encodeText {s : List Char} (h : ∀ c ∈ s, c.toNat < 0x80) (k : Nat) :
    (encodeText (String.ofList s)).take k = encodeText (String.ofList (s.take k)) := by
  rw [encodeText_ascii h, encodeText_ascii fun c hc => h c (List.mem_of_mem_take hc),
    List.map_take]

theorem length_encodeText {s : List Char} (h : ∀ c ∈ s, c.toNat < 0x80) :
    (encodeText (String.ofList s)).length = s.length := by
  rw [encodeText_ascii h, List.length_map]

/-- The byte of another ASCII character does not stand in a text. -/
theorem asciiByte_notMem {s : List Char} (h : ∀ c ∈ s, c.toNat < 0x80) {d : Char}
    (hd : d.toNat < 0x80) (hs : d ∉ s) : asciiByte d ∉ encodeText (String.ofList s) := by
  rw [encodeText_ascii h, List.mem_map]
  rintro ⟨c, hc, he⟩
  have hn := congrArg UInt8.toNat he
  have hlt := h c hc
  simp only [asciiByte, UInt8.toNat_ofNat'] at hn
  have hcd : c.toNat = d.toNat := by omega
  exact hs (Char.toNat_inj.1 hcd ▸ hc)

theorem isBlank_of_isVisible {c : Char} (h : IsVisible c) : isBlank c = false := by
  obtain ⟨h1, h2⟩ := h
  simp only [isBlank, Bool.or_eq_false_iff, Bool.and_eq_false_iff, decide_eq_false_iff_not,
    beq_eq_false_iff_ne]
  omega

/-- A text is cut before the white space at its end. -/
theorem dropBlankEnd_of_split (kept blanks : List Char) (hblanks : ∀ c ∈ blanks, isBlank c = true)
    (hkept : ∀ c ∈ kept.getLast?, isBlank c = false) : dropBlankEnd (kept ++ blanks) = kept := by
  unfold dropBlankEnd
  rw [List.reverse_append, List.dropWhile_append_of_pos (by simpa using hblanks)]
  cases hlast : kept.reverse with
  | nil => rw [List.reverse_eq_nil_iff.1 hlast]; rfl
  | cons c front =>
    have hc : isBlank c = false := hkept c (by
      rw [List.getLast?_eq_head?_reverse, hlast]
      rfl)
    rw [List.dropWhile_cons_of_neg (by simp [hc]), ← hlast, List.reverse_reverse]

theorem isBlank_getLast_of_visible {s : List Char} (h : ∀ c ∈ s, IsVisible c) :
    ∀ c ∈ s.getLast?, isBlank c = false :=
  fun c hc => isBlank_of_isVisible (h c (List.mem_of_getLast? hc))

theorem dropBlankEnd_visible {s : List Char} (h : ∀ c ∈ s, IsVisible c) : dropBlankEnd s = s := by
  simpa using dropBlankEnd_of_split s [] (by simp) (isBlank_getLast_of_visible h)

theorem dropBlankEnd_append_blank (s : List Char) {c : Char} (h : isBlank c = true) :
    dropBlankEnd (s ++ [c]) = dropBlankEnd s := by
  simp [dropBlankEnd, h]

/-- Of a line of visible characters only its end is taken away. -/
theorem dropBlankEnds_line {s : List Char} (h : ∀ c ∈ s, IsVisible c) {c : Char}
    (hc : isBlank c = true) : dropBlankEnds (s ++ [c]) = s := by
  unfold dropBlankEnds
  cases s with
  | nil => simp [dropBlankEnd, hc]
  | cons d t =>
    have hd : isBlank d = false := isBlank_of_isVisible (h d (by simp))
    rw [List.cons_append, List.dropWhile_cons_of_neg (by simp [hd]), ← List.cons_append,
      dropBlankEnd_append_blank _ hc, dropBlankEnd_visible h]

end Standstill
