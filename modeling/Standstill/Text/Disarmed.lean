/-!
# Texts that do not steer a terminal

A log is read on terminals, and a terminal obeys control characters: the bell,
the backspace and the form feed, the escape that begins a sequence, the delete
character, and all of the second block of control characters. In a disarmed
text these are shown by number. Other control characters, such as tabs and the
ends of lines, stay as they are.

Results:
* `steers_of_mem_disarm`: a disarmed text holds no character that steers.
* `disarm_of_harmless`: a text without such characters stays as it is.
-/
namespace Standstill

/-- Obeyed by a terminal. -/
def steers (c : Char) : Bool :=
  c = '\x07' || c = '\x08' || c = '\x0C' || c = '\x1B' ||
    (decide (0x7F ≤ c.toNat) && decide (c.toNat ≤ 0x9F))

/-- The two hexadecimal digits of a byte. -/
def byteDigits (n : Nat) : List Char := [Nat.digitChar (n / 16), Nat.digitChar (n % 16)]

/-- A character, or its number if it steers: in two digits if it is of ASCII,
and otherwise in braces. -/
def disarmChar (c : Char) : List Char :=
  if steers c then
    if c.toNat < 0x80 then '\\' :: 'x' :: byteDigits c.toNat
    else '\\' :: 'u' :: '{' :: (byteDigits c.toNat ++ ['}'])
  else [c]

def disarm (s : List Char) : List Char := s.flatMap disarmChar

theorem toNat_le_of_steers {c : Char} (h : steers c = true) : c.toNat ≤ 0x9F := by
  simp only [steers, Bool.or_eq_true, Bool.and_eq_true, decide_eq_true_eq] at h
  rcases h with (((h | h) | h) | h) | h
  · subst h; decide
  · subst h; decide
  · subst h; decide
  · subst h; decide
  · exact h.2

theorem steers_digitChar : ∀ d < 16, steers (Nat.digitChar d) = false := by decide

theorem steers_of_mem_byteDigits {n : Nat} (hn : n ≤ 0x9F) {c : Char} (h : c ∈ byteDigits n) :
    steers c = false := by
  simp only [byteDigits, List.mem_cons, List.not_mem_nil, or_false] at h
  rcases h with rfl | rfl
  · exact steers_digitChar _ (by omega)
  · exact steers_digitChar _ (Nat.mod_lt _ (by decide))

theorem steers_of_mem_disarmChar {c d : Char} (h : d ∈ disarmChar c) : steers d = false := by
  unfold disarmChar at h
  split at h
  · rename_i hc
    have hn := toNat_le_of_steers hc
    split at h
    · simp only [List.mem_cons] at h
      rcases h with rfl | rfl | h
      · decide
      · decide
      · exact steers_of_mem_byteDigits hn h
    · simp only [List.mem_cons, List.mem_append, List.not_mem_nil, or_false] at h
      rcases h with rfl | rfl | rfl | h | rfl
      · decide
      · decide
      · decide
      · exact steers_of_mem_byteDigits hn h
      · decide
  · rename_i hc
    rw [List.mem_singleton.1 h]
    exact Bool.eq_false_iff.2 hc

theorem steers_of_mem_disarm {s : List Char} {c : Char} (h : c ∈ disarm s) : steers c = false := by
  obtain ⟨d, _, hd⟩ := List.mem_flatMap.1 h
  exact steers_of_mem_disarmChar hd

theorem disarm_of_harmless {s : List Char} (h : ∀ c ∈ s, steers c = false) : disarm s = s := by
  induction s with
  | nil => rfl
  | cons c s ih =>
    have hc : disarmChar c = [c] := by
      rw [disarmChar, h c (.head _)]
      rfl
    rw [disarm, List.flatMap_cons, hc, ← disarm, ih fun d hd => h d (.tail _ hd)]
    rfl

end Standstill
