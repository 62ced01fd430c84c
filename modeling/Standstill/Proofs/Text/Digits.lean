import Mathlib
import Standstill.Text.Numeral

/-!
# Numerals read back

The numeral of a number, in a radix from two to sixteen, is a row of digits
with no zero before another digit. A reader that takes all the digits it
meets therefore gets the number back, as long as what follows does not begin
with a digit and the number is within the limits of the format.

Results:
* `valueOfDigits_toDigits`: the value of a numeral is its number.
* `read_toDigits`: a format reads the numerals of the numbers it allows.
-/
namespace Standstill

section Digits

variable {radix : Nat}

theorem digit?_digitChar (h16 : radix ≤ 16) {d : Nat} (hd : d < radix) :
    digit? radix (Nat.digitChar d) = some d := by
  have h : ∀ e < 16, digit? 16 (Nat.digitChar e) = some e := by decide
  have hd' := h d (by omega)
  unfold digit? at hd' ⊢
  rw [Option.filter_eq_some_iff] at hd' ⊢
  exact ⟨hd'.1, by simpa using hd⟩

/-- The characters of a numeral are its digits. -/
theorem exists_digitChar (h1 : 1 < radix) {n : Nat} {c : Char}
    (h : c ∈ Nat.toDigits radix n) : ∃ d < radix, c = Nat.digitChar d := by
  induction n using Nat.strongRecOn with
  | ind n ih =>
    rw [Nat.toDigits_eq_if h1] at h
    split at h
    · next hn => exact ⟨n, hn, by simpa using h⟩
    · next hn =>
      rcases List.mem_append.1 h with h | h
      · exact ih _ (Nat.div_lt_self (by omega) h1) h
      · exact ⟨n % radix, Nat.mod_lt _ (by omega), by simpa using h⟩

theorem isSome_digit? (h1 : 1 < radix) (h16 : radix ≤ 16) {n : Nat} {c : Char}
    (h : c ∈ Nat.toDigits radix n) : (digit? radix c).isSome = true := by
  obtain ⟨d, hd, rfl⟩ := exists_digitChar h1 h
  rw [digit?_digitChar h16 hd]
  rfl

/-- Only the numeral of zero begins with a zero. -/
theorem head?_toDigits (h1 : 1 < radix) {n : Nat} (hn : n ≠ 0) :
    (Nat.toDigits radix n).head? ≠ some '0' := by
  induction n using Nat.strongRecOn with
  | ind n ih =>
    rw [Nat.toDigits_eq_if h1]
    split
    · simpa using hn
    · next hle =>
      have hq : n / radix ≠ 0 := by
        have := Nat.div_pos (by omega : radix ≤ n) (by omega)
        omega
      rw [List.head?_append_of_ne_nil _ Nat.toDigits_ne_nil]
      exact ih _ (Nat.div_lt_self (by omega) h1) hq

/-- A text that does not begin with a digit. -/
def EndsDigits (radix : Nat) (rest : List Char) : Prop :=
  ∀ c ∈ rest.head?, digit? radix c = none

theorem endsDigits_nil : EndsDigits radix [] := nofun

theorem endsDigits_cons {c : Char} (s : List Char) (h : digit? radix c = none) :
    EndsDigits radix (c :: s) := by
  intro d hd
  obtain rfl : c = d := by simpa using hd
  exact h

theorem spanDigits_of_ends {rest : List Char} (h : EndsDigits radix rest) :
    spanDigits radix rest = ([], rest) := by
  unfold spanDigits
  cases rest with
  | nil => rfl
  | cons c s => simp [h c (by simp)]

/-- Digits are taken up to where they end. -/
theorem spanDigits_digits {ds rest : List Char} (h : ∀ c ∈ ds, (digit? radix c).isSome = true)
    (hrest : EndsDigits radix rest) : spanDigits radix (ds ++ rest) = (ds, rest) := by
  have hends := spanDigits_of_ends hrest
  unfold spanDigits at hends ⊢
  rw [Prod.mk.injEq] at hends ⊢
  rw [List.takeWhile_append_of_pos h, List.dropWhile_append_of_pos h, hends.1, hends.2]
  simp

theorem valueOfDigits_concat (ds : List Char) (c : Char) :
    valueOfDigits radix (ds ++ [c]) = valueOfDigits radix ds * radix + (digit? radix c).getD 0 := by
  simp [valueOfDigits]

theorem valueOfDigits_toDigits (h1 : 1 < radix) (h16 : radix ≤ 16) (n : Nat) :
    valueOfDigits radix (Nat.toDigits radix n) = n := by
  induction n using Nat.strongRecOn with
  | ind n ih =>
    rw [Nat.toDigits_eq_if h1]
    split
    · next hn => simp [valueOfDigits, digit?_digitChar h16 hn]
    · next hn =>
      have hmod := digit?_digitChar h16 (Nat.mod_lt n (by omega : 0 < radix))
      rw [valueOfDigits_concat, ih _ (Nat.div_lt_self (by omega) h1), hmod]
      exact Nat.div_add_mod' n radix

end Digits

/-- A format reads the numeral of a number that it allows, up to what comes after it. -/
theorem NumeralForm.read_toDigits {form : NumeralForm} (h1 : 1 < form.radix)
    (h16 : form.radix ≤ 16) {n : Nat} (hn : n < form.bound)
    (hmax : ∀ k ∈ form.maxDigits, 0 < k ∧ n < form.radix ^ k) {rest : List Char}
    (hrest : EndsDigits form.radix rest) :
    form.read (Nat.toDigits form.radix n ++ rest) = some (n, rest) := by
  have hspan := spanDigits_digits (fun c => isSome_digit? h1 h16 (n := n)) hrest
  have hvalue := valueOfDigits_toDigits h1 h16 n
  have hfew : form.maxDigits.any (· < (Nat.toDigits form.radix n).length) = false := by
    cases hk : form.maxDigits with
    | none => rfl
    | some k =>
      obtain ⟨hpos, hlt⟩ := hmax k hk
      simpa using (Nat.length_toDigits_le_iff h1 hpos).2 hlt
  have hzero : ¬((Nat.toDigits form.radix n).head? = some '0' ∧
      1 < (Nat.toDigits form.radix n).length) := by
    rintro ⟨hhead, hlong⟩
    by_cases h0 : n = 0
    · rw [h0, Nat.toDigits_zero] at hlong
      simp at hlong
    · exact head?_toDigits h1 h0 hhead
  unfold NumeralForm.read
  simp only [hspan, hvalue]
  rw [if_neg]
  rintro (hnil | hlong | ⟨-, hlead⟩ | hbig)
  · exact Nat.toDigits_ne_nil hnil
  · rw [hfew] at hlong
    cases hlong
  · exact hzero hlead
  · omega

end Standstill
