import Mathlib
import Standstill.CommandLine.Value
import Standstill.Json.Codec

/-!
# Words read back, and words cut off

What the readers of numerals and strings make of the texts that the writers
make, whole or cut off. A whole word is read back with what follows it left,
as long as that does not go on with the word. A word that is cut off at the
end of the text either is a fault or, as the digits of a number may be, is
another word with nothing left after it.

Results:
* `IsCut.append`: a text is cut off in its first part or after it.
* `readInteger_writeInteger`, `breaksOff_readInteger`: numerals, whole and cut off.
* `string_plain`, `string_of_cut`: strings without escapes, whole and cut off.
-/
namespace Standstill.Json

/-! ## Texts cut off -/

section Cut

variable {α : Type} {p s t : List α}

/-- A text that stops short of the end of another. -/
def IsCut (p s : List α) : Prop := ∃ q, q ≠ [] ∧ p ++ q = s

theorem not_isCut_nil : ¬ IsCut p [] := by
  rintro ⟨q, hq, h⟩
  exact hq (List.append_eq_nil_iff.1 h).2

theorem isCut_cons {c : α} (h : IsCut p (c :: s)) : p = [] ∨ ∃ p', p = c :: p' ∧ IsCut p' s := by
  obtain ⟨q, hq, h⟩ := h
  cases p with
  | nil => exact .inl rfl
  | cons d p =>
    simp only [List.cons_append, List.cons.injEq] at h
    obtain ⟨rfl, rfl⟩ := h
    exact .inr ⟨p, rfl, q, hq, rfl⟩

theorem eq_nil_of_isCut_singleton {c : α} (h : IsCut p [c]) : p = [] := by
  rcases isCut_cons h with rfl | ⟨u, -, hu⟩
  · rfl
  · exact absurd hu not_isCut_nil

theorem IsCut.append (h : IsCut p (s ++ t)) : IsCut p s ∨ ∃ p', p = s ++ p' ∧ IsCut p' t := by
  induction s generalizing p with
  | nil => exact .inr ⟨p, rfl, h⟩
  | cons c s ih =>
    rcases isCut_cons h with rfl | ⟨p', rfl, h'⟩
    · exact .inl ⟨c :: s, by simp, rfl⟩
    · rcases ih h' with ⟨q, hq, rfl⟩ | ⟨u, rfl, hu⟩
      · exact .inl ⟨q, hq, rfl⟩
      · exact .inr ⟨u, rfl, hu⟩

theorem IsCut.starts (h : IsCut p s) : p <+: s := by
  obtain ⟨q, -, rfl⟩ := h
  exact List.prefix_append p q

theorem isCut_take {k : Nat} (h : k < s.length) : IsCut (s.take k) s :=
  ⟨s.drop k, by simpa using h, List.take_append_drop k s⟩

end Cut

/-! ## Reading to the end of a text -/

section BreaksOff

variable {α β : Type} {r : Reader α} {s : List Char}

/-- Reading a text comes to a fault, or to its end. -/
def BreaksOff (r : Reader α) (s : List Char) : Prop :=
  (∃ f t, r s = (.error f, t)) ∨ ∃ a, r s = (.ok a, [])

theorem BreaksOff.bind (h : BreaksOff r s) {f : α → Reader β} (hf : ∀ a, BreaksOff (f a) []) :
    BreaksOff (r >>= f) s := by
  rcases h with ⟨e, t, h⟩ | ⟨a, h⟩
  · exact .inl ⟨e, t, by simp [Reader.bind_apply, h]⟩
  · have := hf a
    simpa only [BreaksOff, Reader.bind_apply, h] using this

theorem BreaksOff.map (h : BreaksOff r s) (f : α → β) : BreaksOff (f <$> r) s :=
  h.bind fun a => .inr ⟨f a, rfl⟩

theorem BreaksOff.placing (h : BreaksOff r s) : BreaksOff (placing r) s := by
  rcases h with ⟨e, t, h⟩ | ⟨a, h⟩
  · exact .inl ⟨e.placedAt t, t, by simp [Json.placing, h]⟩
  · exact .inr ⟨a, by simp [Json.placing, h]⟩

end BreaksOff

/-! ## Numerals -/

/-- A text that does not go on with a number before it. -/
def EndsNumber (rest : List Char) : Prop :=
  startsDigit rest = false ∧ startsExponent rest = false ∧ rest.head? ≠ some '.'

theorem endsNumber_nil : EndsNumber [] := by simp [EndsNumber, startsDigit, startsExponent]

theorem endsNumber_cons {c : Char} (s : List Char) (h : c = ',' ∨ c = '}' ∨ c = ']') :
    EndsNumber (c :: s) := by
  rcases h with rfl | rfl | rfl <;>
    simp [EndsNumber, startsDigit, startsExponent]

/-- Every nonempty cut of a numeral is the numeral of a smaller number. -/
theorem toDigits_of_cut {n : Nat} {p : List Char} (h : IsCut p (Nat.toDigits 10 n)) :
    p = [] ∨ ∃ m ≤ n, p = Nat.toDigits 10 m := by
  induction n using Nat.strongRecOn with
  | ind n ih =>
    by_cases hn : n < 10
    · rw [Nat.toDigits_of_lt_base hn] at h
      exact .inl (eq_nil_of_isCut_singleton h)
    · have hlt : n / 10 < n := Nat.div_lt_self (by omega) (by decide)
      rw [Nat.toDigits_of_base_le (by decide) (by omega)] at h
      rcases h.append with h | ⟨q, rfl, hq⟩
      · rcases ih _ hlt h with hp | ⟨m, hm, hp⟩
        · exact .inl hp
        · exact .inr ⟨m, by omega, hp⟩
      · obtain rfl := eq_nil_of_isCut_singleton hq
        exact .inr ⟨n / 10, hlt.le, by simp⟩

/-- A numeral begins with a digit, and with zero only for zero. -/
theorem toDigits_eq_cons (n : Nat) :
    ∃ c s, Nat.toDigits 10 n = c :: s ∧ c.isDigit = true ∧ (n ≠ 0 → c ≠ '0') := by
  induction n using Nat.strongRecOn with
  | ind n ih =>
    by_cases hn : n < 10
    · refine ⟨_, _, Nat.toDigits_of_lt_base hn, (CommandLine.toNat_digitChar hn).1, ?_⟩
      interval_cases n <;> decide
    · obtain ⟨c, s, h, hc, h0⟩ := ih (n / 10) (Nat.div_lt_self (by omega) (by decide))
      refine ⟨c, s ++ [Nat.digitChar (n % 10)], ?_, hc, fun _ => h0 (by omega)⟩
      rw [Nat.toDigits_of_base_le (by decide) (by omega), h, List.cons_append]

theorem takeDigits_of_ends {limit acc : Nat} {rest : List Char} (h : startsDigit rest = false) :
    takeDigits limit acc rest = (acc, rest) := by
  cases rest with
  | nil => rfl
  | cons c s => simp [takeDigits, show c.isDigit = false from h]

theorem takeDigits_append {limit acc v : Nat} {s : List Char}
    (h : takeDigits limit acc s = (v, [])) (t : List Char) :
    takeDigits limit acc (s ++ t) = takeDigits limit v t := by
  induction s generalizing acc with
  | nil =>
    cases h
    rfl
  | cons c s ih =>
    simp only [takeDigits] at h
    split at h
    · rename_i hd
      split at h
      · cases h
      · rename_i hv
        simp only [List.cons_append, takeDigits, hd, ↓reduceIte, hv]
        exact ih h
    · cases h

theorem takeDigits_toDigits {limit n : Nat} (h : n ≤ limit) :
    takeDigits limit 0 (Nat.toDigits 10 n) = (n, []) := by
  induction n using Nat.strongRecOn with
  | ind n ih =>
    by_cases hn : n < 10
    · obtain ⟨h1, h2⟩ := CommandLine.toNat_digitChar hn
      rw [Nat.toDigits_of_lt_base hn]
      simp only [takeDigits, h1, h2, ↓reduceIte, Nat.zero_mul, Nat.zero_add, Nat.not_lt.2 h]
    · obtain ⟨h1, h2⟩ := CommandLine.toNat_digitChar (Nat.mod_lt n (by decide : 0 < 10))
      have hq : n / 10 < n := Nat.div_lt_self (by omega) (by decide)
      rw [Nat.toDigits_of_base_le (by decide) (by omega),
        takeDigits_append (ih _ hq (by omega))]
      have hv : n / 10 * 10 + n % 10 = n := by omega
      simp only [takeDigits, h1, h2, ↓reduceIte, hv, Nat.not_lt.2 h]

/-- The digits of a number are read, up to what comes after them. -/
theorem number_toDigits {n : Nat} (h : n ≤ maxSignificand) (positive : Bool) {rest : List Char}
    (he : EndsNumber rest) :
    number positive (Nat.toDigits 10 n ++ rest) = afterInteger positive n rest := by
  obtain ⟨c, s, hs, hc, h0⟩ := toDigits_eq_cons n
  by_cases hn : n = 0
  · subst hn
    simp [Nat.toDigits_of_lt_base, number, he.1]
  · have ht := takeDigits_append (takeDigits_toDigits h) rest
    rw [takeDigits_of_ends he.1, hs, List.cons_append] at ht
    rw [hs, List.cons_append]
    simp only [number, h0 hn, hc, ↓reduceIte, ht, he.1, Bool.false_eq_true]

theorem afterInteger_natural {n : Nat} {rest : List Char} (he : EndsNumber rest) :
    afterInteger true n rest = (.ok (.natural n), rest) := by
  unfold afterInteger
  split
  · exact absurd rfl he.2.2
  · simp [he.2.1]

theorem afterInteger_negative {n : Nat} (h0 : n ≠ 0) (h : n ≤ Int64.minValue.toInt.natAbs)
    {rest : List Char} (he : EndsNumber rest) :
    afterInteger false n rest = (.ok (.negative n), rest) := by
  unfold afterInteger
  split
  · exact absurd rfl he.2.2
  · simp only [he.2.1, h0, Nat.not_lt.2 h, or_false, Bool.false_eq_true, ↓reduceIte]

/-- Integers that are read as such and not as floats. -/
def IsExact (i : Int) : Prop := Int64.minValue.toInt ≤ i ∧ i ≤ maxSignificand

theorem isJsonBlank_of_isDigit {c : Char} (h : c.isDigit = true) : isJsonBlank c = false := by
  by_contra hb
  simp only [isJsonBlank, Bool.not_eq_false, Bool.or_eq_true, beq_iff_eq] at hb
  rcases hb with ((rfl | rfl) | rfl) | rfl <;> simp at h

theorem readInteger_digits (title : String) (low high : Int) (n : Nat) (rest : List Char) :
    Codec.readInteger title low high (Nat.toDigits 10 n ++ rest) =
      Codec.integerFrom title low high (number true) (Nat.toDigits 10 n ++ rest) := by
  obtain ⟨c, s, hs, hc, -⟩ := toDigits_eq_cons n
  have hb := isJsonBlank_of_isDigit hc
  have hm : c ≠ '-' := by
    rintro rfl
    simp at hc
  rw [hs, List.cons_append, Codec.readInteger, skipBlanks_cons hb]
  simp [hc]

theorem readInteger_writeInteger {title : String} {low high i : Int} (hl : low ≤ i) (hh : i ≤ high)
    (hx : IsExact i) {rest : List Char} (he : EndsNumber rest) :
    Codec.readInteger title low high (Codec.writeInteger i ++ rest) = (.ok i, rest) := by
  obtain ⟨hmin, hmax⟩ := hx
  unfold Codec.writeInteger
  split
  · next h0 =>
    have hi : (i.toNat : Int) = i := Int.toNat_of_nonneg h0
    rw [readInteger_digits, Codec.integerFrom, number_toDigits (by omega) true he,
      afterInteger_natural he]
    simp only [Codec.takeInteger, hi, hl, hh, and_self, ↓reduceIte]
  · next h0 =>
    have hi : ((-i).toNat : Int) = -i := Int.toNat_of_nonneg (by omega)
    have hn : (-i).toNat ≤ Int64.minValue.toInt.natAbs := by omega
    have hm : Int64.minValue.toInt.natAbs ≤ maxSignificand := by decide
    rw [List.cons_append, Codec.readInteger, skipBlanks_cons (by decide)]
    simp only [Codec.integerFrom]
    rw [number_toDigits (hn.trans hm) false he, afterInteger_negative (by omega) hn he]
    simp only [Codec.takeInteger, hi, neg_neg, hl, hh, and_self, ↓reduceIte]

/-- A reader of a number that reads to the end does so as a reader of an integer. -/
theorem breaksOff_integerFrom {r : Reader Number} {s : List Char} (h : BreaksOff r s)
    (title : String) (low high : Int) : BreaksOff (Codec.integerFrom title low high r) s := by
  rcases h with ⟨f, t, h⟩ | ⟨n, h⟩
  · exact .inl ⟨f, t, by simp [Codec.integerFrom, h]⟩
  · cases hn : Codec.takeInteger title low high n with
    | error e => exact .inl ⟨_, [], by simp [Codec.integerFrom, h, hn]; rfl⟩
    | ok i => exact .inr ⟨i, by simp [Codec.integerFrom, h, hn]⟩

theorem breaksOff_number {n : Nat} (h : n ≤ maxSignificand) (positive : Bool) {p : List Char}
    (hp : p = [] ∨ ∃ m ≤ n, p = Nat.toDigits 10 m) : BreaksOff (number positive) p := by
  rcases hp with rfl | ⟨m, hm, rfl⟩
  · exact .inl ⟨_, _, rfl⟩
  · have hs := number_toDigits (hm.trans h) positive endsNumber_nil
    rw [List.append_nil] at hs
    cases positive
    · simp only [afterInteger, startsExponent, Bool.false_eq_true, ↓reduceIte] at hs
      split at hs
      · exact .inr ⟨_, hs⟩
      · exact .inr ⟨_, hs⟩
    · exact .inr ⟨_, hs.trans (afterInteger_natural endsNumber_nil)⟩

theorem breaksOff_readInteger {i : Int} (hx : IsExact i) {p : List Char}
    (h : IsCut p (Codec.writeInteger i)) (title : String) (low high : Int) :
    BreaksOff (Codec.readInteger title low high) p := by
  obtain ⟨hmin, hmax⟩ := hx
  have hm : Int64.minValue.toInt.natAbs ≤ maxSignificand := by decide
  unfold Codec.writeInteger at h
  split at h
  · have hp := toDigits_of_cut h
    have hb := breaksOff_number (by omega) true hp
    rcases hp with rfl | ⟨m, -, rfl⟩
    · exact .inl ⟨_, _, rfl⟩
    · have hr := readInteger_digits title low high m []
      rw [List.append_nil] at hr
      simpa only [BreaksOff, hr] using breaksOff_integerFrom hb title low high
  · rcases isCut_cons h with rfl | ⟨q, rfl, hq⟩
    · exact .inl ⟨_, _, rfl⟩
    · have hb := breaksOff_number (n := (-i).toNat) (by omega) false (toDigits_of_cut hq)
      have hr : Codec.readInteger title low high ('-' :: q) =
          Codec.integerFrom title low high (number false) q := by
        rw [Codec.readInteger, skipBlanks_cons (by decide)]
        rfl
      simpa only [BreaksOff, hr] using breaksOff_integerFrom hb title low high

/-! ## Strings -/

/-- A character that stands for itself in a string. -/
def IsPlain (c : Char) : Prop := 0x20 ≤ c.toNat ∧ c ≠ '"' ∧ c ≠ '\\'

theorem stringStep_plain {c : Char} (h : IsPlain c) (s : List Char) :
    stringStep (c :: s) = .ok (some c, s) := by
  obtain ⟨hc, hq, hb⟩ := h
  unfold stringStep
  split <;> simp_all

theorem stringRest_quote (acc t : List Char) :
    stringRest acc ('"' :: t) = (.ok (String.ofList acc.reverse), t) := by
  rw [stringRest]
  rfl

theorem stringRest_nil (acc : List Char) :
    stringRest acc [] = (.error (.here .endInText []), []) := by
  rw [stringRest]
  rfl

theorem stringRest_plain {s : List Char} (h : ∀ c ∈ s, IsPlain c) (acc t : List Char) :
    stringRest acc (s ++ t) = stringRest (s.reverse ++ acc) t := by
  induction s generalizing acc with
  | nil => rfl
  | cons c s ih =>
    have hc := stringStep_plain (h c (by simp)) (s ++ t)
    rw [List.cons_append, stringRest]
    split
    · simp_all
    · simp_all
    · next d u hd =>
      simp only [hc, Except.ok.injEq, Prod.mk.injEq, Option.some.injEq] at hd
      obtain ⟨rfl, rfl⟩ := hd
      rw [ih (fun d hd => h d (by simp [hd]))]
      simp

/-- A string without escapes is read up to its closing quote. -/
theorem string_plain {s : List Char} (h : ∀ c ∈ s, IsPlain c) (t : List Char) :
    string (s ++ '"' :: t) = (.ok (String.ofList s), t) := by
  rw [string, stringRest_plain h, stringRest_quote]
  simp

/-- Without its closing quote a string is a fault. -/
theorem string_of_cut {s p : List Char} (h : ∀ c ∈ s, IsPlain c) (hp : IsCut p (s ++ ['"'])) :
    ∃ f t, string p = (.error f, t) := by
  have hps : p <+: s := by
    rcases hp.append with hp | ⟨q, rfl, hq⟩
    · exact hp.starts
    · obtain rfl := eq_nil_of_isCut_singleton hq
      simp
  have hpl : ∀ c ∈ p, IsPlain c := fun c hc => h c (hps.subset hc)
  have hr := stringRest_plain hpl [] []
  rw [List.append_nil] at hr
  exact ⟨_, _, by rw [string, hr, stringRest_nil]⟩

end Standstill.Json
