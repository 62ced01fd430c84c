import Mathlib
import Standstill.Proofs.Json.Words
import Standstill.Proofs.Text.Ascii
import Standstill.Socket.Role

/-!
# Codecs that read back what they write

A codec is faithful to a value if it reads the value back from the text it
writes for it, whatever follows, and if it does not take a cut of that text
for a value with something left after it. The codecs of words and names are
faithful; those of records are once their fields are.

Results:
* `Faithful.via`, `faithful_integer`, `faithful_word`: numbers.
* `faithful_formatted`: texts of a fixed form.
* `faithful_unit`, `faithful_named`: names.
-/
namespace Standstill.Json

/-- The characters of a name: visible, and standing for themselves in a string. -/
def IsNameChar (c : Char) : Prop := IsVisible c ∧ c ≠ '"' ∧ c ≠ '\\'

instance (c : Char) : Decidable (IsNameChar c) := inferInstanceAs (Decidable (_ ∧ _))

theorem IsNameChar.isPlain {c : Char} (h : IsNameChar c) : IsPlain c := ⟨h.1.1.le, h.2⟩

namespace Codec

variable {α β : Type}

/-- A value that is read back from what is written for it. -/
structure Faithful (c : Codec α) (a : α) : Prop where
  /-- Whatever follows that does not go on with a number. -/
  read_back : ∀ rest, EndsNumber rest → c.read (c.write a ++ rest) = (.ok a, rest)
  /-- A cut of the text is no value that ends before it does. -/
  breaks_off : ∀ p, IsCut p (c.write a) → BreaksOff c.read p
  visible : ∀ ch ∈ c.write a, IsVisible ch

theorem Faithful.via {c : Codec α} {f : α → β} {g : β → α} {b : β} (h : c.Faithful (g b))
    (hfg : f (g b) = b) : (c.via f g).Faithful b where
  read_back rest he := by
    change (c.read >>= fun a => pure (f a)) (c.write (g b) ++ rest) = _
    rw [Reader.bind_apply, h.read_back rest he]
    simp [Reader.pure_apply, hfg]
  breaks_off p hp := (h.breaks_off p hp).map f
  visible := h.visible

/-! ## Integers -/

theorem visible_writeInteger (i : Int) : ∀ c ∈ writeInteger i, IsVisible c := by
  intro c hc
  unfold writeInteger at hc
  split at hc
  · exact isVisible_of_isDigit (Nat.isDigit_of_mem_toDigits (by decide) (by decide) hc)
  · rcases List.mem_cons.1 hc with rfl | hc
    · decide
    · exact isVisible_of_isDigit (Nat.isDigit_of_mem_toDigits (by decide) (by decide) hc)

theorem faithful_integer {title : String} {low high i : Int} (hl : low ≤ i) (hh : i ≤ high)
    (hx : IsExact i) : (integer title low high).Faithful i where
  read_back _ he := readInteger_writeInteger hl hh hx he
  breaks_off _ hp := breaksOff_readInteger hx hp title low high
  visible := visible_writeInteger i

/-- Numbers of a word, which are those below a bound. -/
theorem faithful_word {title : String} {bound : Int} {f : Int → β} {g : β → Int} {b : β}
    (h0 : 0 ≤ g b) (hlt : g b < bound) (hbound : bound ≤ UInt64.size) (hfg : f (g b) = b) :
    ((integer title 0 (bound - 1)).via f g).Faithful b := by
  have hmin : Int64.minValue.toInt ≤ 0 := by decide
  have hexact : IsExact (g b) := by
    refine ⟨by omega, ?_⟩
    simp only [maxSignificand, UInt64.size] at hbound ⊢
    omega
  exact (faithful_integer h0 (by omega) hexact).via hfg

theorem faithful_word16 (w : UInt16) : word16.Faithful w :=
  faithful_word (by omega) (Int.ofNat_lt.2 w.toNat_lt) (by decide) (by simp)

theorem faithful_word32 (w : UInt32) : word32.Faithful w :=
  faithful_word (by omega) (Int.ofNat_lt.2 w.toNat_lt) (by decide) (by simp)

theorem faithful_word64 (w : UInt64) : word64.Faithful w :=
  faithful_word (by omega) (Int.ofNat_lt.2 w.toNat_lt) (by decide) (by simp)

theorem faithful_size (w : UInt64) : size.Faithful w :=
  faithful_word (by omega) (Int.ofNat_lt.2 w.toNat_lt) (by decide) (by simp)

theorem faithful_signed32 (w : Int32) : signed32.Faithful w := by
  have hmin : Int64.minValue.toInt ≤ Int32.minValue.toInt := by decide
  have hmax : Int32.maxValue.toInt ≤ maxSignificand := by decide
  have hexact : IsExact w.toInt := ⟨hmin.trans w.minValue_le_toInt, w.toInt_le.trans hmax⟩
  exact (faithful_integer w.minValue_le_toInt w.toInt_le hexact).via (by simp)

/-! ## Texts of a fixed form -/

/-- A text in quotes that needs no escapes is read up to its closing quote, and a cut of it is a
fault. -/
theorem faithful_formatted {title reason : String} {parse : String → Option α} {print : α → String}
    {a : α} (hparse : parse (print a) = some a) (hchars : ∀ c ∈ (print a).toList, IsNameChar c) :
    (formatted title reason parse print).Faithful a where
  read_back rest _ := by
    have hs := string_plain (fun c hc => (hchars c hc).isPlain) rest
    rw [String.ofList_toList] at hs
    change (formatted title reason parse print).read
      ('"' :: ((print a).toList ++ ['"']) ++ rest) = _
    rw [List.cons_append, List.append_assoc]
    simp only [formatted, skipBlanks_cons (show isJsonBlank '"' = false by decide)]
    simp [hs, hparse]
  breaks_off p hp := by
    rcases isCut_cons hp with rfl | ⟨q, rfl, hq⟩
    · exact .inl ⟨_, _, rfl⟩
    · obtain ⟨f, t, hs⟩ := string_of_cut (fun c hc => (hchars c hc).isPlain) hq
      refine .inl ⟨f, t, ?_⟩
      simp only [formatted, skipBlanks_cons (show isJsonBlank '"' = false by decide), hs]
  visible c hc := by
    simp only [formatted, List.mem_cons, List.mem_append, List.not_mem_nil, or_false] at hc
    rcases hc with rfl | hc | rfl
    · decide
    · exact (hchars c hc).1
    · decide

end Codec

/-! ## Names -/

namespace Choices

variable {α : Type}

/-- A name among the choices is read with what comes with it. -/
theorem name_of_lookup {c : Choices α} {name : String} {p : Payload α}
    (hlookup : c.options.lookup name = some p) (hname : ∀ ch ∈ name.toList, IsNameChar ch)
    (rest : List Char) : c.name (name.toList ++ '"' :: rest) = (.ok p, rest) := by
  have hs := string_plain (fun ch hc => (hname ch hc).isPlain) rest
  simp [Choices.name, placing, Reader.bind_apply, hs, hlookup, Reader.pure_apply]

/-- A name that is cut off is a fault. -/
theorem name_of_cut {name : String} (hname : ∀ ch ∈ name.toList, IsNameChar ch) {p : List Char}
    (hp : IsCut p (name.toList ++ ['"'])) (c : Choices α) : ∃ f t, c.name p = (.error f, t) := by
  obtain ⟨f, t, hs⟩ := string_of_cut (fun ch hc => (hname ch hc).isPlain) hp
  exact ⟨f.placedAt t, t, by simp [Choices.name, placing, Reader.bind_apply, hs]⟩

/-- A value written as a name alone. -/
theorem faithful_unit {c : Choices α} {name : String} {a : α}
    (hlookup : c.options.lookup name = some (.unit a))
    (hwrite : c.write a = '"' :: (name.toList ++ ['"']))
    (hname : ∀ ch ∈ name.toList, IsNameChar ch) : c.codec.Faithful a where
  read_back rest _ := by
    change c.read (c.write a ++ rest) = _
    rw [hwrite, List.cons_append, List.append_assoc, Choices.read, skipBlanks_cons (by decide)]
    simp [Reader.bind_apply, name_of_lookup hlookup hname, Reader.pure_apply]
  breaks_off p hp := by
    rw [show c.codec.write a = _ from hwrite] at hp
    rcases isCut_cons hp with rfl | ⟨q, rfl, hq⟩
    · exact .inl ⟨_, _, rfl⟩
    · obtain ⟨f, t, hn⟩ := name_of_cut hname hq c
      refine .inl ⟨f, t, ?_⟩
      change c.read ('"' :: q) = _
      rw [Choices.read, skipBlanks_cons (by decide)]
      simp [Reader.bind_apply, hn]
  visible ch hc := by
    rw [show c.codec.write a = _ from hwrite] at hc
    simp only [List.mem_cons, List.mem_append, List.not_mem_nil, or_false] at hc
    rcases hc with rfl | hc | rfl
    · decide
    · exact (hname ch hc).1
    · decide

variable {all : List α} {name : α → String}

theorem lookup_named (hinj : ∀ a ∈ all, ∀ b ∈ all, name a = name b → a = b) {a : α}
    (ha : a ∈ all) : (named all name).options.lookup (name a) = some (.unit a) := by
  induction all with
  | nil => cases ha
  | cons b all ih =>
    simp only [named, List.map_cons, List.lookup_cons] at ih ⊢
    by_cases hb : name a = name b
    · obtain rfl := hinj a ha b (by simp) hb
      simp
    · rw [beq_eq_false_iff_ne.2 hb]
      rcases List.mem_cons.1 ha with rfl | ha
      · exact absurd rfl hb
      · exact ih (fun c hc d hd => hinj c (by simp [hc]) d (by simp [hd])) ha

/-- Values written as distinct names are read back. -/
theorem faithful_named (hinj : ∀ a ∈ all, ∀ b ∈ all, name a = name b → a = b)
    (hname : ∀ a ∈ all, ∀ c ∈ (name a).toList, IsNameChar c) {a : α} (ha : a ∈ all) :
    (named all name).codec.Faithful a :=
  faithful_unit (lookup_named hinj ha) rfl (hname a ha)

end Choices

end Standstill.Json
