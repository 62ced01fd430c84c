import Standstill.Net.Ipv4

/-!
# Values of options

How the text given for an option is read, and why it may be refused.
Integers take a sign where their type has one, a plus sign always, and any
number of leading zeros. Their digits are read from the left, and the first
fault met is the one reported.

Results:
* `readDigits_toDigits`: the decimal numeral of a number within the limit is
  read as that number.
-/
namespace Standstill.CommandLine

/-- Why a text is no integer of a type. -/
inductive IntegerFault
  | empty
  | badDigit
  | tooLarge
  | tooSmall
deriving Repr, DecidableEq

def IntegerFault.message : IntegerFault → String
  | .empty => "cannot parse integer from empty string"
  | .badDigit => "invalid digit found in string"
  | .tooLarge => "number too large to fit in target type"
  | .tooSmall => "number too small to fit in target type"

/-- Why a text is no value of an option. -/
inductive Refusal
  /-- The text is empty where that stands for none. -/
  | missing
  | notAChoice
  | integer (f : IntegerFault)
  /-- An integer outside the range from zero to `last`. -/
  | outside (value : Int) (last : Nat)
  | notAnAddress
deriving Repr, DecidableEq

/-- The digits that are left of a number of which `acc` is read, up to
`limit`; `beyond` is the fault of a number beyond it. -/
def readDigits (limit : Nat) (beyond : IntegerFault) : Nat → List Char → Except IntegerFault Nat
  | acc, [] => .ok acc
  | acc, c :: s =>
    if c.isDigit then
      let v := acc * 10 + (c.toNat - '0'.toNat)
      if limit < v then .error beyond else readDigits limit beyond v s
    else .error .badDigit

/-- A row of at least one digit. -/
def readNatural (limit : Nat) (beyond : IntegerFault) : List Char → Except IntegerFault Nat
  | [] => .error .badDigit
  | s => readDigits limit beyond 0 s

/-- A natural number up to `limit`. -/
def readUnsigned (limit : Nat) (s : String) : Except IntegerFault Nat :=
  match s.toList with
  | [] => .error .empty
  | '+' :: t => readNatural limit .tooLarge t
  | t => readNatural limit .tooLarge t

def largestSigned : Nat := Int64.maxValue.toInt.toNat

/-- An integer of 64 bits. -/
def readSigned (s : String) : Except IntegerFault Int :=
  match s.toList with
  | [] => .error .empty
  | '+' :: t => (readNatural largestSigned .tooLarge t).map Int.ofNat
  | '-' :: t => (readNatural (largestSigned + 1) .tooSmall t).map fun n => -(n : Int)
  | t => (readNatural largestSigned .tooLarge t).map Int.ofNat

/-! ## Readers of values -/

/-- An integer from zero to `last`, read as one of 64 bits first. -/
def ranged (last : Nat) (s : String) : Except Refusal Nat :=
  match readSigned s with
  | .error f => .error (.integer f)
  | .ok i => if 0 ≤ i ∧ i ≤ last then .ok i.toNat else .error (.outside i last)

def port (s : String) : Except Refusal UInt16 := (ranged (UInt16.size - 1) s).map UInt16.ofNat

def count (s : String) : Except Refusal UInt32 := (ranged (UInt32.size - 1) s).map UInt32.ofNat

def size (s : String) : Except Refusal UInt64 :=
  match readUnsigned (UInt64.size - 1) s with
  | .error f => .error (.integer f)
  | .ok n => .ok (UInt64.ofNat n)

def address (s : String) : Except Refusal Ipv4 :=
  match Ipv4.parse? s with
  | some ip => .ok ip
  | none => .error .notAnAddress

/-- One of some values, by its name. -/
def choice {α : Type} (all : List α) (name : α → String) (s : String) : Except Refusal α :=
  match all.find? fun a => name a = s with
  | some a => .ok a
  | none => .error (if s = "" then .missing else .notAChoice)

/-- A path, which is any text but the empty one. -/
def path (s : String) : Except Refusal String := if s = "" then .error .missing else .ok s

/-! ## Numerals -/

theorem readDigits_append (limit : Nat) (beyond : IntegerFault) (acc v : Nat) (s t : List Char)
    (h : readDigits limit beyond acc s = .ok v) :
    readDigits limit beyond acc (s ++ t) = readDigits limit beyond v t := by
  induction s generalizing acc with
  | nil => cases h; rfl
  | cons c s ih =>
    simp only [readDigits] at h
    split at h
    · rename_i hd
      split at h
      · cases h
      · rename_i hv
        simp only [List.cons_append, readDigits, hd, ↓reduceIte, hv]
        exact ih _ h
    · cases h

theorem toNat_digitChar {n : Nat} (h : n < 10) :
    (Nat.digitChar n).isDigit = true ∧ (Nat.digitChar n).toNat - '0'.toNat = n := by
  have : n = 0 ∨ n = 1 ∨ n = 2 ∨ n = 3 ∨ n = 4 ∨ n = 5 ∨ n = 6 ∨ n = 7 ∨ n = 8 ∨ n = 9 := by omega
  rcases this with rfl | rfl | rfl | rfl | rfl | rfl | rfl | rfl | rfl | rfl <;> decide

theorem readDigits_toDigits {limit : Nat} (beyond : IntegerFault) {n : Nat} (h : n ≤ limit) :
    readDigits limit beyond 0 (Nat.toDigits 10 n) = .ok n := by
  induction n using Nat.strongRecOn with
  | ind n ih =>
    by_cases hn : n < 10
    · obtain ⟨h1, h2⟩ := toNat_digitChar hn
      rw [Nat.toDigits_of_lt_base hn]
      simp only [readDigits, h1, h2, ↓reduceIte, Nat.zero_mul, Nat.zero_add, Nat.not_lt.2 h]
    · obtain ⟨h1, h2⟩ := toNat_digitChar (Nat.mod_lt n (by decide : 0 < 10))
      have hq : n / 10 < n := Nat.div_lt_self (by omega) (by decide)
      rw [Nat.toDigits_of_base_le (by decide) (by omega),
        readDigits_append _ _ _ _ _ _ (ih _ hq (by omega))]
      have hv : n / 10 * 10 + n % 10 = n := by omega
      simp only [readDigits, h1, h2, ↓reduceIte, hv, Nat.not_lt.2 h]

end Standstill.CommandLine
