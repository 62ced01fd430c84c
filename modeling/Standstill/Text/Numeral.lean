/-!
# Numerals

Reading the digits at the start of a text, in a radix up to sixteen, and the
limits that a format sets on them. Then which texts are numbers in decimal
notation, with a fraction or an exponent or without.

Results:
* `spanDigits_append`: the digits and the rest are the whole text.
* `isNumber_dropSign`: a sign does not make a number.
-/
namespace Standstill

/-- The value of a digit in a radix up to sixteen. -/
def digit? (radix : Nat) (c : Char) : Option Nat :=
  let v? :=
    if c.isDigit then some (c.toNat - '0'.toNat)
    else if 'a' ≤ c ∧ c ≤ 'f' then some (c.toNat - 'a'.toNat + 10)
    else if 'A' ≤ c ∧ c ≤ 'F' then some (c.toNat - 'A'.toNat + 10)
    else none
  v?.filter (· < radix)

/-- The digits a text starts with, and the rest. -/
def spanDigits (radix : Nat) (s : List Char) : List Char × List Char :=
  (s.takeWhile fun c => (digit? radix c).isSome, s.dropWhile fun c => (digit? radix c).isSome)

/-- The value of a row of digits. -/
def valueOfDigits (radix : Nat) (ds : List Char) : Nat :=
  ds.foldl (fun v c => v * radix + (digit? radix c).getD 0) 0

/-- What a format asks of a numeral. -/
structure NumeralForm where
  radix : Nat
  /-- Digits it has at most, if there is a limit. -/
  maxDigits : Option Nat
  /-- Whether a zero may precede other digits. -/
  leadingZeros : Bool
  /-- The first value that is too large. -/
  bound : Nat

/-- The numeral at the start of a text. It ends where the digits end. -/
def NumeralForm.read (form : NumeralForm) (s : List Char) : Option (Nat × List Char) :=
  let (ds, t) := spanDigits form.radix s
  let v := valueOfDigits form.radix ds
  if ds = [] ∨ form.maxDigits.any (· < ds.length) ∨
      (form.leadingZeros = false ∧ ds.head? = some '0' ∧ 1 < ds.length) ∨ form.bound ≤ v then none
  else some (v, t)

theorem spanDigits_append (radix : Nat) (s : List Char) :
    (spanDigits radix s).1 ++ (spanDigits radix s).2 = s := by
  simp [spanDigits]

/-- The rest of a text that starts with exactly these characters. -/
def expectChar (c : Char) : List Char → Option (List Char)
  | d :: s => if c = d then some s else none
  | [] => none

/-! ## Decimal notation -/

/-- A text from after its sign, if it has one. -/
def dropSign : List Char → List Char
  | '+' :: s | '-' :: s => s
  | s => s

/-- An exponent, or nothing. -/
def isExponent : List Char → Bool
  | [] => true
  | c :: s =>
    let ds := dropSign s
    (c = 'e' || c = 'E') && !ds.isEmpty && ds.all Char.isDigit

/-- Digits with at most one point among or around them, and perhaps an exponent. -/
def isDecimal (s : List Char) : Bool :=
  let (whole, t) := spanDigits 10 s
  let (fraction, rest) := match t with
    | '.' :: u => spanDigits 10 u
    | u => ([], u)
  (!whole.isEmpty || !fraction.isEmpty) && isExponent rest

/-- Words, in letters of any case, that stand for numbers without digits. -/
def numberWords : List String := ["inf", "infinity", "nan"]

/-- A number, with a sign or without. -/
def isNumber (s : List Char) : Bool :=
  let t := dropSign s
  isDecimal t || decide (String.ofList (t.map Char.toLower) ∈ numberWords)

theorem isNumber_dropSign {c : Char} (hc : c = '+' ∨ c = '-') {s : List Char}
    (hs : s.head? ≠ some '+' ∧ s.head? ≠ some '-') : isNumber (c :: s) = isNumber s := by
  have h : dropSign s = s := by
    unfold dropSign
    split
    · exact absurd rfl hs.1
    · exact absurd rfl hs.2
    · rfl
  rcases hc with rfl | rfl <;> rw [isNumber, isNumber, h] <;> rfl

end Standstill
