/-!
# Rounding to double precision

A finite double is `mantissa · 2 ^ exponent` with a mantissa below `2 ^ 53`
and an exponent from `-1074` to `971`. `Binary64.nearest` rounds an exact
quotient of naturals to the nearest such value, a tie to the even mantissa,
and gives `none` beyond the largest one. Products and quotients are formed
exactly and then rounded once.

Results:
* `roundQuotient_near`: the rounded quotient is within half a unit.
-/
namespace Standstill

/-- `a / b` rounded to the nearest natural, a tie to the even one. -/
def roundQuotient (a b : Nat) : Nat :=
  let q := a / b
  let r := a % b
  if 2 * r < b then q else if b < 2 * r then q + 1 else q + q % 2

/-- The rounded quotient is within half a unit of the exact one. -/
theorem roundQuotient_near (a b : Nat) (hb : 0 < b) :
    2 * (roundQuotient a b * b) ≤ 2 * a + b ∧ 2 * a ≤ 2 * (roundQuotient a b * b) + b := by
  have hd := Nat.div_add_mod a b
  have hm := Nat.mod_lt a hb
  have h1 : (a / b + 1) * b = b * (a / b) + b := by rw [Nat.add_mul, Nat.mul_comm]; omega
  have h0 : a / b * b = b * (a / b) := Nat.mul_comm ..
  unfold roundQuotient
  simp only
  split
  · omega
  · split
    · omega
    · rcases Nat.mod_two_eq_zero_or_one (a / b) with h | h
      · rw [h, Nat.add_zero]; omega
      · rw [h, h1]; omega

/-- A nonnegative finite double, `mantissa · 2 ^ exponent`. -/
structure Binary64 where
  mantissa : Nat
  exponent : Int
deriving Repr, DecidableEq, Inhabited

namespace Binary64

/-- The least exponent: below it the spacing of doubles no longer shrinks. -/
def minExponent : Int := -1074

/-- The exponent of the largest doubles. -/
def maxExponent : Int := 971

def zero : Binary64 := ⟨0, 0⟩

def isZero (x : Binary64) : Bool := x.mantissa == 0

/-- The least mantissa of a double that is not near zero: its leading bit. -/
def leadingBit : Nat := 1 <<< 52

/-- `2 ^ k` as a numerator and a denominator. -/
def power2 (k : Int) : Nat × Nat :=
  if 0 ≤ k then (1 <<< k.toNat, 1) else (1, 1 <<< (-k).toNat)

/-- The double nearest to `num / den`; `none` if it is beyond all doubles. -/
def nearest (num den : Nat) : Option Binary64 :=
  if num = 0 then some zero
  else
    let magnitude : Int := (Nat.log2 num : Int) - Nat.log2 den
    let low := magnitude - 53
    let units (q : Int) : Nat × Nat :=
      let (n, d) := power2 q
      (num * d, den * n)
    let (n, d) := units low
    let q := max (if n / d < 2 * leadingBit then low else low + 1) minExponent
    let (n, d) := units q
    let m := roundQuotient n d
    let (m, q) := if m = 2 * leadingBit then (leadingBit, q + 1) else (m, q)
    if maxExponent < q then none else some ⟨m, q⟩

/-- The rounded product; `none` if it is too large. -/
def mul (x y : Binary64) : Option Binary64 :=
  let (n, d) := power2 (x.exponent + y.exponent)
  nearest (x.mantissa * y.mantissa * n) d

/-- The rounded quotient; `none` if it is too large. -/
def div (x y : Binary64) : Option Binary64 :=
  let (n, d) := power2 (x.exponent - y.exponent)
  nearest (x.mantissa * n) (y.mantissa * d)

/-- The double nearest to `10 ^ k`; past the largest double, the largest power of ten there is. -/
def powerOfTen (k : Nat) : Binary64 := (nearest (Nat.pow 10 (min k 308)) 1).getD zero

/-- `x · 10 ^ k`, by one product or quotient where `10 ^ k` is a double, and by
steps of `10 ^ 308` below that. `none` if it is too large. -/
def scale (x : Binary64) (k : Int) : Option Binary64 :=
  if k.natAbs ≤ 308 then
    if 0 ≤ k then x.mul (powerOfTen k.natAbs) else x.div (powerOfTen k.natAbs)
  else if x.isZero then some x
  else if 0 ≤ k then none
  else match x.div (powerOfTen 308) with
    | none => none
    | some y => y.scale (k + 308)
termination_by k.natAbs

end Binary64

end Standstill
