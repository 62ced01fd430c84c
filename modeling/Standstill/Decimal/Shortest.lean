import Standstill.Decimal.Binary64

/-!
# The shortest decimal that reads back

A double stands for every real that rounds to it. `Binary64.shortest` takes
the fewest digits of which some decimal lies in that interval, and of those
decimals the nearest to the double. The interval's ends belong to it exactly
when the mantissa is even. `Style` holds what a text format adds: which
magnitudes are written positionally.
-/
namespace Standstill.Binary64

/-- The reals that round to a double, in quarters of its last place: the
double itself is at `4 · mantissa`. -/
structure Interval where
  low : Nat
  value : Nat
  high : Nat
  closed : Bool

/-- The interval of a nonzero double. Just above a power of two the spacing
below is half the spacing above. -/
def interval (x : Binary64) : Interval where
  low := if x.mantissa = leadingBit ∧ minExponent < x.exponent then 4 * x.mantissa - 1
    else 4 * x.mantissa - 2
  value := 4 * x.mantissa
  high := 4 * x.mantissa + 2
  closed := x.mantissa % 2 = 0

/-- The exponent of the leading decimal digit of `num / den`, for values above `10 ^ -400`. -/
def leadingExponent (num den : Nat) : Int :=
  ((Nat.toDigits 10 (num * Nat.pow 10 400 / den)).length : Int) - 401

/-- The decimals `digits · 10 ^ exponent`. -/
structure Decimal where
  digits : Nat
  exponent : Int
deriving Repr, DecidableEq

/-- The best decimal with its last digit at `10 ^ k`, if one is in the interval. -/
def onGrid (iv : Interval) (unit : Nat × Nat) (k : Int) : Option Decimal :=
  let (p, q) := if 0 ≤ k then (Nat.pow 10 k.toNat, 1) else (1, Nat.pow 10 (-k).toNat)
  let scaled (x : Nat) : Nat := x * unit.1 * q
  let grid (c : Nat) : Nat := c * p * unit.2
  let inside (c : Nat) : Bool :=
    if iv.closed then decide (scaled iv.low ≤ grid c ∧ grid c ≤ scaled iv.high)
    else decide (scaled iv.low < grid c ∧ grid c < scaled iv.high)
  let c := scaled iv.value / (p * unit.2)
  let below := scaled iv.value - grid c
  let above := grid (c + 1) - scaled iv.value
  let lowerWins := decide (below < above) || (decide (below = above) && c % 2 == 0)
  match inside c, inside (c + 1) with
  | true, true => some ⟨if lowerWins then c else c + 1, k⟩
  | true, false => some ⟨c, k⟩
  | false, true => some ⟨c + 1, k⟩
  | false, false => none

/-- Drop trailing zeros, at most as many as there are digits. -/
def Decimal.trimmed (d : Decimal) : Nat → Decimal
  | 0 => d
  | n + 1 => if d.digits % 10 = 0 then Decimal.trimmed ⟨d.digits / 10, d.exponent + 1⟩ n else d

/-- The shortest decimal that reads back as the nonzero double `x`. -/
def shortest (x : Binary64) : Decimal :=
  let iv := x.interval
  let unit := power2 (x.exponent - 2)
  let lead := leadingExponent (iv.value * unit.1) unit.2
  let grids := (List.range 17).map fun (n : Nat) => lead - Int.ofNat n
  match grids.findSome? (onGrid iv unit) with
  | some d => d.trimmed 18
  | none => ⟨x.mantissa, x.exponent⟩

/-- How a text format writes decimals. -/
structure Style where
  /-- Leading exponents written positionally. -/
  fixedFrom : Int
  fixedTo : Int

/-- A double in a notation: positional with at least one digit after the
point, or one digit, the fraction if there is one, and an exponent with its
sign and no leading zeros. -/
def render (style : Style) (negative : Bool) (x : Binary64) : String :=
  let sign := if negative then "-" else ""
  if x.isZero then sign ++ "0.0"
  else
    let d := x.shortest
    let ds := Nat.toDigits 10 d.digits
    let lead : Int := d.exponent + ds.length - 1
    let body :=
      if style.fixedFrom ≤ lead ∧ lead ≤ style.fixedTo then
        if 0 ≤ d.exponent then
          String.ofList (ds ++ List.replicate d.exponent.toNat '0') ++ ".0"
        else if 0 ≤ lead then
          String.ofList (ds.take (lead.toNat + 1)) ++ "." ++ String.ofList (ds.drop (lead.toNat + 1))
        else
          "0." ++ String.ofList (List.replicate (-lead - 1).toNat '0' ++ ds)
      else
        let fraction := if ds.length ≤ 1 then "" else "." ++ String.ofList (ds.drop 1)
        let mark := if lead < 0 then "e-" else "e+"
        String.ofList (ds.take 1) ++ fraction ++ mark ++ toString lead.natAbs
    sign ++ body

end Standstill.Binary64
