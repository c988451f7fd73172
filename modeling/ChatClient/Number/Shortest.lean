import ChatClient.Number.Binary64

/-!
# The shortest decimal that reads back

The reals that round to a given float form an interval around it. Among the decimals in that
interval the shortest ones are taken, and of those the nearest to the float. The search goes
through the decimal grids with 1, 2, ... 17 digits and tests the two grid points around the value,
all in natural-number arithmetic.
-/

namespace ChatClient

/-- The decimal `digits * 10 ^ exponent`. -/
structure DecimalDigits where
  digits : Nat
  exponent : Int
deriving DecidableEq, Repr

namespace Shortest

/-- The reals that round to a float, over the common denominator `den`: the float is `value`, the
interval reaches from `value - below` to `value + above`, its ends included when `closed`. -/
structure Interval where
  den : Nat
  value : Nat
  below : Nat
  above : Nat
  closed : Bool
deriving Repr

/-- The interval of a positive float. The gap below a power of two is half the gap above it, except
at the bottom of the range. Ends round to the float when its mantissa is even. -/
def Interval.of (d : DyadicRational) : Interval :=
  let p := Nat.pow 2 d.exponent.toNat
  let n := Nat.pow 2 (-d.exponent).toNat
  let narrow := d.mantissa = FloatParts.hiddenOne ∧ -1074 < d.exponent
  { den := 4 * n
    value := 4 * d.mantissa * p
    below := if narrow then p else 2 * p
    above := 2 * p
    closed := d.mantissa % 2 == 0 }

/-- The number of decimal places after which `num / den` reaches one. -/
def placesBelowOne : Nat → Nat → Nat → Nat
  | 0, _, _ => 0
  | fuel + 1, num, den => if den ≤ num then 0 else placesBelowOne fuel (10 * num) den + 1

/-- The exponent of the leading decimal digit of `num / den`. -/
def leadingExponent (num den : Nat) : Int :=
  if den ≤ num then ((Nat.toDigits 10 (num / den)).length : Int) - 1
  else -(placesBelowOne 400 num den : Int)

/-- The point `distance` away lies in the interval. -/
def Interval.reaches (i : Interval) (distance reach : Nat) : Bool :=
  if i.closed then distance ≤ reach else distance < reach

/-- The grid point to take on the grid of multiples of `10 ^ k`, if one lies in the interval. -/
def Interval.onGrid (i : Interval) (k : Int) : Option Nat :=
  let scale := Nat.pow 10 (-k).toNat
  let unit := i.den * Nat.pow 10 k.toNat
  let value := i.value * scale
  let low := value / unit
  let toLow := value - low * unit
  let toHigh := (low + 1) * unit - value
  let lowIn := i.reaches toLow (i.below * scale) && low != 0
  let highIn := i.reaches toHigh (i.above * scale)
  -- of two points in the interval the nearer is taken, on a tie the even one
  if lowIn && highIn then
    if toLow < toHigh then some low
    else if toHigh < toLow then some (low + 1)
    else some (low + low % 2)
  else if lowIn then some low
  else if highIn then some (low + 1)
  else none

/-- The search over the grids with `n` more digits to try; `k` is the exponent of the next one. -/
def search (i : Interval) : Nat → Int → DecimalDigits
  | 0, k => ⟨roundHalfEven (i.value * Nat.pow 10 (-k).toNat) (i.den * Nat.pow 10 k.toNat), k⟩
  | n + 1, k =>
      match i.onGrid k with
      | some c => ⟨c, k⟩
      | none => search i n (k - 1)

/-- The digits without zeros at the end. -/
def dropZeros : Nat → DecimalDigits → DecimalDigits
  | 0, d => d
  | fuel + 1, d =>
      if d.digits ≠ 0 ∧ d.digits % 10 = 0 then dropZeros fuel ⟨d.digits / 10, d.exponent + 1⟩
      else d

end Shortest

open Shortest in
/-- The shortest decimal that reads back as the given positive float. -/
def DyadicRational.shortest (d : DyadicRational) : DecimalDigits :=
  let i := Interval.of d
  dropZeros 20 (search i 17 (leadingExponent i.value i.den))

end ChatClient
