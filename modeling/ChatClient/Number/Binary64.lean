/-!
# Binary floating-point numbers, taken apart

A finite 64-bit float is a sign and a dyadic rational `mantissa * 2 ^ exponent`. Everything that
needs the exact value of a float (its shortest decimal text, its length of time in nanoseconds)
works on that rational in natural-number arithmetic.
-/

namespace ChatClient

/-- A non-negative dyadic rational `mantissa * 2 ^ exponent`. -/
structure DyadicRational where
  mantissa : Nat
  exponent : Int
deriving DecidableEq, Repr

/-- The parts of a float. -/
inductive FloatParts where
  | nan
  | infinite (negative : Bool)
  | finite (negative : Bool) (magnitude : DyadicRational)
deriving DecidableEq, Repr

namespace FloatParts

/-- The place value of the hidden one, which stands above the 52 bits of a mantissa. -/
def hiddenOne : Nat := 0x10000000000000

/-- The parts of the float with the given bits: one sign bit, eleven exponent bits with bias 1075
for an integral mantissa, and 52 mantissa bits under a hidden one. -/
def ofBits (bits : UInt64) : FloatParts :=
  let n := bits.toNat
  let negative := n >>> 63 == 1
  let biased : Nat := n / hiddenOne % 2048
  let fraction : Nat := n % hiddenOne
  if biased = 2047 then
    if fraction = 0 then .infinite negative else .nan
  else if biased = 0 then .finite negative ⟨fraction, -1074⟩
  else .finite negative ⟨hiddenOne + fraction, (biased : Int) - 1075⟩

/-- The parts of a float. -/
def ofFloat (x : Float) : FloatParts := ofBits x.toBits

end FloatParts

namespace DyadicRational

/-- Numerator of the value as a quotient of natural numbers. -/
def num (d : DyadicRational) : Nat := d.mantissa * Nat.pow 2 d.exponent.toNat

/-- Denominator of the value as a quotient of natural numbers. -/
def den (d : DyadicRational) : Nat := Nat.pow 2 (-d.exponent).toNat

theorem den_pos (d : DyadicRational) : 0 < d.den := Nat.two_pow_pos _

end DyadicRational

/-- The natural number nearest to `num / den`; a tie goes to the even neighbour. -/
def roundHalfEven (num den : Nat) : Nat :=
  let q := num / den
  let r := num % den
  if 2 * r < den then q
  else if 2 * r = den then q + q % 2
  else q + 1

/-- The result is within half a unit of the quotient. -/
theorem roundHalfEven_within (num den : Nat) (h : 0 < den) :
    2 * num ≤ 2 * (roundHalfEven num den) * den + den ∧
      2 * (roundHalfEven num den) * den ≤ 2 * num + den := by
  have hr := Nat.mod_lt num h
  have hq := Nat.div_add_mod num den
  generalize num / den = q at hq
  generalize num % den = r at hr hq
  subst hq
  have key : ∀ k, roundHalfEven (den * q + r) den = q + k →
      2 * r ≤ 2 * k * den + den → 2 * k * den ≤ 2 * r + den →
      2 * (den * q + r) ≤ 2 * (roundHalfEven (den * q + r) den) * den + den ∧
        2 * (roundHalfEven (den * q + r) den) * den ≤ 2 * (den * q + r) + den := by
    intro k hk h1 h2
    rw [hk]
    have e : 2 * (q + k) * den = 2 * (den * q) + 2 * k * den := by
      rw [Nat.mul_add, Nat.add_mul, Nat.mul_assoc 2 q den, Nat.mul_comm q den]
    omega
  have hdiv : (den * q + r) / den = q := by
    rw [Nat.mul_add_div h, Nat.div_eq_of_lt hr, Nat.add_zero]
  have hmod : (den * q + r) % den = r := by
    rw [Nat.mul_add_mod, Nat.mod_eq_of_lt hr]
  by_cases h1 : 2 * r < den
  · exact key 0 (by simp [roundHalfEven, hdiv, hmod, h1]) (by omega) (by omega)
  · by_cases h2 : 2 * r = den
    · refine key (q % 2) (by simp [roundHalfEven, hdiv, hmod, h2]) ?_ ?_
      · rw [h2]; exact Nat.le_add_left _ _
      · have : q % 2 ≤ 1 := by omega
        calc 2 * (q % 2) * den ≤ 2 * 1 * den := by
              exact Nat.mul_le_mul_right _ (Nat.mul_le_mul_left _ this)
          _ ≤ 2 * r + den := by omega
    · exact key 1 (by simp [roundHalfEven, hdiv, hmod, h1, h2]) (by omega) (by omega)

end ChatClient
