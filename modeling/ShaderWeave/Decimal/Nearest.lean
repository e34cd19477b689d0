/-! # Nearest binary numbers

The number of a binary format that is nearest to a decimal. A decimal is a quotient of whole numbers, which is rounded
once: to a multiple of the last place that numbers of its size have, and half way to the even one.
-/

namespace ShaderWeave.Decimal

/-- A decimal `digits · 10^exponent`. -/
structure Scaled where
  digits : Nat
  exponent : Int
  deriving DecidableEq, Repr

/-- A binary format. Its numbers from zero on, in order, have the bits 0, 1, 2 and so on. -/
structure BinaryFormat where
  /-- How many bits a significand has, with its leading one. -/
  precision : Nat
  /-- Exponent of the last place of the smallest numbers. -/
  leastPlace : Int
  /-- Bits of infinity, which follows the largest number. -/
  infinity : Nat
  /-- How many digits of a decimal count in full. A point half way between two numbers has no more. -/
  fullDigits : Nat
  deriving DecidableEq, Repr

/-- The whole number nearest to a quotient, and the even one of two. -/
def roundedQuotient (numerator denominator : Nat) : Nat :=
  let below := numerator / denominator
  let rest := 2 * (numerator % denominator)
  if denominator < rest ∨ (rest = denominator ∧ below % 2 = 1) then below + 1 else below

/-- The largest exponent of two that does not exceed a quotient other than zero. -/
def floorLog (numerator denominator : Nat) : Int :=
  let guess : Int := (numerator.log2 : Int) - (denominator.log2 : Int)
  if numerator * Nat.pow 2 (-guess).toNat < denominator * Nat.pow 2 guess.toNat then guess - 1 else guess

namespace BinaryFormat

def single : BinaryFormat := ⟨24, -149, 0x7F800000, 113⟩

def double : BinaryFormat := ⟨53, -1074, 0x7FF0000000000000, 768⟩

/-- Bits of the number nearest to a quotient, unless that is infinite. A significand that is rounded up to a power of
two runs over into the next exponent, as it should. -/
def nearestQuotient? (format : BinaryFormat) (numerator denominator : Nat) : Option Nat :=
  let place := max format.leastPlace (floorLog numerator denominator + 1 - format.precision)
  let significand :=
    roundedQuotient (numerator * Nat.pow 2 (-place).toNat) (denominator * Nat.pow 2 place.toNat)
  let bits := (place - format.leastPlace).toNat * Nat.pow 2 (format.precision - 1) + significand
  if bits < format.infinity then some bits else none

/-- Bits of the number nearest to a decimal, unless that is infinite. A decimal of `n` bits has at most `n / 3 + 1`
digits, and numbers from 10^400 on, or below 10^(-400), are beyond both formats, whatever their digits. -/
def nearest? (format : BinaryFormat) (decimal : Scaled) : Option Nat :=
  if decimal.digits = 0 then some 0
  else if 400 < decimal.exponent then none
  else if ((decimal.digits.log2 + 1) / 3 + 1 : Nat) + decimal.exponent < -400 then some 0
  else
    format.nearestQuotient? (decimal.digits * Nat.pow 10 decimal.exponent.toNat)
      (Nat.pow 10 (-decimal.exponent).toNat)

end BinaryFormat

/-! ## The rounding of quotients -/

/-- A rounded quotient is off by half a unit at most. -/
theorem roundedQuotient_within (numerator : Nat) {denominator : Nat} (positive : 0 < denominator) :
    2 * (denominator * roundedQuotient numerator denominator) ≤ 2 * numerator + denominator ∧
      2 * numerator ≤ 2 * (denominator * roundedQuotient numerator denominator) + denominator := by
  have whole := Nat.div_add_mod numerator denominator
  have rest := Nat.mod_lt numerator positive
  unfold roundedQuotient
  dsimp only
  split
  · rw [Nat.mul_add]
    omega
  · omega

end ShaderWeave.Decimal
