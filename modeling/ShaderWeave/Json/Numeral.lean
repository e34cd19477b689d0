import ShaderWeave.Decimal.Nearest
import ShaderWeave.Json.Value
import ShaderWeave.Single

/-! # What a numeral stands for

A numeral without point and exponent is an integer if it fits 64 bits. As a number of a binary format a numeral stands
for the nearest one, and a magnitude beyond the largest number is refused. Of a numeral with many digits only the first
count in full, and the rest is an excess.
-/

namespace ShaderWeave.Json

/-- The largest number of 64 bits. -/
def maxWord : Nat := 18446744073709551615

/-- The number that digits write, the highest first. -/
def ofDigits (digits : List Nat) : Nat :=
  digits.foldl (fun sum digit => sum * 10 + digit) 0

namespace Numeral

/-- Whether there is neither point nor exponent. -/
def isWhole (numeral : Numeral) : Bool := numeral.fraction.isNone && numeral.exponent.isNone

/-- The power of ten that is written, or zero. -/
def exponentValue (numeral : Numeral) : Int :=
  match numeral.exponent with
  | none => 0
  | some (negative, digits) => if negative then -(ofDigits digits : Int) else (ofDigits digits : Int)

/-- What is written, without the sign. Zeros in front and at the end of a fraction do not count as digits. If there are
more than `full` of the others, one digit stands for the rest, which is an excess even if it has zeros only. -/
def magnitude (numeral : Numeral) (full : Nat) : Decimal.Scaled :=
  let fraction := ((numeral.fraction.getD []).reverse.dropWhile (· == 0)).reverse
  let digits := (numeral.whole ++ fraction).dropWhile (· == 0)
  let last := numeral.exponentValue - (fraction.length : Int)
  if digits.length ≤ full then ⟨ofDigits digits, last⟩
  else ⟨ofDigits (digits.take full ++ [1]), last + (digits.length - (full + 1) : Nat)⟩

/-- Bits of the nearest number of a binary format, without the sign. -/
def nearest? (numeral : Numeral) (format : Decimal.BinaryFormat) : Option Nat :=
  format.nearest? (numeral.magnitude format.fullDigits)

/-- The integer, if it fits a word, which is signed below zero. A zero with a sign is none. -/
def integer? (numeral : Numeral) : Option Int :=
  let magnitude := ofDigits numeral.whole
  if !numeral.isWhole then none
  else if numeral.negative then
    if 0 < magnitude && magnitude ≤ Nat.pow 2 63 then some (-(magnitude : Int)) else none
  else if magnitude ≤ maxWord then some (magnitude : Int)
  else none

/-- The nearest number in double precision. -/
def float? (numeral : Numeral) : Option Float :=
  (numeral.nearest? .double).map fun bits =>
    let size := Float.ofBits bits.toUInt64
    if numeral.negative then -size else size

/-- Whether this is a whole number below those of a signed word whose magnitude still fits one. -/
def isBelowWords (numeral : Numeral) : Bool :=
  numeral.isWhole && numeral.negative && decide (Nat.pow 2 63 < ofDigits numeral.whole) &&
    decide (ofDigits numeral.whole ≤ maxWord)

/-- The nearest number in single precision. One that is below the integers is rounded to double precision first. -/
def single? (numeral : Numeral) : Option Single :=
  if numeral.isBelowWords then numeral.float?.map Single.ofFloat
  else
    (numeral.nearest? .single).map fun bits =>
      let size : Single := ⟨bits.toUInt32⟩
      if numeral.negative then -size else size

end Numeral

end ShaderWeave.Json
