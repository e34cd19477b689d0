import ShaderWeave.Decimal.Nearest
import ShaderWeave.Single

/-! # Shortest decimals

The decimal with the fewest digits among those that read back as a given single precision number, and of these the
nearest to it. All decimals that read back lie between the midpoints to the two neighbouring numbers. On the
grid of the multiples of a power of ten it is enough to try the two points around the number, and grids are tried
from the coarsest.

`Format` decides how the digits are written; `Format.text` writes them.
-/

namespace ShaderWeave.Decimal

/-- The magnitude `significand · 2^exponent` of a finite number. -/
structure Binary where
  significand : Nat
  exponent : Int
  /-- Whether the next number below is only half as far away as the next one above. -/
  closeBelow : Bool
  deriving DecidableEq, Repr

def binaryOf (value : Single) : Binary :=
  let magnitude := value.magnitude.toNat
  let fraction := magnitude % Nat.pow 2 23
  let exponent := magnitude / Nat.pow 2 23
  if exponent = 0 then ⟨fraction, -149, false⟩
  else ⟨Nat.pow 2 23 + fraction, Int.ofNat exponent - 150, fraction == 0 && decide (1 < exponent)⟩

/-- Whether `digits` steps of the grid read back, where one step is `step` and the number is `four` in quarter
units. The midpoints themselves read back when the significand is even. -/
def readsBack (binary : Binary) (four scale step digits : Nat) : Bool :=
  let low := (four - if binary.closeBelow then 1 else 2) * scale
  let high := (four + 2) * scale
  let point := digits * step
  if binary.significand % 2 = 0 then low ≤ point && point ≤ high else low < point && point < high

/-- The nearer of the two grid points around the number that read back; the even one if they are equally near. -/
def onGrid? (binary : Binary) (exponent : Int) : Option Nat :=
  let four := 4 * binary.significand
  let scale := Nat.pow 2 (binary.exponent - 2).toNat * Nat.pow 10 (-exponent).toNat
  let step := Nat.pow 2 (2 - binary.exponent).toNat * Nat.pow 10 exponent.toNat
  let below := four * scale / step
  let above := below + 1
  match readsBack binary four scale step below, readsBack binary four scale step above with
  | false, false => none
  | true, false => some below
  | false, true => some above
  | true, true =>
    let toBelow := four * scale - below * step
    let toAbove := above * step - four * scale
    if toBelow < toAbove then some below
    else if toAbove < toBelow then some above
    else if below % 2 = 0 then some below
    else some above

/-- Tries `count` grids from `exponent` downwards. -/
def search (binary : Binary) : Nat → Int → Scaled
  | 0, exponent => ⟨0, exponent⟩
  | count + 1, exponent =>
    match onGrid? binary exponent with
    | some digits => if digits = 0 then search binary count (exponent - 1) else ⟨digits, exponent⟩
    | none => search binary count (exponent - 1)

/-- The shortest decimal of a finite number other than zero. All single precision numbers are less than 10^39 and
none needs digits below 10^(-60). -/
def shortest (value : Single) : Scaled :=
  search (binaryOf value) 100 39

/-! ## Writing -/

structure Format where
  /-- Largest number of digits in front of the point, and of zeros behind it, in positional writing. -/
  maxWhole : Int
  maxZeros : Int
  /-- What stands behind the digits of a whole number. -/
  wholeEnd : String
  /-- What stands in front of a positive and of a negative exponent. -/
  positiveMark : String
  negativeMark : String
  zero : String

def zeros (count : Int) : String := String.ofList (List.replicate count.toNat '0')

/-- The text of a magnitude. -/
def Format.magnitudeText (format : Format) (decimal : Scaled) : String :=
  let digits := Nat.toDigits 10 decimal.digits
  let pointAt := (digits.length : Int) + decimal.exponent
  let scientific := pointAt - 1
  if 0 ≤ decimal.exponent ∧ pointAt ≤ format.maxWhole then
    String.ofList digits ++ zeros decimal.exponent ++ format.wholeEnd
  else if 0 < pointAt ∧ pointAt ≤ format.maxWhole then
    String.ofList (digits.take pointAt.toNat) ++ "." ++ String.ofList (digits.drop pointAt.toNat)
  else if -format.maxZeros ≤ pointAt ∧ pointAt ≤ 0 then
    "0." ++ zeros (-pointAt) ++ String.ofList digits
  else
    String.ofList (digits.take 1) ++ (if digits.length = 1 then "" else "." ++ String.ofList (digits.drop 1)) ++
      (if scientific < 0 then format.negativeMark else format.positiveMark) ++ toString scientific.natAbs

/-- The text of a finite number. -/
def Format.text (format : Format) (value : Single) : String :=
  (if value.isNegative then "-" else "") ++
    if value.magnitude = 0 then format.zero else format.magnitudeText (shortest value)

end ShaderWeave.Decimal
