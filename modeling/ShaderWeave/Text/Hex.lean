/-! # Hexadecimal digits

Fixed-width hexadecimal text, with lower-case digits, and its reading, which takes digits of either case.
-/

namespace ShaderWeave.Text

def hexDigit (value : Nat) : Char :=
  if value < 10 then Char.ofNat (48 + value) else Char.ofNat (87 + value)

/-- The lowest `count` hexadecimal digits of `value`, the highest first. -/
def hexDigits (count value : Nat) : String :=
  String.ofList ((List.range count).reverse.map fun step => hexDigit (value / Nat.pow 16 step % 16))

/-- Two digits for each byte. -/
def hexBytes (bytes : List UInt8) : String :=
  String.join (bytes.map fun byte => hexDigits 2 byte.toNat)

def hexValue? (char : Char) : Option Nat :=
  if char.isDigit then some (char.toNat - 48)
  else if 'a' ≤ char ∧ char ≤ 'f' then some (char.toNat - 87)
  else if 'A' ≤ char ∧ char ≤ 'F' then some (char.toNat - 55)
  else none

/-- The number that some digits write, the highest first. -/
def ofHex? (digits : List Char) : Option Nat :=
  (digits.mapM hexValue?).map fun values => values.foldl (fun sum value => sum * 16 + value) 0

end ShaderWeave.Text
