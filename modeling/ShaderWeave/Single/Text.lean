import ShaderWeave.Single
import ShaderWeave.Text.Hex

/-! # Exact text of single precision numbers

A number is written as its bits, which loses nothing; all NaNs are written alike. Numbers without digits can also be read by
name.
-/

namespace ShaderWeave.Single

def text (value : Single) : String :=
  if value.isNaN then "nan" else Text.hexDigits 8 value.bits.toNat

/-- Numbers in the order given, one blank between them. -/
def listText (values : List Single) : String := " ".intercalate (values.map text)

def ofText? : String → Option Single
  | "nan" => some ⟨0x7FC00000⟩
  | "inf" => some ⟨0x7F800000⟩
  | "-inf" => some ⟨0xFF800000⟩
  | bits => if bits.length = 8 then (Text.ofHex? bits.toList).map fun bits => ⟨bits.toUInt32⟩ else none

end ShaderWeave.Single
