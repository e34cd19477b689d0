import ShaderWeave.Text.Printable

/-! # Quoted texts

A text between quotes, in which every character can be told from every other: what has a short escape is written by
it, and what cannot be shown is written by its code.
-/

namespace ShaderWeave.Text

def quotedChar (char : Char) : String :=
  if char = '"' then "\\\""
  else if char = '\\' then "\\\\"
  else if char = '\n' then "\\n"
  else if char = '\r' then "\\r"
  else if char = '\t' then "\\t"
  else if char.toNat = 0 then "\\0"
  else if isPrintable char then char.toString
  else "\\u\x7b" ++ String.ofList (Nat.toDigits 16 char.toNat) ++ "\x7d"

def quoted (text : String) : String :=
  "\"" ++ String.join (text.toList.map quotedChar) ++ "\""

end ShaderWeave.Text
