/-! # Blank characters

The characters with the Unicode property `White_Space`, and cutting them off the ends of a text. The list is
closed: the property is stable for all characters already assigned.
-/

namespace ShaderWeave.Text

/-- The characters with the property `White_Space`. -/
def isBlank (char : Char) : Bool :=
  let code := char.toNat
  (9 ≤ code && code ≤ 13) || code == 0x20 || code == 0x85 || code == 0xA0 || code == 0x1680 ||
    (0x2000 ≤ code && code ≤ 0x200A) || code == 0x2028 || code == 0x2029 || code == 0x202F ||
    code == 0x205F || code == 0x3000

def dropBlankStart (text : List Char) : List Char :=
  text.dropWhile isBlank

def dropBlankEnd (text : List Char) : List Char :=
  (text.reverse.dropWhile isBlank).reverse

/-- Whether a text has nothing but blank characters. -/
def isAllBlank (text : String) : Bool :=
  text.toList.all isBlank

/-- ASCII letters, digits and the underscore: the characters of a shader identifier. -/
def isWordChar (char : Char) : Bool :=
  char.isAlphanum || char == '_'

/-- Letters by their code points. -/
theorem isAlpha_iff {char : Char} :
    char.isAlpha = true ↔ (65 ≤ char.toNat ∧ char.toNat ≤ 90) ∨ (97 ≤ char.toNat ∧ char.toNat ≤ 122) := by
  have ranges : char.isAlpha = (decide ('A'.val ≤ char.val ∧ char.val ≤ 'Z'.val) ||
      (decide ('a'.val ≤ char.val) && decide (char.val ≤ 'z'.val))) := rfl
  simp only [ranges, Bool.or_eq_true, Bool.and_eq_true, decide_eq_true_eq, UInt32.le_iff_toNat_le]
  rfl

/-- Digits by their code points. -/
theorem isDigit_iff {char : Char} : char.isDigit = true ↔ 48 ≤ char.toNat ∧ char.toNat ≤ 57 := by
  have range : char.isDigit = (decide ('0'.val ≤ char.val) && decide (char.val ≤ '9'.val)) := rfl
  simp only [range, Bool.and_eq_true, decide_eq_true_eq, UInt32.le_iff_toNat_le]
  rfl

theorem isWordChar_iff {char : Char} :
    isWordChar char = true ↔ (char.isAlpha = true ∨ char.isDigit = true) ∨ char = '_' := by
  simp only [isWordChar, Char.isAlphanum, Bool.or_eq_true, beq_iff_eq]

theorem isBlank_of_isWhitespace (char : Char) (white : char.isWhitespace = true) : isBlank char = true := by
  simp only [Char.isWhitespace, Bool.or_eq_true, decide_eq_true_eq] at white
  rcases white with ((rfl | rfl) | rfl) | rfl <;> rfl

end ShaderWeave.Text
