import Mathlib.Data.List.Infix
import ShaderWeave.Template.Marker

/-! # Bindings in code

The bindings of the first group, read from the text of the code wherever they stand.
-/

namespace ShaderWeave.Code

/-! ## Reading the numbers -/

/-- What stands in front of the number of a binding of the first group. -/
def bindingFront : List Char :=
  ['@', 'g', 'r', 'o', 'u', 'p', '(', '0', ')', ' ', '@', 'b', 'i', 'n', 'd', 'i', 'n', 'g', '(']

/-- The number of the binding that a text starts with, as it is written. -/
def numeral? (text : List Char) : Option String :=
  (Marker.dropStart? bindingFront text).map fun behind => String.ofList (behind.takeWhile (· ≠ ')'))

/-- The numbers of all bindings of the first group in a text. -/
def numerals (text : List Char) : List String := text.tails.filterMap numeral?

theorem bindingFront_eq : bindingFront = '@' :: ("group(0) ".toList ++ "@binding(".toList) := by decide

theorem numerals_cons (char : Char) (rest : List Char) :
    numerals (char :: rest) = (numeral? (char :: rest)).toList ++ numerals rest := by
  rw [numerals, List.tails, List.filterMap_cons]
  cases numeral? (char :: rest) <;> rfl

/-- A text without the sign of attributes has no bindings. -/
theorem numerals_append_of_free {front : List Char} (free : '@' ∉ front) (rest : List Char) :
    numerals (front ++ rest) = numerals rest := by
  induction front with
  | nil => rfl
  | cons char others ih =>
    obtain ⟨apart, free⟩ := not_or.1 (mt List.mem_cons.2 free)
    have none : numeral? (char :: (others ++ rest)) = Option.none := by
      rw [numeral?, Marker.dropStart?, if_neg, Option.map_none]
      rw [bindingFront_eq, List.isPrefixOf_cons_cons, beq_false_of_ne apart]
      exact Bool.false_ne_true
    rw [List.cons_append, numerals_cons, none, ih free]
    rfl

/-- One binding, with its number and what stands behind it. -/
theorem numerals_attribute {numeral tail : List Char} (plain : '@' ∉ numeral ∧ ')' ∉ numeral) (free : '@' ∉ tail)
    (rest : List Char) :
    numerals (bindingFront ++ (numeral ++ (')' :: (tail ++ rest)))) = String.ofList numeral :: numerals rest := by
  have read : numeral? (bindingFront ++ (numeral ++ (')' :: (tail ++ rest)))) = some (String.ofList numeral) := by
    have digits : (numeral ++ (')' :: (tail ++ rest))).takeWhile (· ≠ ')') = numeral := by
      rw [List.takeWhile_append_of_pos (by simpa using fun char member => ne_of_mem_of_not_mem member plain.2)]
      simp
    rw [numeral?, Marker.dropStart?, if_pos (List.isPrefixOf_iff_prefix.2 (List.prefix_append ..)), List.drop_left,
      Option.map_some, digits]
  have second : ∀ behind, numeral? ("@binding(".toList ++ behind) = none := fun _ => rfl
  have inner : ∀ behind, numerals ("@binding(".toList ++ behind) = numerals behind := by
    intro behind
    have split : "@binding(".toList ++ behind = '@' :: ("binding(".toList ++ behind) := rfl
    rw [split, numerals_cons, ← split, second, numerals_append_of_free (by decide)]
    rfl
  have late : '@' ∉ numeral ++ (')' :: tail) := by
    simp [plain.1, free]
  have shape : numeral ++ (')' :: (tail ++ rest)) = (numeral ++ (')' :: tail)) ++ rest := by simp
  rw [bindingFront_eq, List.cons_append, numerals_cons, ← List.cons_append, ← bindingFront_eq, read, List.append_assoc,
    numerals_append_of_free (by decide), inner, shape, numerals_append_of_free late]
  rfl

end ShaderWeave.Code
