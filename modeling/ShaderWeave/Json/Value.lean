/-! # JSON documents

A JSON text as a tree. Numbers keep their digits, so that each reader decides what they stand for; a string has
no text when it escapes half of a surrogate pair.
-/

namespace ShaderWeave.Json

/-- A number as it is written. -/
structure Numeral where
  negative : Bool
  whole : List Nat
  /-- Digits behind the point, if there is one. -/
  fraction : Option (List Nat)
  /-- Whether the exponent is negative, and its digits. -/
  exponent : Option (Bool × List Nat)
  deriving DecidableEq, Repr

inductive Value where
  | null
  | bool (value : Bool)
  | number (numeral : Numeral)
  | string (text : Option String)
  | array (items : List Value)
  | object (members : List (Option String × Value))
  deriving Repr

instance : Inhabited Value := ⟨.null⟩

end ShaderWeave.Json
