import ShaderWeave.Single

/-! # Light buffers

A buffer holds one attribute of all lights of a type: rows of a fixed width, one behind the other. Sizing it to
another number of rows keeps the rows in front and fills new ones with zeros.

The operations that end in a question mark refuse what cannot be addressed: a row outside the buffer, or more
numbers than a memory of 64-bit addresses can hold.
-/

namespace ShaderWeave

structure LightBuffer where
  /-- Width of a row. -/
  stride : Nat
  /-- Number of rows. -/
  count : Nat := 0
  values : List Single := []
  length_values : values.length = count * stride := by simp

namespace LightBuffer

/-- An empty buffer. -/
def new (stride : Nat) : LightBuffer := { stride }

def isEmpty (buffer : LightBuffer) : Bool := buffer.count == 0

/-- All rows, one behind the other. -/
def view (buffer : LightBuffer) : List Single := buffer.values

/-- Sizes the buffer for `count` rows. -/
def sized (buffer : LightBuffer) (count : Nat) : LightBuffer :=
  { stride := buffer.stride
    count
    values := buffer.values.take (count * buffer.stride) ++
      List.replicate (count * buffer.stride - buffer.values.length) .zero
    length_values := by simp; omega }

/-- Sizes the buffer for `count` rows, and tells whether that is another number than before. -/
def resize (buffer : LightBuffer) (count : Nat) : Bool × LightBuffer :=
  if count = buffer.count then (false, buffer) else (true, buffer.sized count)

/-- The row with this number, if there is one. -/
def row? (buffer : LightBuffer) (index : Nat) : Option (List Single) :=
  let start := index * buffer.stride
  if start + buffer.stride ≤ buffer.values.length then some ((buffer.values.drop start).take buffer.stride)
  else none

/-- Puts `row` in the place of the row with this number. It must be there and have the same width. -/
def write? (buffer : LightBuffer) (index : Nat) (row : List Single) : Option LightBuffer :=
  let start := index * buffer.stride
  if fits : start + buffer.stride ≤ buffer.values.length ∧ row.length = buffer.stride then
    some
      { buffer with
        values := buffer.values.take start ++ row ++ buffer.values.drop (start + buffer.stride)
        length_values := by
          have := buffer.length_values
          obtain ⟨inside, width⟩ := fits
          have stays : start ≤ buffer.values.length := by omega
          simp only [List.length_append, List.length_take, List.length_drop, width]
          omega }
  else none

/-- Like `write?`, but a row that does not fit changes nothing. -/
def write (buffer : LightBuffer) (index : Nat) (row : List Single) : LightBuffer :=
  (buffer.write? index row).getD buffer

/-! ## Limits of the address space -/

/-- Number of addresses. -/
def addressLimit : Nat := Nat.pow 2 64

/-- Sizes the buffer if it can be held: a number takes four bytes, and no allocation takes half of the addresses. -/
def resize? (buffer : LightBuffer) (count : Nat) : Option (Bool × LightBuffer) :=
  if count = buffer.count ∨ count * buffer.stride * 4 < addressLimit / 2 then some (buffer.resize count) else none

/-- The row with this number if it is there. A number whose row has no address at all is refused. -/
def lookup? (buffer : LightBuffer) (index : Nat) : Option (Option (List Single)) :=
  if index * buffer.stride + buffer.stride < addressLimit then some (buffer.row? index) else none

end LightBuffer

end ShaderWeave
