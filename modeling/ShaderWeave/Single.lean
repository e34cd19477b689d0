/-! # Single precision numbers

Numbers of the format binary32, held as their bits, so that two different NaNs stay different and equality of bits
is decidable. Comparisons read the bits. Arithmetic rounds each operation to nearest, ties to even.

An operation on a NaN gives that NaN, made quiet, and of two NaNs the first; an operation without a result gives
the quiet NaN with its sign set.
-/

namespace ShaderWeave

structure Single where
  bits : UInt32
  deriving DecidableEq, Repr

namespace Single

def zero : Single := ⟨0x00000000⟩
def one : Single := ⟨0x3F800000⟩
def two : Single := ⟨0x40000000⟩
def half : Single := ⟨0x3F000000⟩
def thousandth : Single := ⟨0x3A83126F⟩
/-- A quarter of π. -/
def quarterPi : Single := ⟨0x3F490FDB⟩

instance : Inhabited Single := ⟨zero⟩

/-- The NaN that stands for the result of an operation without one. -/
def invalid : Single := ⟨0xFFC00000⟩

def magnitude (value : Single) : UInt32 := value.bits &&& 0x7FFFFFFF

def isNegative (value : Single) : Bool := value.bits ≥ 0x80000000

def isNaN (value : Single) : Bool := value.magnitude > 0x7F800000

def isFinite (value : Single) : Bool := value.magnitude < 0x7F800000

def quiet (value : Single) : Single := ⟨value.bits ||| 0x00400000⟩

/-- Place on the number line, with both zeros at the same place. -/
def rank (value : Single) : Int :=
  if value.isNegative then -value.magnitude.toNat else value.magnitude.toNat

/-- Equality of numbers: the zeros are equal, and a NaN equals nothing. -/
def sameNumber (left right : Single) : Bool :=
  !left.isNaN && !right.isNaN && left.rank == right.rank

def less (left right : Single) : Bool :=
  !left.isNaN && !right.isNaN && decide (left.rank < right.rank)

/-- The larger number; the other operand when one is a NaN. -/
def max (left right : Single) : Single :=
  if left.isNaN then right
  else if right.isNaN then left
  else if left.less right then right
  else left

def toFloat32 (value : Single) : Float32 := Float32.ofBits value.bits

/-- A result that is not a number is an invalid operation's. -/
def ofResult (result : Float32) : Single :=
  if result.isNaN then invalid else ⟨result.toBits⟩

def unary (operation : Float32 → Float32) (value : Single) : Single :=
  if value.isNaN then value.quiet else ofResult (operation value.toFloat32)

def binary (operation : Float32 → Float32 → Float32) (left right : Single) : Single :=
  if left.isNaN then left.quiet
  else if right.isNaN then right.quiet
  else ofResult (operation left.toFloat32 right.toFloat32)

instance : Add Single := ⟨binary (· + ·)⟩
instance : Sub Single := ⟨binary (· - ·)⟩
instance : Mul Single := ⟨binary (· * ·)⟩
instance : Div Single := ⟨binary (· / ·)⟩
instance : Neg Single := ⟨fun value => ⟨value.bits ^^^ 0x80000000⟩⟩

def sqrt : Single → Single := unary Float32.sqrt
def cos : Single → Single := unary Float32.cos
def sin : Single → Single := unary Float32.sin

/-- The nearest number to a double precision one. -/
def ofFloat (value : Float) : Single :=
  ⟨value.toFloat32.toBits⟩

/-- The four bytes, the lowest first. -/
def bytes (value : Single) : List UInt8 :=
  (List.range 4).map fun step => (value.bits >>> (8 * step).toUInt32).toUInt8

theorem sameNumber_self_iff (value : Single) : value.sameNumber value = true ↔ value.isNaN = false := by
  simp [sameNumber]

end Single

end ShaderWeave
