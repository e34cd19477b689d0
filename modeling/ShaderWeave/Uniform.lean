import ShaderWeave.Single

/-! # Uniform values

What chunks push to the named uniforms of a program: packed arrays of numbers, pairs and textures.
-/

namespace ShaderWeave

/-- A texture that belongs to the graphics layer, known here by its number alone. -/
structure TextureHandle where
  id : UInt64
  deriving DecidableEq, Repr

structure Vec2 where
  x : Single
  y : Single
  deriving DecidableEq, Repr

inductive UniformValue where
  /-- A packed array whose elements are `components` numbers wide. -/
  | floats (components : Nat) (data : List Single)
  | vec2 (value : Vec2)
  | texture (handle : TextureHandle)
  deriving DecidableEq, Repr

/-- A value on its way to the uniform of this name. -/
structure UniformCall where
  name : String
  value : UniformValue
  deriving DecidableEq, Repr

/-- How many elements an array has; one for every other value. -/
def UniformValue.elementCount : UniformValue → Nat
  | .floats components data => data.length / Nat.max components 1
  | .vec2 _ | .texture _ => 1

/-- The direction of an angle in radians. -/
def Vec2.ofAngle (angle : Single) : Vec2 := ⟨angle.cos, angle.sin⟩

end ShaderWeave
