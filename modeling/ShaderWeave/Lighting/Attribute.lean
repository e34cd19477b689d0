import ShaderWeave.Lighting.Light

/-! # Packed attributes

What shaders read of a light, packed into groups of numbers of fixed width. Each type of light has a layout: the
uniforms of its attributes in the order in which they are uploaded.
-/

namespace ShaderWeave

inductive LightAttribute where
  | direction
  | position
  /-- Color times intensity. -/
  | color
  /-- Color times intensity, and how much the light's shadow darkens image-based light. -/
  | colorWithShadowing
  | cone
  | falloff
  | harmonics
  /-- Intensity, specular levels, shadowing, and an unused zero. -/
  | iblParameters
  deriving DecidableEq, Repr

namespace LightAttribute

/-- How many numbers the attribute takes. -/
def components : LightAttribute → Nat
  | direction | position | color | falloff => 3
  | colorWithShadowing | iblParameters => 4
  | cone => 2
  | harmonics => 27

/-- Numbers of the attribute. A light of another kind has zeros for what it lacks. -/
def pack (light : Light) : LightAttribute → List Single
  | direction => light.direction.normalized.toList
  | position => light.position.toList
  | color => (light.color.scale light.intensity).toList
  | colorWithShadowing => (light.color.scale light.intensity).toList ++ [light.iblShadowing]
  | cone => [light.cone.x, light.cone.y]
  | falloff => light.falloff.toList
  | harmonics =>
    match light.kind with
    | .ibl coefficients _ _ => coefficients.toList
    | _ => List.replicate 27 .zero
  | iblParameters =>
    match light.kind with
    | .ibl _ _ levels => [light.intensity, levels, light.iblShadowing, .zero]
    | _ => [light.intensity, .zero, light.iblShadowing, .zero]

@[simp] theorem length_pack (light : Light) (part : LightAttribute) :
    (pack light part).length = part.components := by
  cases part <;> simp only [pack, components] <;> (try split) <;> simp [Vec3.toList]

end LightAttribute

namespace LightType

/-- Uniform and attribute of each buffer, in upload order. -/
def layout : LightType → List (String × LightAttribute)
  | directional => [("uLDirDirections", .direction), ("uLDirColors", .colorWithShadowing)]
  | spot => [
    ("uLSpotDirections", .direction),
    ("uLSpotColors", .colorWithShadowing),
    ("uLSpotPositions", .position),
    ("uLSpotSpot", .cone),
    ("uLSpotFalloff", .falloff)]
  | point => [("uLPointColors", .color), ("uLPointPositions", .position), ("uLPointFalloff", .falloff)]
  | ibl => [("uLIblSh", .harmonics), ("uLIblParams", .iblParameters)]

/-- Stencil that declares the buffers of all lights of the type. -/
def declarationsStencil : LightType → String
  | directional => "lights/directional-lights-pre"
  | spot => "lights/spot-lights-pre"
  | point => "lights/point-lights-pre"
  | ibl => "lights/ibl-lights-pre"

/-- Stencil of what one light contributes. -/
def lightStencil : LightType → String
  | directional => "lights/directional-light"
  | spot => "lights/spot-light"
  | point => "lights/point-light"
  | ibl => "lights/ibl-light"

end LightType

end ShaderWeave
