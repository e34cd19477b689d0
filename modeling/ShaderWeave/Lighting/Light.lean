import ShaderWeave.Settings
import ShaderWeave.Uniform

/-! # Lights

A light has values of its own kind and values that all kinds share. Every field may be set on every light; a field
without meaning for the kind has no effect.
-/

namespace ShaderWeave

structure Vec3 where
  x : Single
  y : Single
  z : Single
  deriving DecidableEq, Repr

namespace Vec3

def zero : Vec3 := ⟨.zero, .zero, .zero⟩

def ones : Vec3 := ⟨.one, .one, .one⟩

/-- Against the third axis. -/
def backward : Vec3 := ⟨.zero, .zero, -.one⟩

def toList (vector : Vec3) : List Single := [vector.x, vector.y, vector.z]

def scale (vector : Vec3) (factor : Single) : Vec3 :=
  ⟨vector.x * factor, vector.y * factor, vector.z * factor⟩

/-- The vector at length one; zero when its length has no usable reciprocal. -/
def normalized (vector : Vec3) : Vec3 :=
  let square := vector.x * vector.x + vector.y * vector.y + vector.z * vector.z
  let factor := Single.one / square.sqrt
  if factor.isFinite && Single.zero.less factor then vector.scale factor else zero

end Vec3

/-- Shadow map of a light. The projection into it is computed by the caller. -/
structure ShadowSettings where
  map : Option TextureHandle := none
  /-- Width of the map in texels. -/
  mapSize : Single := ⟨0x44800000⟩
  /-- From the world into the map, column by column. -/
  projection : Vector Single 16 :=
    Vector.ofFn fun place => if place.val % 5 = 0 then .one else .zero
  texelBias : Vector Single 4 := Vector.replicate 4 .zero
  /-- Whether the map is a depth texture; otherwise colors encode the depth. -/
  depthTexture : Bool := true
  deriving DecidableEq, Repr

inductive LightKind where
  | directional
  /-- Angles are half angles in radians; a range of zero is no bound. -/
  | spot (range decay innerAngle outerAngle : Single)
  | point (range decay : Single)
  /-- Nine coefficients of three colors, and an environment cube map with its specular levels. -/
  | ibl (harmonics : Vector Single 27) (environment : Option TextureHandle) (specularLevels : Single)
  deriving DecidableEq, Repr

def LightKind.type : LightKind → LightType
  | .directional => .directional
  | .spot .. => .spot
  | .point .. => .point
  | .ibl .. => .ibl

structure Light where
  kind : LightKind
  position : Vec3 := .zero
  /-- The direction in which light travels. -/
  direction : Vec3 := .backward
  color : Vec3 := .ones
  intensity : Single := .one
  /-- How much the light's shadow darkens image-based light. -/
  iblShadowing : Single := .half
  castShadows : Bool := false
  shadow : ShadowSettings := {}
  deriving DecidableEq, Repr

namespace Light

def directional (direction : Vec3) : Light := { kind := .directional, direction }

def spot (position direction : Vec3) (innerAngle outerAngle : Single) : Light :=
  { kind := .spot .zero .two innerAngle outerAngle, position, direction }

def point (position : Vec3) (range : Single) : Light :=
  { kind := .point range .two, position }

def ibl (harmonics : Vector Single 27) (environment : Option TextureHandle) (specularLevels : Single) : Light :=
  { kind := .ibl harmonics environment specularLevels }

def withColor (light : Light) (color : Vec3) (intensity : Single) : Light := { light with color, intensity }

def withShadow (light : Light) (shadow : ShadowSettings) : Light := { light with castShadows := true, shadow }

def type (light : Light) : LightType := light.kind.type

/-- Cone attenuation as a factor and a summand for the cosine of the angle to the axis. -/
def cone (light : Light) : Vec2 :=
  match light.kind with
  | .spot _ _ innerAngle outerAngle =>
    let outer := outerAngle.cos
    let factor := Single.one / (innerAngle.cos - outer).max .thousandth
    ⟨factor, -outer * factor⟩
  | _ => ⟨.zero, .one⟩

/-- Range, its reciprocal, and decay. -/
def falloff (light : Light) : Vec3 :=
  match light.kind with
  | .spot range decay _ _ | .point range decay =>
    ⟨range, if Single.zero.less range then Single.one / range else .zero, decay⟩
  | _ => .zero

def environment (light : Light) : Option TextureHandle :=
  match light.kind with
  | .ibl _ environment _ => environment
  | _ => none

end Light

end ShaderWeave
