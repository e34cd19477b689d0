import ShaderWeave.Single

/-! # Settings

Plain values that configure a light model and a program cache. Each has a default.
-/

namespace ShaderWeave

/-- How a shadow map is sampled. The choice is made when the shader is compiled. -/
inductive ShadowFiltering where
  | none
  | pcf4x1
  | pcf4x4
  | pcf2x2
  deriving DecidableEq, Repr

namespace ShadowFiltering

def all : List ShadowFiltering := [none, pcf4x1, pcf4x4, pcf2x2]

/-- Name of the choice in shader code. -/
def variant : ShadowFiltering → String
  | none => "PCFNONE"
  | pcf4x1 => "PCF4x1"
  | pcf4x4 => "PCF4x4"
  | pcf2x2 => "PCF2x2"

/-- Names of all choices, in the order in which shader code declares them. -/
def variants : List String := all.map variant

/-- Name of the choice in configuration files. -/
def name : ShadowFiltering → String
  | none => "None"
  | pcf4x1 => "Pcf4x1"
  | pcf4x4 => "Pcf4x4"
  | pcf2x2 => "Pcf2x2"

end ShadowFiltering

/-- How shadow maps store depth: in a depth texture, or encoded in colors. -/
inductive DepthFormat where
  | depth
  | rgb
  deriving DecidableEq, Repr

namespace DepthFormat

def all : List DepthFormat := [depth, rgb]

def variant : DepthFormat → String
  | depth => "D_DEPTH"
  | rgb => "D_RGB"

def variants : List String := all.map variant

def name : DepthFormat → String
  | depth => "Depth"
  | rgb => "Rgb"

def ofDepthTexture (depthTexture : Bool) : DepthFormat :=
  if depthTexture then depth else rgb

end DepthFormat

/-- The closed set of light types. -/
inductive LightType where
  | directional
  | spot
  | point
  | ibl
  deriving DecidableEq, Repr

namespace LightType

/-- The order in which a light model visits the types. -/
def all : List LightType := [directional, spot, point, ibl]

/-- Place of the type in `all`. -/
def position : LightType → Nat
  | directional => 0
  | spot => 1
  | point => 2
  | ibl => 3

/-- Short name that starts the hash of the lights of this type. -/
def tag : LightType → String
  | directional => "dir"
  | spot => "spot"
  | point => "point"
  | ibl => "ibl"

def name : LightType → String
  | directional => "Directional"
  | spot => "Spot"
  | point => "Point"
  | ibl => "Ibl"

end LightType

structure LightModelSettings where
  /-- How many lights of a model can cast shadows at a time. -/
  maxShadows : Nat := 4
  shadowFiltering : ShadowFiltering := .pcf4x1
  /-- Whether shadows darken image-based light as well. -/
  iblShadowing : Bool := false
  /-- Rotation of the sampling kernel, in radians. -/
  kernelRotation : Single := .quarterPi
  deriving DecidableEq, Repr

structure CacheSettings where
  /-- Whether the sources of each compiled program are logged. -/
  traceSources : Bool := false
  deriving DecidableEq, Repr

end ShaderWeave
