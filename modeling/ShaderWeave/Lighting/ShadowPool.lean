import ShaderWeave.Error
import ShaderWeave.Lighting.Light
import ShaderWeave.Slots
import ShaderWeave.Stencil.Library

/-! # Shadow pools

A pool hands out the shadow slots of one pass, first come, first served, up to its capacity; later casters get
none. `reset` starts a pass and `check` ends it. The generated code is for the number of slots, and the form of
the maps, at the last check.
-/

namespace ShaderWeave

structure ShadowPool where
  capacity : Nat := 4
  /-- Shadows that hold the slots of this pass; slot numbers are positions. -/
  granted : List ShadowSettings := []
  /-- Number of slots in the generated code. -/
  generatedCount : Nat := 0
  /-- Form of the maps in the generated code. -/
  generatedDepthTexture : Bool := true
  /-- Direction of the sampling kernel. -/
  kernelRotation : Vec2 := Vec2.ofAngle .quarterPi

namespace ShadowPool

def new (capacity : Nat) : ShadowPool := { capacity }

/-- A pool, unless the matrices of so many slots, of 64 bytes each, take half of all 64-bit addresses. -/
def new? (capacity : Nat) : Option ShadowPool :=
  if capacity * 64 < Nat.pow 2 63 then some (new capacity) else none

def rotated (pool : ShadowPool) (angle : Single) : ShadowPool :=
  { pool with kernelRotation := Vec2.ofAngle angle }

/-- Number of slots handed out in this pass. -/
def count (pool : ShadowPool) : Nat := pool.granted.length

/-- Starts a pass: every slot is free again. -/
def reset (pool : ShadowPool) : ShadowPool := { pool with granted := [] }

/-- Takes the next free slot for a caster. -/
def request (pool : ShadowPool) (shadow : ShadowSettings) : Option Nat × ShadowPool :=
  if pool.capacity ≤ pool.count then (none, pool)
  else (some pool.count, { pool with granted := pool.granted ++ [shadow] })

/-- Form of the map in the first slot, if that is taken. -/
def depthTexture (pool : ShadowPool) : Option Bool :=
  pool.granted.head?.map (·.depthTexture)

/-- Ends a pass, and tells whether the generated code is out of date. Without casters the form of the maps stays. -/
def check (pool : ShadowPool) : Bool × ShadowPool :=
  let depthTexture := pool.depthTexture.getD pool.generatedDepthTexture
  (pool.count != pool.generatedCount || depthTexture != pool.generatedDepthTexture,
    { pool with generatedCount := pool.count, generatedDepthTexture := depthTexture })

def matrices (pool : ShadowPool) : List Single :=
  pool.granted.flatMap fun shadow => shadow.projection.toList

def texelBias (pool : ShadowPool) : List Single :=
  pool.granted.flatMap fun shadow => shadow.texelBias.toList

/-- Width of each map, taken as one texel at least, and its reciprocal. -/
def mapSizes (pool : ShadowPool) : List Single :=
  pool.granted.flatMap fun shadow =>
    let size := shadow.mapSize.max .one
    [size, Single.one / size]

/-! ## Behaviour in a program -/

/-- Bindings in front of the maps: three arrays, the kernel rotation and the sampler. -/
def fixedBindings : Nat := 5

/-- Name of the slot for declarations. -/
def declarationsSlot : String := "pf"

def hash (pool : ShadowPool) : String :=
  if pool.generatedCount = 0 then "shadows0"
  else "shadows" ++ toString pool.generatedCount ++ if pool.generatedDepthTexture then "d" else "r"

/-- Declares the shadow resources; without slots there is nothing to declare. -/
def generate (pool : ShadowPool) (slots : SlotBuffer) : Except AssemblyError SlotBuffer :=
  if pool.generatedCount = 0 then .ok slots
  else
    let (binding, slots) := slots.reserve (fixedBindings + pool.generatedCount)
    let bindings : Stencil.Bindings := [
      ("count", .int pool.generatedCount),
      ("binding", .int binding),
      ("depth_texture", .switch pool.generatedDepthTexture)]
    match Stencil.renderNamed "lights/shadow-maps-pre" bindings with
    | .ok code => .ok (slots.add declarationsSlot code)
    | .error cause => .error (.stencil cause)

/-- Values of the slots handed out in this pass. The rotation goes only to programs that declare it. -/
def uploads (pool : ShadowPool) (declares : String → Bool) : List UniformCall :=
  if pool.count = 0 then []
  else [
    ⟨"uShadowMatrices", .floats 16 pool.matrices⟩,
    ⟨"uShadowTexelBiasVector", .floats 4 pool.texelBias⟩,
    ⟨"uShadowMapSize", .floats 2 pool.mapSizes⟩] ++
    if declares "uShadowKernelRotation" then [⟨"uShadowKernelRotation", .vec2 pool.kernelRotation⟩] else []

end ShadowPool

end ShaderWeave
