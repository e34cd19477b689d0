import ShaderWeave.Lighting.Attribute
import ShaderWeave.Lighting.Buffer
import ShaderWeave.Lighting.ShadowPool

/-! # Light buckets

A bucket generates and feeds the code of all lights of one type. The code depends on how many lights there are and on
the shadow slot of each, and on nothing else; both are in the hash. Colors, positions and shadow matrices are
uploaded as values.
-/

namespace ShaderWeave

/-- A light of a bucket, with what it got in the last update. -/
structure BucketEntry where
  light : LightId
  shadowSlot : Option Nat := none
  shadowMap : Option TextureHandle := none
  environment : Option TextureHandle := none
  deriving DecidableEq, Repr

structure LightBucket where
  type : LightType
  entries : List BucketEntry := []
  /-- One buffer for each attribute of the layout. -/
  buffers : List LightBuffer := type.layout.map fun (_, part) => .new part.components

namespace LightBucket

def new (type : LightType) : LightBucket := { type }

def size (bucket : LightBucket) : Nat := bucket.entries.length

def isEmpty (bucket : LightBucket) : Bool := bucket.entries.isEmpty

def lights (bucket : LightBucket) : List LightId := bucket.entries.map (·.light)

def shadowSlots (bucket : LightBucket) : List (Option Nat) := bucket.entries.map (·.shadowSlot)

/-- Uniforms with their buffers, in upload order. -/
def uniforms (bucket : LightBucket) : List ((String × LightAttribute) × LightBuffer) :=
  bucket.type.layout.zip bucket.buffers

def buffer? (bucket : LightBucket) (uniform : String) : Option LightBuffer :=
  (bucket.uniforms.find? fun ((name, _), _) => name == uniform).map (·.2)

/-- Appends a light. Adding a light again changes nothing. Tells whether the code changed. -/
def addLight (bucket : LightBucket) (id : LightId) : Bool × LightBucket :=
  if id ∈ bucket.lights then (false, bucket)
  else (true, { bucket with entries := bucket.entries ++ [{ light := id }] })

/-- Takes a light out. Tells whether the code changed. -/
def removeLight (bucket : LightBucket) (id : LightId) : Bool × LightBucket :=
  if id ∈ bucket.lights then
    (true, { bucket with entries := bucket.entries.eraseP fun entry => entry.light == id })
  else (false, bucket)

/-! ## Updates -/

/-- Packs a light into the row `index` of each buffer. -/
def packInto (layout : List (String × LightAttribute)) (light : Light) (index : Nat)
    (buffers : List LightBuffer) : List LightBuffer :=
  (layout.zip buffers).map fun ((_, part), buffer) => buffer.write index (part.pack light)

/-- The slot that a light asks for, and the pool afterwards. -/
def claimSlot (light : Light) (pool : ShadowPool) : Option Nat × ShadowPool :=
  if light.castShadows then pool.request light.shadow else (none, pool)

/-- Packs the lights of `entries`, the first one into row `index`, and claims their slots. Tells whether one of them got
another slot than it had. An entry whose light is gone stays as it is, and so does its row. -/
def updateEntries (layout : List (String × LightAttribute)) (lights : Arena .light Light) (index : Nat)
    (buffers : List LightBuffer) (pool : ShadowPool) :
    List BucketEntry → Bool × List BucketEntry × List LightBuffer × ShadowPool
  | [] => (false, [], buffers, pool)
  | entry :: rest =>
    match lights.get? entry.light with
    | none =>
      let (changed, updated, buffers, pool) := updateEntries layout lights (index + 1) buffers pool rest
      (changed, entry :: updated, buffers, pool)
    | some light =>
      let buffers := packInto layout light index buffers
      let (slot, pool) := claimSlot light pool
      let (changed, updated, buffers, pool) := updateEntries layout lights (index + 1) buffers pool rest
      (entry.shadowSlot != slot || changed,
        { entry with
          shadowSlot := slot
          shadowMap := slot.bind fun _ => light.shadow.map
          environment := light.environment } :: updated, buffers, pool)

/-- Packs every light and claims shadow slots. Tells whether a slot changed, which changes the code. -/
def update (bucket : LightBucket) (lights : Arena .light Light) (pool : ShadowPool) :
    Bool × LightBucket × ShadowPool :=
  let buffers := bucket.buffers.map fun buffer => (buffer.resize bucket.size).2
  let (changed, entries, buffers, pool) := updateEntries bucket.type.layout lights 0 buffers pool bucket.entries
  (changed, { bucket with entries, buffers }, pool)

/-! ## Behaviour in a program -/

/-- Name of the slot for the code of single lights. -/
def lightsSlot : String := "lightsf"

/-- Type and number of the lights, and the shadow slots they hold. -/
def hash (bucket : LightBucket) : String :=
  bucket.type.tag ++ toString bucket.size ++
    String.join (bucket.shadowSlots.mapIdx fun index slot =>
      match slot with
      | some slot => "," ++ toString index ++ ":" ++ toString slot
      | none => "")

/-- One binding for each buffer; image-based lights also have a sampler and a cube map each. -/
def bindingsNeeded (bucket : LightBucket) : Nat :=
  bucket.type.layout.length + if bucket.type = .ibl then 1 + bucket.size else 0

/-- The code that one light contributes. -/
def lightCode (type : LightType) (index : Nat) (slot : Option Nat) : Except Stencil.RenderError String :=
  let shadowIndex : Int := match slot with
    | some slot => slot
    | none => -1
  Stencil.renderNamed type.lightStencil [("index", .int index), ("shadow_index", .int shadowIndex)]

/-- The declarations for all lights, and the code of each light. -/
def codeFrom (bucket : LightBucket) (binding : Nat) : Except Stencil.RenderError (String × String) := do
  let declarations ← Stencil.renderNamed bucket.type.declarationsStencil
    [("count", .int bucket.size), ("binding", .int binding)]
  let codes ← (bucket.shadowSlots.mapIdx fun index slot => (index, slot)).mapM fun (index, slot) =>
    lightCode bucket.type index slot
  return (declarations, String.join codes)

def generate (bucket : LightBucket) (slots : SlotBuffer) : Except AssemblyError SlotBuffer :=
  if bucket.isEmpty then .ok slots
  else
    let (binding, slots) := slots.reserve bucket.bindingsNeeded
    match bucket.codeFrom binding with
    | .ok (declarations, code) =>
      .ok ((slots.add ShadowPool.declarationsSlot declarations).add lightsSlot code)
    | .error cause => .error (.stencil cause)

/-- Shadow maps go to the uniform of their slot. -/
def shadowMapUploads (bucket : LightBucket) : List UniformCall :=
  bucket.entries.filterMap fun entry =>
    match entry.shadowSlot, entry.shadowMap with
    | some slot, some map => some ⟨"tShadowMap" ++ toString slot, .texture map⟩
    | _, _ => none

/-- Environment maps of image-based lights go to the uniform of their light. -/
def environmentUploads (bucket : LightBucket) : List UniformCall :=
  if bucket.type = .ibl then
    (bucket.entries.mapIdx fun index entry =>
      entry.environment.map fun map => (⟨"tEnv" ++ toString index, .texture map⟩ : UniformCall)).filterMap id
  else []

def uploads (bucket : LightBucket) : List UniformCall :=
  if bucket.isEmpty then []
  else
    (bucket.uniforms.map fun ((name, part), buffer) =>
      (⟨name, .floats part.components buffer.view⟩ : UniformCall)) ++
    bucket.shadowMapUploads ++ bucket.environmentUploads

end LightBucket

end ShaderWeave
