import ShaderWeave.Collection

/-! # Light models

A model owns the lights of a scene, and under one root the chunks that shade them: the constants, the shadow pool, a
bucket for each type of light, and the code in front of and behind the lights. `update` packs the lights, hands
out the shadow slots in the order of the types, and marks what changed.

The chunks live in a graph that others may edit too, so an operation fails when a chunk that it needs is gone.
-/

namespace ShaderWeave

/-- The chunks of a model. -/
structure ModelChunks where
  root : ChunkId
  iblShadowing : ChunkId
  shadowFilter : ChunkId
  depthFormat : ChunkId
  shadows : ChunkId
  preLights : ChunkId
  directional : ChunkId
  spot : ChunkId
  point : ChunkId
  ibl : ChunkId
  postLights : ChunkId
  deriving DecidableEq, Repr

namespace ModelChunks

def bucket (chunks : ModelChunks) : LightType → ChunkId
  | .directional => chunks.directional
  | .spot => chunks.spot
  | .point => chunks.point
  | .ibl => chunks.ibl

/-- The buckets in the order in which they are updated. -/
def buckets (chunks : ModelChunks) : List ChunkId := LightType.all.map chunks.bucket

/-- The chunks under the root, in the order of their code. -/
def inOrder (chunks : ModelChunks) : List ChunkId :=
  [chunks.iblShadowing, chunks.shadowFilter, chunks.depthFormat, chunks.shadows, chunks.preLights] ++
    chunks.buckets ++ [chunks.postLights]

end ModelChunks

structure LightModel where
  settings : LightModelSettings
  lights : Arena .light Light := .empty
  chunks : ModelChunks

namespace ChunkGraph

/-! ## Chunks by kind -/

def flag? (graph : ChunkGraph) (id : ChunkId) : Option Flag :=
  match graph.chunk? id with
  | some (.flag flag) => some flag
  | _ => none

def choice? (graph : ChunkGraph) (id : ChunkId) : Option Choice :=
  match graph.chunk? id with
  | some (.choice choice) => some choice
  | _ => none

def shadowPool? (graph : ChunkGraph) (id : ChunkId) : Option ShadowPool :=
  match graph.chunk? id with
  | some (.shadowPool pool) => some pool
  | _ => none

def lightBucket? (graph : ChunkGraph) (id : ChunkId) : Option LightBucket :=
  match graph.chunk? id with
  | some (.lightBucket bucket) => some bucket
  | _ => none

/-- Appends several children, one after the other, up to the first that fails. -/
def addChildren (graph : ChunkGraph) (parent : ChunkId) : List ChunkId → Outcome ChunkGraph Unit
  | [] => (.ok (), graph)
  | child :: rest =>
    match graph.addChild parent child with
    | (.ok (), graph) => graph.addChildren parent rest
    | failed => failed

/-- Stores a new state of a chunk and, if its code changed, marks the collections subscribed to it. -/
def store (graph : ChunkGraph) (id : ChunkId) (chunk : Chunk) (changed : Bool) : ChunkGraph :=
  let graph := graph.setChunk id chunk
  if changed then graph.invalidateCode id else graph

end ChunkGraph

namespace LightModel

/-- The chunk that chooses how shadow maps are sampled. -/
def filterChoice (settings : LightModelSettings) : Except AssemblyError Choice :=
  Choice.withValue "shadowFilter" ShadowFiltering.variants settings.shadowFiltering.variant

def depthChoice : Except AssemblyError Choice :=
  Choice.new "depthFormat" DepthFormat.variants

def poolOf (settings : LightModelSettings) : ShadowPool :=
  (ShadowPool.new settings.maxShadows).rotated settings.kernelRotation

/-- Inserts the chunks of a model, given the states of its choices. -/
def insertChunks (graph : ChunkGraph) (settings : LightModelSettings) (filter depth : Choice) :
    ModelChunks × ChunkGraph :=
  let (root, graph) := graph.insert .group
  let (iblShadowing, graph) := graph.insert (.flag ⟨"iblShadowing", settings.iblShadowing⟩)
  let (shadowFilter, graph) := graph.insert (.choice filter)
  let (depthFormat, graph) := graph.insert (.choice depth)
  let (shadows, graph) := graph.insert (.shadowPool (poolOf settings))
  let (preLights, graph) := graph.insert (.stencil ⟨LightBucket.lightsSlot, "lights/pre-light-setup"⟩)
  let (directional, graph) := graph.insert (.lightBucket (.new .directional))
  let (spot, graph) := graph.insert (.lightBucket (.new .spot))
  let (point, graph) := graph.insert (.lightBucket (.new .point))
  let (ibl, graph) := graph.insert (.lightBucket (.new .ibl))
  let (postLights, graph) := graph.insert (.stencil ⟨LightBucket.lightsSlot, "lights/post-light-setup"⟩)
  ({ root, iblShadowing, shadowFilter, depthFormat, shadows, preLights, directional, spot, point, ibl,
     postLights }, graph)

/-- A model without lights, with its chunks in `graph`. -/
def new (graph : ChunkGraph) (settings : LightModelSettings) : Outcome ChunkGraph LightModel :=
  match filterChoice settings, depthChoice with
  | .error cause, _ => (.error cause, graph)
  | _, .error cause => (.error cause, graph)
  | .ok filter, .ok depth =>
    let (chunks, graph) := insertChunks graph settings filter depth
    match graph.addChildren chunks.root chunks.inOrder with
    | (.ok (), graph) => (.ok { settings, chunks }, graph)
    | (.error cause, graph) => (.error cause, graph)

/-- A model, unless its shadow pool is too large to be held. -/
def new? (graph : ChunkGraph) (settings : LightModelSettings) : Option (Outcome ChunkGraph LightModel) :=
  (ShadowPool.new? settings.maxShadows).map fun _ => new graph settings

def bucket (model : LightModel) (type : LightType) : ChunkId := model.chunks.bucket type

/-! ## Lights -/

/-- Stores a light and adds it to the bucket of its type. The light stays in the model even if its bucket is gone. -/
def addLight (model : LightModel) (graph : ChunkGraph) (light : Light) :
    Outcome (LightModel × ChunkGraph) LightId :=
  let target := model.bucket light.type
  let (id, lights) := model.lights.insert light
  let model := { model with lights }
  match graph.lightBucket? target with
  | none => (.error (.chunkNotFound target), model, graph)
  | some bucket =>
    let (changed, bucket) := bucket.addLight id
    (.ok id, model, graph.store target (.lightBucket bucket) changed)

/-- Takes a light out of the model and of the bucket of its type. -/
def removeLight (model : LightModel) (graph : ChunkGraph) (id : LightId) :
    Outcome (LightModel × ChunkGraph) (Option Light) :=
  match model.lights.remove id with
  | none => (.ok none, model, graph)
  | some (light, lights) =>
    let target := model.bucket light.type
    let model := { model with lights }
    match graph.lightBucket? target with
    | none => (.error (.chunkNotFound target), model, graph)
    | some bucket =>
      let (changed, bucket) := bucket.removeLight id
      (.ok (some light), model, graph.store target (.lightBucket bucket) changed)

def light? (model : LightModel) (id : LightId) : Option Light := model.lights.get? id

/-- Changes the values of a light, to be packed by the next update. Its type is meant to stay. -/
def modifyLight (model : LightModel) (id : LightId) (change : Light → Light) : LightModel :=
  { model with lights := model.lights.modify id change }

/-! ## Options -/

def setShadowFiltering (model : LightModel) (graph : ChunkGraph) (filtering : ShadowFiltering) :
    Outcome (LightModel × ChunkGraph) Unit :=
  let target := model.chunks.shadowFilter
  match graph.choice? target with
  | none => (.error (.chunkNotFound target), model, graph)
  | some choice =>
    match choice.set filtering.variant with
    | .error cause => (.error cause, model, graph)
    | .ok (changed, choice) =>
      (.ok (), { model with settings := { model.settings with shadowFiltering := filtering } },
        graph.store target (.choice choice) changed)

def setIblShadowing (model : LightModel) (graph : ChunkGraph) (enabled : Bool) :
    Outcome (LightModel × ChunkGraph) Unit :=
  let target := model.chunks.iblShadowing
  match graph.flag? target with
  | none => (.error (.chunkNotFound target), model, graph)
  | some flag =>
    let (changed, flag) := flag.set enabled
    (.ok (), { model with settings := { model.settings with iblShadowing := enabled } },
      graph.store target (.flag flag) changed)

/-! ## Updates -/

/-- Updates buckets in order. Each claims its slots from what the ones before it left in the pool. -/
def updateBuckets (lights : Arena .light Light) (shadows : ChunkId) (graph : ChunkGraph) :
    List ChunkId → Outcome ChunkGraph Unit
  | [] => (.ok (), graph)
  | target :: rest =>
    match graph.lightBucket? target, graph.shadowPool? shadows with
    | some bucket, some pool =>
      let (changed, bucket, pool) := bucket.update lights pool
      let graph := (graph.setChunk target (.lightBucket bucket)).setChunk shadows (.shadowPool pool)
      let graph := graph.markPending target
      updateBuckets lights shadows (if changed then graph.invalidateCode target else graph) rest
    | _, _ => (.error (.chunkNotFound target), graph)

/-- Ends the pass of the pool, and gives the form of its maps. -/
def checkPool (shadows : ChunkId) (graph : ChunkGraph) : Outcome ChunkGraph (Option Bool) :=
  match graph.shadowPool? shadows with
  | none => (.error (.chunkNotFound shadows), graph)
  | some pool =>
    let (changed, pool) := pool.check
    let graph := (graph.setChunk shadows (.shadowPool pool)).markPending shadows
    (.ok pool.depthTexture, if changed then graph.invalidateCode shadows else graph)

/-- Declares the form of the shadow maps. -/
def setDepthFormat (target : ChunkId) (depthTexture : Bool) (graph : ChunkGraph) : Outcome ChunkGraph Unit :=
  match graph.choice? target with
  | none => (.error (.chunkNotFound target), graph)
  | some choice =>
    match choice.set (DepthFormat.ofDepthTexture depthTexture).variant with
    | .error cause => (.error cause, graph)
    | .ok (changed, choice) => (.ok (), graph.store target (.choice choice) changed)

/-- One pass over all lights. The form of the maps is declared anew only if a slot was taken. -/
def update (model : LightModel) (graph : ChunkGraph) : Outcome ChunkGraph Unit :=
  let shadows := model.chunks.shadows
  match graph.shadowPool? shadows with
  | none => (.error (.chunkNotFound shadows), graph)
  | some pool =>
    let graph := graph.setChunk shadows (.shadowPool pool.reset)
    match updateBuckets model.lights shadows graph model.chunks.buckets with
    | (.error cause, graph) => (.error cause, graph)
    | (.ok (), graph) =>
      match checkPool shadows graph with
      | (.error cause, graph) => (.error cause, graph)
      | (.ok none, graph) => (.ok (), graph)
      | (.ok (some depthTexture), graph) => setDepthFormat model.chunks.depthFormat depthTexture graph

end LightModel

end ShaderWeave
