import ShaderWeave.Lighting.Model
import ShaderWeave.Program.Stock

/-! # Workspaces

A workspace is all that one user assembles programs with: a chunk graph, light models on it, and a program stock, with
the keys that the user keeps under names. A name keeps its key when the thing is gone, and the key is then stale.
-/

namespace ShaderWeave

/-- A key of a chunk, and whether its holder knows the kind of the chunk. -/
structure ChunkHandle where
  id : ChunkId
  typed : Bool
  deriving DecidableEq, Repr

def ChunkHandle.describe (handle : ChunkHandle) : String :=
  if handle.typed then "ChunkHandle(" ++ handle.id.describe ++ ")" else handle.id.describe

/-- The chunks of a model with the names of their parts. What a model changes is known by its kind. -/
def ModelChunks.handles (chunks : ModelChunks) : List (String × ChunkHandle) := [
  ("root", ⟨chunks.root, true⟩), ("shadows", ⟨chunks.shadows, true⟩), ("depthFormat", ⟨chunks.depthFormat, true⟩),
  ("dir", ⟨chunks.directional, true⟩), ("spot", ⟨chunks.spot, true⟩), ("point", ⟨chunks.point, true⟩),
  ("ibl", ⟨chunks.ibl, true⟩), ("iblShadowing", ⟨chunks.iblShadowing, false⟩),
  ("shadowFilter", ⟨chunks.shadowFilter, false⟩), ("preLights", ⟨chunks.preLights, false⟩),
  ("postLights", ⟨chunks.postLights, false⟩)]

structure Workspace where
  graph : ChunkGraph := .empty
  chunks : Names ChunkHandle := {}
  collections : Names CollectionId := {}
  models : Names LightModel := {}
  /-- For each name of a model, the keys of lights that were added under it. Each model names its own lights. -/
  lights : Names (Names LightId) := {}
  stock : ProgramStock := {}

namespace Workspace

def bindChunk (workspace : Workspace) (name : String) (handle : ChunkHandle) : Workspace :=
  { workspace with chunks := workspace.chunks.bind name handle }

/-- Runs an operation of the graph. -/
def onGraph {α : Type} (workspace : Workspace) (operation : ChunkGraph → α × ChunkGraph) : α × Workspace :=
  let (result, graph) := operation workspace.graph
  (result, { workspace with graph })

def insertChunk (workspace : Workspace) (name : String) (chunk : Chunk) (typed : Bool) : ChunkId × Workspace :=
  let (id, graph) := workspace.graph.insert chunk
  (id, { workspace with graph }.bindChunk name ⟨id, typed⟩)

/-- Inserts a group that stands for `target`. -/
def createProxy (workspace : Workspace) (name : String) (target : ChunkId) : Outcome Workspace ChunkId :=
  match workspace.onGraph fun graph => graph.createProxy target with
  | (.ok id, workspace) => (.ok id, workspace.bindChunk name ⟨id, true⟩)
  | failed => failed

def createCollection (workspace : Workspace) (name : String) : CollectionId × Workspace :=
  let (id, graph) := workspace.graph.createCollection
  (id, { workspace with graph, collections := workspace.collections.bind name id })

/-- Binds a model, and its chunks under the name of the model, a point, and the name of the part. -/
def bindModel (workspace : Workspace) (name : String) (model : LightModel) : Workspace :=
  model.chunks.handles.foldl (fun workspace (part, handle) => workspace.bindChunk (name ++ "." ++ part) handle)
    { workspace with models := workspace.models.bind name model }

/-- Makes and binds a model, unless its shadow pool is too large to be held. -/
def createModel? (workspace : Workspace) (name : String) (settings : LightModelSettings) :
    Option (Outcome Workspace ModelChunks) :=
  (LightModel.new? workspace.graph settings).map fun
    | (.ok model, graph) => (.ok model.chunks, { workspace with graph }.bindModel name model)
    | (.error cause, graph) => (.error cause, { workspace with graph })

/-- Runs an operation of a named model. -/
def onModel {α : Type} (workspace : Workspace) (name : String)
    (operation : LightModel → ChunkGraph → α × LightModel × ChunkGraph) : Option (α × Workspace) :=
  (workspace.models.lookup? name).map fun model =>
    let (result, model, graph) := operation model workspace.graph
    (result, { workspace with graph, models := workspace.models.bind name model })

/-- The keys of the lights that were added to a named model. -/
def lightsOf (workspace : Workspace) (modelName : String) : Names LightId :=
  (workspace.lights.lookup? modelName).getD {}

def bindLight (workspace : Workspace) (modelName name : String) (id : LightId) : Workspace :=
  { workspace with lights := workspace.lights.bind modelName ((workspace.lightsOf modelName).bind name id) }

/-- Adds a light to a named model and binds its key. -/
def addLight (workspace : Workspace) (modelName : String) (light : Light) (name : String) :
    Option (Outcome Workspace LightId) :=
  (workspace.onModel modelName fun model graph => model.addLight graph light).map fun
    | (.ok id, workspace) => (.ok id, workspace.bindLight modelName name id)
    | failed => failed

/-- The program of a template and a collection of the graph, from a cache. It is held under a name if one is given. -/
def compileCollection (workspace : Workspace) (place : CachePlace) (backendName : String) (template : Template)
    (collection : CollectionId) (name : Option String) : Option (Outcome Workspace ProgramId) :=
  (workspace.stock.compileCollection workspace.graph place backendName template collection name).map
    fun (result, stock, graph) => (result, { workspace with stock, graph })

/-- Sets a collection up with a held program, and looks at what the program got. -/
def setupProgram (workspace : Workspace) (collection : CollectionId) (name : String) :
    Option (Outcome Workspace ProgramView) :=
  (workspace.stock.program? name).bind fun program =>
    match workspace.graph.collectionSetup collection program.declares with
    | (.error cause, graph) => some (.error cause, { workspace with graph })
    | (.ok calls, graph) => (workspace.stock.push name calls).map fun (view, stock) =>
      (.ok view, { workspace with graph, stock })

/-- A light that is added under a name changes no other name, of this model or of another. -/
theorem lookup?_lightsOf_bindLight (workspace : Workspace) (modelName name other otherName : String) (id : LightId) :
    ((workspace.bindLight modelName name id).lightsOf other).lookup? otherName =
      if other = modelName ∧ otherName = name then some id else (workspace.lightsOf other).lookup? otherName := by
  by_cases same : other = modelName
  · subst same
    simp [lightsOf, bindLight, Names.lookup?_bind, eq_comm]
  · simp only [lightsOf, bindLight, Names.lookup?_bind, same, false_and, if_false]

end Workspace

end ShaderWeave
