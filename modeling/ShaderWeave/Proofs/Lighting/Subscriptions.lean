import ShaderWeave.Proofs.Collection.Runs
import ShaderWeave.Proofs.Lighting.Persistence

/-! # Subscriptions along runs

Whatever happens to a graph, each chunk has the live collections as subscribers that visited it last, each once. So a
mark at a chunk reaches these collections and no others.
-/

namespace ShaderWeave

/-- All that can happen to a graph. States may change without a mark, and marks come without a change. -/
inductive GraphEvent where
  | op (op : GraphOp)
  | setChunk (id : ChunkId) (chunk : Chunk)
  | invalidateList (id : ChunkId)
  | invalidateCode (id : ChunkId)
  | newModel (settings : LightModelSettings)
  | operate (model : LightModel) (op : LightModel.Op)

namespace ChunkGraph

variable {graph before after : ChunkGraph}

def handle (graph : ChunkGraph) : GraphEvent → ChunkGraph
  | .op op => graph.step op
  | .setChunk id chunk => graph.setChunk id chunk
  | .invalidateList id => graph.invalidateList id
  | .invalidateCode id => graph.invalidateCode id
  | .newModel settings => (LightModel.new graph settings).2
  | .operate model op => (model.step graph op).2

def history (events : List GraphEvent) : ChunkGraph := events.foldl handle .empty

/-! ## Steps that move no subscription -/

theorem unmoved_relink (id : ChunkId) {change : ChunkNode → ChunkNode}
    (kept : ∀ node, (change node).subscribers = node.subscribers) :
    Unmoved graph ((graph.modifyNode id change).invalidateList id) :=
  (unmoved_modifyNode id kept).trans (unmoved_markLists _)

theorem unmoved_addChild (parent child : ChunkId) : Unmoved graph (graph.addChild parent child).2 := by
  rcases graph.addChild_cases parent child with same | ⟨node, -, -, -, -, same⟩
  · rw [same]
    exact .refl graph
  · rw [same]
    exact unmoved_relink parent fun _ => rfl

end ChunkGraph

open ChunkGraph

theorem LightModel.Touched.unmoved {before graph : ChunkGraph} (touched : Touched before graph) :
    Unmoved before graph := by
  induction touched with
  | refl => exact .refl before
  | setChunk id chunk _ ih => exact ih.trans (unmoved_modifyNode id fun _ => rfl)
  | markPending id _ ih => exact ih.trans (unmoved_modifyNode id fun _ => rfl)
  | invalidateCode id _ ih => exact ih.trans (unmoved_markCodes _)

theorem LightModel.unmoved_new (graph : ChunkGraph) (settings : LightModelSettings) :
    Unmoved graph (LightModel.new graph settings).2 :=
  new_keeps .refl .trans (fun _ chunk => unmoved_insert chunk) (fun _ parent child => unmoved_addChild parent child)
    graph settings

namespace ChunkGraph

variable {graph before after : ChunkGraph}

/-! ## All steps -/

/-- Subscribers and visits say the same, and nothing twice. -/
structure Tracks (graph : ChunkGraph) : Prop where
  mirrored : graph.Mirrored
  once : graph.SubscribedOnce

theorem Tracks.of_unmoved (tracks : before.Tracks) (unmoved : Unmoved before after) : after.Tracks :=
  ⟨tracks.mirrored.of_unmoved unmoved, tracks.once.of_unmoved unmoved⟩

theorem Tracks.settled (graph : ChunkGraph) (id : ChunkId) (tracks : graph.Tracks) :
    (graph.modifyNode id fun node => { node with pending := false }).Tracks :=
  tracks.of_unmoved (unmoved_modifyNode id fun _ => rfl)

theorem Tracks.refresh (tracks : graph.Tracks) (id : CollectionId) : (graph.refresh id).2.Tracks :=
  graph.refresh_keeps Tracks id tracks
    (fun collection found => ⟨tracks.mirrored.rebuild found, tracks.once.rebuild id collection⟩)
    fun _ _ listed => listed.of_unmoved (unmoved_modifyCollection id fun _ => rfl)

theorem Effect.tracks {op : GraphOp} (effect : graph.Effect op after) (tracks : graph.Tracks) : after.Tracks := by
  cases effect with
  | nothing => exact tracks
  | insert chunk => exact tracks.of_unmoved (unmoved_insert chunk)
  | remove removed => exact ⟨tracks.mirrored.remove removed, tracks.once.remove removed⟩
  | relink id => exact tracks.of_unmoved (unmoved_relink id fun _ => rfl)
  | createProxy target => exact tracks.of_unmoved ((unmoved_insert .group).trans (unmoved_modifyNode _ fun _ => rfl))
  | createCollection => exact ⟨tracks.mirrored.createCollection, tracks.once⟩
  | removeCollection removed => exact ⟨tracks.mirrored.removeCollection removed, tracks.once.removeCollection removed⟩
  | reroot id => exact tracks.of_unmoved (unmoved_modifyCollection id fun _ => rfl)
  | rewrite id chunk =>
    have stored : Unmoved graph (graph.setChunk id chunk) := unmoved_modifyNode id fun _ => rfl
    exact tracks.of_unmoved (stored.trans (unmoved_markCodes _))
  | markPending id => exact tracks.of_unmoved (unmoved_modifyNode id fun _ => rfl)
  | setup id declares => exact setup_keeps Tracks Tracks.settled tracks id declares
  | query id query => exact ask_keeps Tracks Tracks.settled (tracks.refresh id) query

theorem Tracks.step (tracks : graph.Tracks) (op : GraphOp) : (graph.step op).Tracks :=
  (graph.effect_step op).tracks tracks

theorem Tracks.handle (tracks : graph.Tracks) (event : GraphEvent) : (graph.handle event).Tracks := by
  cases event with
  | op op => exact tracks.step op
  | setChunk id chunk => exact tracks.of_unmoved (unmoved_modifyNode id fun _ => rfl)
  | invalidateList id => exact tracks.of_unmoved (unmoved_markLists _)
  | invalidateCode id => exact tracks.of_unmoved (unmoved_markCodes _)
  | newModel settings => exact tracks.of_unmoved (LightModel.unmoved_new graph settings)
  | operate model op => exact tracks.of_unmoved (model.touched_step graph op).unmoved

theorem Tracks.history (events : List GraphEvent) : (history events).Tracks := by
  suffices ∀ graph : ChunkGraph, graph.Tracks → (events.foldl ChunkGraph.handle graph).Tracks from
    this _ ⟨mirrored_empty, subscribedOnce_empty⟩
  induction events with
  | nil => exact fun _ tracks => tracks
  | cons event rest ih => exact fun _ tracks => ih _ (tracks.handle event)

/-! ## Marks -/

/-- A mark at a chunk reaches the collections that visited it. -/
theorem Mirrored.marks (mirrored : graph.Mirrored) (chunk : ChunkId) (id : CollectionId)
    (change : ChunkCollection → ChunkCollection) :
    ((graph.collection? id).map fun collection => if id ∈ graph.subscribers chunk then change collection else collection) =
      (graph.collection? id).map fun collection => if chunk ∈ collection.all then change collection else collection := by
  cases found : graph.collection? id with
  | none => rfl
  | some collection =>
    rw [Option.map_some, Option.map_some]
    simp only [mirrored.visited_iff found]

/-- Along every run, a chunk has those live collections as subscribers that visited it last, each once. So a mark at
the chunk changes the marks of these collections, and nothing else. -/
theorem subscribers_mirror_visits (events : List GraphEvent) (chunk : ChunkId) :
    let graph := history events
    (∀ id, id ∈ graph.subscribers chunk ↔
      ∃ collection, graph.collection? id = some collection ∧ chunk ∈ collection.all) ∧
    (graph.subscribers chunk).Nodup ∧
    (∀ id, (graph.invalidateList chunk).collection? id = (graph.collection? id).map fun collection =>
      if chunk ∈ collection.all then { collection with listDirty := true, codeDirty := true } else collection) ∧
    (∀ id, (graph.invalidateCode chunk).collection? id = (graph.collection? id).map fun collection =>
      if chunk ∈ collection.all then { collection with codeDirty := true } else collection) ∧
    (graph.invalidateList chunk).nodes = graph.nodes ∧ (graph.invalidateCode chunk).nodes = graph.nodes := by
  intro graph
  have tracks : graph.Tracks := Tracks.history events
  refine ⟨tracks.mirrored chunk, tracks.once chunk, fun id => ?_, fun id => ?_, rfl, rfl⟩
  · rw [invalidateList, collection?_markLists]
    exact tracks.mirrored.marks chunk id _
  · rw [invalidateCode, collection?_markCodes]
    exact tracks.mirrored.marks chunk id _

end ChunkGraph

end ShaderWeave
