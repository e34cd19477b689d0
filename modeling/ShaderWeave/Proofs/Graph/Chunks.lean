import ShaderWeave.Lighting.Model
import ShaderWeave.Proofs.Graph.Edits

/-! # States of chunks

Marks, edges and lists leave the states of chunks alone, and storing a state changes one chunk.
-/

namespace ShaderWeave.ChunkGraph

variable (graph : ChunkGraph)

theorem chunk?_setChunk (id other : ChunkId) (chunk : Chunk) :
    (graph.setChunk id chunk).chunk? other =
      if other = id then (graph.chunk? other).map fun _ => chunk else graph.chunk? other := by
  rw [chunk?, setChunk, node?_modifyNode]
  split
  · rw [Option.map_map, chunk?, Option.map_map]
    rfl
  · rfl

variable {graph} in
theorem chunk?_setChunk_self {id : ChunkId} {old : Chunk} (stored : graph.chunk? id = some old) (chunk : Chunk) :
    (graph.setChunk id chunk).chunk? id = some chunk := by
  rw [chunk?_setChunk, if_pos rfl, stored]
  rfl

theorem chunk?_setChunk_of_ne {id other : ChunkId} (apart : other ≠ id) (chunk : Chunk) :
    (graph.setChunk id chunk).chunk? other = graph.chunk? other := by
  rw [chunk?_setChunk, if_neg apart]

theorem chunk?_modifyNode (id other : ChunkId) {change : ChunkNode → ChunkNode}
    (kept : ∀ node, (change node).chunk = node.chunk) :
    (graph.modifyNode id change).chunk? other = graph.chunk? other := by
  rw [chunk?, node?_modifyNode]
  split
  · rw [Option.map_map, chunk?]
    congr 1
    funext node
    exact kept node
  · rfl

@[simp] theorem chunk?_markPending (id other : ChunkId) : (graph.markPending id).chunk? other = graph.chunk? other :=
  graph.chunk?_modifyNode id other fun _ => rfl

@[simp] theorem chunk?_invalidateCode (id other : ChunkId) :
    (graph.invalidateCode id).chunk? other = graph.chunk? other := rfl

@[simp] theorem chunk?_invalidateList (id other : ChunkId) :
    (graph.invalidateList id).chunk? other = graph.chunk? other := rfl

@[simp] theorem chunk?_ite_invalidateCode (changed : Bool) (id other : ChunkId) :
    (if changed then graph.invalidateCode id else graph).chunk? other = graph.chunk? other := by
  split <;> simp

theorem chunk?_store (id other : ChunkId) (chunk : Chunk) (changed : Bool) :
    (graph.store id chunk changed).chunk? other =
      if other = id then (graph.chunk? other).map fun _ => chunk else graph.chunk? other := by
  rw [store, chunk?_ite_invalidateCode, chunk?_setChunk]

theorem chunk?_insert (chunk : Chunk) (id : ChunkId) :
    (graph.insert chunk).2.chunk? id = if id = (graph.insert chunk).1 then some chunk else graph.chunk? id := by
  rw [chunk?, node?_insert]
  split <;> rfl

@[simp] theorem chunk?_addChild (parent child id : ChunkId) :
    (graph.addChild parent child).2.chunk? id = graph.chunk? id := by
  rcases graph.addChild_cases parent child with same | ⟨-, -, -, -, -, same⟩
  · rw [same]
  · rw [same, chunk?_invalidateList]
    exact graph.chunk?_modifyNode parent id fun _ => rfl

/-- What a new child keeps of a graph, several new children keep. -/
theorem addChildren_keeps {keeps : ChunkGraph → ChunkGraph → Prop} (refl : ∀ graph, keeps graph graph)
    (trans : ∀ {first second third}, keeps first second → keeps second third → keeps first third) {parent : ChunkId}
    (step : ∀ graph child, keeps graph (graph.addChild parent child).2) (children : List ChunkId) :
    keeps graph (graph.addChildren parent children).2 := by
  induction children generalizing graph with
  | nil => exact refl graph
  | cons child rest ih =>
    have first := step graph child
    unfold addChildren
    split
    · next linked =>
      rw [linked] at first
      exact trans first (ih _)
    · exact first

@[simp] theorem chunk?_addChildren (parent : ChunkId) (children : List ChunkId) (id : ChunkId) :
    (graph.addChildren parent children).2.chunk? id = graph.chunk? id := by
  let keeps (before after : ChunkGraph) : Prop := after.chunk? id = before.chunk? id
  exact graph.addChildren_keeps (show ∀ graph, keeps graph graph from fun _ => rfl)
    (fun first second => second.trans first) (fun graph child => graph.chunk?_addChild parent child id) children

/-! ## Chunks of one kind -/

variable {graph}

theorem flag?_eq_some_iff {id : ChunkId} {flag : Flag} :
    graph.flag? id = some flag ↔ graph.chunk? id = some (.flag flag) := by
  unfold flag?
  split <;> simp_all

theorem choice?_eq_some_iff {id : ChunkId} {choice : Choice} :
    graph.choice? id = some choice ↔ graph.chunk? id = some (.choice choice) := by
  unfold choice?
  split <;> simp_all

theorem shadowPool?_eq_some_iff {id : ChunkId} {pool : ShadowPool} :
    graph.shadowPool? id = some pool ↔ graph.chunk? id = some (.shadowPool pool) := by
  unfold shadowPool?
  split <;> simp_all

theorem lightBucket?_eq_some_iff {id : ChunkId} {bucket : LightBucket} :
    graph.lightBucket? id = some bucket ↔ graph.chunk? id = some (.lightBucket bucket) := by
  unfold lightBucket?
  split <;> simp_all

end ShaderWeave.ChunkGraph
