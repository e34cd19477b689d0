import ShaderWeave.Proofs.Collection.Runs

/-! # What stays under a key

What a chunk takes part in is read once, when the chunk is inserted, and no key is handed out twice. So whatever
happens to a graph, the chunk under a key that was handed out takes part in what it always did.
-/

namespace ShaderWeave.ChunkGraph

variable {graph before middle after : ChunkGraph}

/-! ## Capabilities -/

/-- Keys stay handed out, and a chunk that is still there takes part in the same. -/
structure Persists (before after : ChunkGraph) : Prop where
  issued : ∀ id, before.nodes.Issued id → after.nodes.Issued id
  caps : ∀ id node, before.nodes.Issued id → after.node? id = some node →
    ∃ old, before.node? id = some old ∧ old.caps = node.caps

theorem Persists.refl (graph : ChunkGraph) : Persists graph graph :=
  ⟨fun _ => id, fun _ node _ found => ⟨node, found, rfl⟩⟩

theorem Persists.trans (first : Persists before middle) (second : Persists middle after) : Persists before after := by
  refine ⟨fun id => second.issued id ∘ first.issued id, ?_⟩
  intro id node issued found
  obtain ⟨between, held, same⟩ := second.caps id node (first.issued id issued) found
  obtain ⟨old, held, same'⟩ := first.caps id between issued held
  exact ⟨old, held, same'.trans same⟩

/-- What the chunk under a key takes part in, if it is there. -/
structure Bears (graph : ChunkGraph) (id : ChunkId) (caps : Caps) : Prop where
  issued : graph.nodes.Issued id
  caps : ∀ node, graph.node? id = some node → node.caps = caps

theorem Bears.of_found {id : ChunkId} {node : ChunkNode} (found : graph.node? id = some node) :
    graph.Bears id node.caps where
  issued := Arena.issued_of_get? found
  caps other held := by cases found.symm.trans held; rfl

theorem Persists.bears (persists : Persists before after) {id : ChunkId} {caps : Caps} (bears : before.Bears id caps) :
    after.Bears id caps where
  issued := persists.issued id bears.issued
  caps node found := by
    obtain ⟨old, held, same⟩ := persists.caps id node bears.issued found
    exact same.symm.trans (bears.caps old held)

theorem persists_of_nodes (same : after.nodes = before.nodes) : Persists before after := by
  refine ⟨fun id issued => same ▸ issued, fun id node _ found => ⟨node, ?_, rfl⟩⟩
  rw [← found, node?, node?, same]

theorem persists_modifyNode (id : ChunkId) {change : ChunkNode → ChunkNode}
    (kept : ∀ node, (change node).caps = node.caps) : Persists graph (graph.modifyNode id change) := by
  refine ⟨fun _ => (Arena.issued_mapEntries _).2, ?_⟩
  intro other node _ found
  rw [node?_modifyNode] at found
  split at found
  · obtain ⟨old, held, rfl⟩ := Option.map_eq_some_iff.1 found
    exact ⟨old, held, (kept old).symm⟩
  · exact ⟨node, found, rfl⟩

theorem persists_relink (id : ChunkId) {change : ChunkNode → ChunkNode}
    (kept : ∀ node, (change node).caps = node.caps) :
    Persists graph ((graph.modifyNode id change).invalidateList id) :=
  (persists_modifyNode id kept).trans (persists_of_nodes rfl)

theorem persists_insert (graph : ChunkGraph) (chunk : Chunk) : Persists graph (graph.insert chunk).2 := by
  refine ⟨fun _ issued => issued.insert _, ?_⟩
  intro id node issued found
  have apart : id ≠ (graph.insert chunk).1 := fun same =>
    graph.nodes.not_issued_insert_key (.ofChunk chunk) (same ▸ issued)
  rw [node?_insert, if_neg apart] at found
  exact ⟨node, found, rfl⟩

theorem persists_remove {rest : ChunkGraph} {id : ChunkId} {chunk : Chunk}
    (removed : graph.remove id = some (chunk, rest)) : Persists graph rest := by
  obtain ⟨-, -, -, -, nodes, -⟩ := remove_cases removed
  refine ⟨?_, ?_⟩
  · intro other issued
    unfold ChunkGraph.remove at removed
    split at removed
    · cases removed
    · next node places taken =>
      obtain ⟨-, rfl⟩ := Prod.mk.inj (Option.some.inj removed)
      exact (Arena.issued_mapEntries _).2 (issued.remove taken)
  · intro other node _ found
    rw [nodes] at found
    split at found
    · cases found
    · obtain ⟨old, held, rfl⟩ := Option.map_eq_some_iff.1 found
      exact ⟨old, held, rfl⟩

theorem persists_removeCollection {rest : ChunkGraph} {id : CollectionId} {collection : ChunkCollection}
    (removed : graph.removeCollection id = some (collection, rest)) : Persists graph rest := by
  obtain ⟨-, -, nodes⟩ := removeCollection_cases removed
  refine ⟨?_, ?_⟩
  · intro other issued
    unfold ChunkGraph.removeCollection at removed
    split at removed
    · cases removed
    · obtain ⟨-, rfl⟩ := Prod.mk.inj (Option.some.inj removed)
      exact (Arena.issued_mapEntries _).2 issued
  · intro other node _ found
    rw [nodes] at found
    obtain ⟨old, held, rfl⟩ := Option.map_eq_some_iff.1 found
    refine ⟨old, held, ?_⟩
    split <;> rfl

theorem issued_of_bare (same : after.bare = before.bare) {id : ChunkId} (issued : before.nodes.Issued id) :
    after.nodes.Issued id := by
  have nodes : after.bare.nodes.Issued id ↔ before.bare.nodes.Issued id := by rw [same]
  exact (Arena.issued_mapEntries _).1 (nodes.2 ((Arena.issued_mapEntries _).2 issued))

theorem persists_of_bare (same : after.bare = before.bare) : Persists before after := by
  refine ⟨fun _ => issued_of_bare same, ?_⟩
  intro id node _ found
  have nodes := node?_of_bare same id
  rw [found] at nodes
  obtain ⟨old, held, alike⟩ := Option.map_eq_some_iff.1 nodes.symm
  have caps : old.bare.caps = node.bare.caps := by rw [alike]
  exact ⟨old, held, caps⟩

theorem Effect.persists {op : GraphOp} (effect : graph.Effect op after) : Persists graph after := by
  cases effect with
  | nothing => exact .refl graph
  | insert chunk => exact graph.persists_insert chunk
  | remove removed => exact persists_remove removed
  | relink id => exact persists_relink id fun _ => rfl
  | createProxy target => exact (graph.persists_insert .group).trans (persists_modifyNode _ fun _ => rfl)
  | createCollection => exact persists_of_nodes rfl
  | removeCollection removed => exact persists_removeCollection removed
  | reroot => exact persists_of_nodes rfl
  | rewrite id chunk =>
    have stored : Persists graph (graph.setChunk id chunk) := persists_modifyNode id fun _ => rfl
    exact stored.trans (persists_of_nodes rfl)
  | markPending id => exact persists_modifyNode id fun _ => rfl
  | setup id declares => exact persists_of_bare (bare_setup id declares)
  | query id query => exact persists_of_bare (bare_ask id query)

theorem persists_step (graph : ChunkGraph) (op : GraphOp) : Persists graph (graph.step op) :=
  (graph.effect_step op).persists

/-! ## Edges -/

/-- What a node is apart from its state and its bookkeeping. -/
def frame (node : ChunkNode) : Caps × List ChunkId × Option ChunkId := (node.caps, node.children, node.proxy)

/-- No chunk comes, goes or leads elsewhere. -/
structure Framed (before after : ChunkGraph) : Prop where
  issued : ∀ id, before.nodes.Issued id → after.nodes.Issued id
  frames : ∀ id, (after.node? id).map frame = (before.node? id).map frame

theorem Framed.refl (graph : ChunkGraph) : Framed graph graph := ⟨fun _ => id, fun _ => rfl⟩

theorem Framed.trans (first : Framed before middle) (second : Framed middle after) : Framed before after :=
  ⟨fun id => second.issued id ∘ first.issued id, fun id => (second.frames id).trans (first.frames id)⟩

theorem Framed.found (framed : Framed before after) {id : ChunkId} {node : ChunkNode}
    (found : before.node? id = some node) : ∃ new, after.node? id = some new ∧ frame new = frame node :=
  Option.map_eq_some_iff.1 ((framed.frames id).trans (congrArg (Option.map frame) found))

theorem Framed.persists (framed : Framed before after) : Persists before after := by
  refine ⟨framed.issued, ?_⟩
  intro id node _ found
  obtain ⟨old, held, same⟩ :=
    Option.map_eq_some_iff.1 ((framed.frames id).symm.trans (congrArg (Option.map frame) found))
  exact ⟨old, held, congrArg Prod.fst same⟩

theorem framed_of_bare (same : after.bare = before.bare) : Framed before after := by
  refine ⟨fun _ => issued_of_bare same, fun id => ?_⟩
  have nodes := congrArg (Option.map frame) (node?_of_bare same id)
  rwa [Option.map_map, Option.map_map] at nodes

theorem framed_modifyNode (id : ChunkId) {change : ChunkNode → ChunkNode}
    (kept : ∀ node, frame (change node) = frame node) : Framed graph (graph.modifyNode id change) := by
  refine ⟨fun _ => (Arena.issued_mapEntries _).2, ?_⟩
  intro other
  rw [node?_modifyNode]
  split
  · rw [Option.map_map, show frame ∘ change = frame from funext kept]
  · rfl

end ShaderWeave.ChunkGraph
