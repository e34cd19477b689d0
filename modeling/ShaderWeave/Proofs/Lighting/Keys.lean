import ShaderWeave.Proofs.Collection.Persistence
import ShaderWeave.Proofs.Graph.Chunks
import ShaderWeave.Proofs.Lighting.Hashes

/-! # Keys of light models

A chunk can be taken out by others, but nothing else ever stands under its key: no key is handed out twice, and the
edits of a graph leave the states of chunks alone. So what is under a key of a light model is a chunk of light models,
or nothing.
-/

namespace ShaderWeave.ChunkGraph

variable {graph before middle after : ChunkGraph} {id : ChunkId}

/-! ## States -/

/-- The chunk under a key that was handed out is as it was, or gone. -/
structure Spares (id : ChunkId) (before after : ChunkGraph) : Prop where
  issued : before.nodes.Issued id → after.nodes.Issued id
  chunk : before.nodes.Issued id → after.chunk? id = before.chunk? id ∨ after.chunk? id = none

theorem Spares.refl (id : ChunkId) (graph : ChunkGraph) : Spares id graph graph := ⟨fun issued => issued, fun _ => .inl rfl⟩

theorem Spares.trans (first : Spares id before middle) (second : Spares id middle after) : Spares id before after := by
  refine ⟨second.issued ∘ first.issued, fun issued => ?_⟩
  rcases second.chunk (first.issued issued) with same | gone
  · rw [same]
    exact first.chunk issued
  · exact .inr gone

theorem chunk?_of_bare (same : after.bare = before.bare) (id : ChunkId) : after.chunk? id = before.chunk? id := by
  have chunks := congrArg (Option.map ChunkNode.chunk) (node?_of_bare same id)
  rw [Option.map_map, Option.map_map] at chunks
  exact chunks

theorem Spares.of_bare (same : after.bare = before.bare) : Spares id before after where
  issued := issued_of_bare same
  chunk _ := .inl (chunk?_of_bare same id)

theorem spares_modifyNode (other : ChunkId) {change : ChunkNode → ChunkNode}
    (kept : ∀ node, (change node).chunk = node.chunk) : Spares id graph (graph.modifyNode other change) where
  issued := (Arena.issued_mapEntries _).2
  chunk _ := .inl (graph.chunk?_modifyNode other id kept)

theorem spares_relink (other : ChunkId) {change : ChunkNode → ChunkNode}
    (kept : ∀ node, (change node).chunk = node.chunk) :
    Spares id graph ((graph.modifyNode other change).invalidateList other) :=
  have changed := spares_modifyNode other kept
  ⟨changed.issued, changed.chunk⟩

/-! ## Edits -/

theorem spares_insert (chunk : Chunk) : Spares id graph (graph.insert chunk).2 where
  issued issued := issued.insert _
  chunk issued := by
    have apart : id ≠ (graph.insert chunk).1 := fun same =>
      graph.nodes.not_issued_insert_key (.ofChunk chunk) (same ▸ issued)
    exact .inl (by rw [chunk?_insert, if_neg apart])

theorem spares_remove {rest : ChunkGraph} {other : ChunkId} {chunk : Chunk}
    (removed : graph.remove other = some (chunk, rest)) : Spares id graph rest where
  issued issued := by
    unfold ChunkGraph.remove at removed
    split at removed
    · simp at removed
    · next node nodes taken =>
      obtain ⟨-, rfl⟩ := Prod.mk.inj (Option.some.inj removed)
      exact (Arena.issued_mapEntries _).2 (issued.remove taken)
  chunk _ := by
    obtain ⟨node, marked, -, -, nodes, -⟩ := remove_cases removed
    rw [chunk?, nodes]
    split
    · exact .inr rfl
    · rw [Option.map_map]
      exact .inl rfl

theorem spares_removeCollection {rest : ChunkGraph} {other : CollectionId} {collection : ChunkCollection}
    (removed : graph.removeCollection other = some (collection, rest)) : Spares id graph rest where
  issued issued := by
    unfold ChunkGraph.removeCollection at removed
    split at removed
    · simp at removed
    · obtain ⟨-, rfl⟩ := Prod.mk.inj (Option.some.inj removed)
      exact (Arena.issued_mapEntries _).2 issued
  chunk _ := by
    obtain ⟨-, -, nodes⟩ := removeCollection_cases removed
    left
    rw [chunk?, nodes, Option.map_map, chunk?]
    congr 1
    funext node
    rw [Function.comp_apply]
    split <;> rfl

/-- Only a rewrite of the very chunk puts another state under the key. -/
theorem Effect.spares {op : GraphOp} (effect : graph.Effect op after) (spared : ∀ chunk, op ≠ .rewrite id chunk) :
    Spares id graph after := by
  cases effect with
  | nothing => exact .refl id graph
  | insert chunk => exact spares_insert chunk
  | remove removed => exact spares_remove removed
  | relink other => exact spares_relink other fun _ => rfl
  | createProxy target => exact (spares_insert .group).trans (spares_modifyNode _ fun _ => rfl)
  | createCollection => exact ⟨fun issued => issued, fun _ => .inl rfl⟩
  | removeCollection removed => exact spares_removeCollection removed
  | reroot => exact ⟨fun issued => issued, fun _ => .inl rfl⟩
  | rewrite other chunk =>
    have apart : id ≠ other := by
      rintro rfl
      exact spared chunk rfl
    refine ⟨(Arena.issued_mapEntries _).2, fun _ => .inl ?_⟩
    rw [chunk?_invalidateCode, chunk?_setChunk, if_neg apart]
  | markPending other => exact spares_modifyNode other fun _ => rfl
  | setup other declares => exact .of_bare (bare_setup other declares)
  | query collection query => exact .of_bare (bare_ask collection query)

theorem spares_step {op : GraphOp} (spared : ∀ chunk, op ≠ .rewrite id chunk) : Spares id graph (graph.step op) :=
  (graph.effect_step op).spares spared

theorem spares_addChild (parent child : ChunkId) : Spares id graph (graph.addChild parent child).2 :=
  (graph.effect_step (.addChild parent child)).spares nofun

/-! ## Keys of light models -/

/-- A key that was handed out, with a chunk of a light model under it or nothing. -/
structure LightKey (graph : ChunkGraph) (id : ChunkId) : Prop where
  issued : graph.nodes.Issued id
  light : ∀ chunk, graph.chunk? id = some chunk → chunk.LightCode

theorem LightKey.of_found {chunk : Chunk} (found : graph.chunk? id = some chunk) (light : chunk.LightCode) :
    graph.LightKey id where
  issued := by
    obtain ⟨node, held, -⟩ := Option.map_eq_some_iff.1 found
    exact Arena.issued_of_get? held
  light chunk' found' := by
    cases found.symm.trans found'
    exact light

theorem LightKey.spared (key : before.LightKey id) (spares : Spares id before after) : after.LightKey id where
  issued := spares.issued key.issued
  light chunk found := by
    rcases spares.chunk key.issued with same | gone
    · exact key.light chunk (same ▸ found)
    · cases gone.symm.trans found

/-- A chunk of a light model may get another state that is one of light models. -/
theorem LightKey.setChunk (key : graph.LightKey id) {other : ChunkId} {chunk : Chunk}
    (light : ∀ old, graph.chunk? other = some old → old.LightCode → chunk.LightCode) :
    (graph.setChunk other chunk).LightKey id where
  issued := (Arena.issued_mapEntries _).2 key.issued
  light chunk' found := by
    rw [chunk?_setChunk] at found
    split at found
    · next here =>
      obtain ⟨old, held, rfl⟩ := Option.map_eq_some_iff.1 found
      exact light old (here ▸ held) (key.light old held)
    · exact key.light chunk' found

theorem LightKey.invalidateCode (key : graph.LightKey id) (other : ChunkId) :
    (graph.invalidateCode other).LightKey id :=
  ⟨key.issued, key.light⟩

end ShaderWeave.ChunkGraph
