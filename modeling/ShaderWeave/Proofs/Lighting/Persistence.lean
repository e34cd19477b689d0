import ShaderWeave.Proofs.Lighting.Upkeep

/-! # Edges around light models

Light models change states only: their operations leave the edges of the graph as they are, and the chunks under the keys
that were handed out.
-/

namespace ShaderWeave.LightModel

open ChunkGraph

/-- What operations of light models do: chunks get other states, have values to upload and are marked. -/
inductive Touched (before : ChunkGraph) : ChunkGraph → Prop where
  | refl : Touched before before
  | setChunk {graph : ChunkGraph} (id : ChunkId) (chunk : Chunk) :
      Touched before graph → Touched before (graph.setChunk id chunk)
  | markPending {graph : ChunkGraph} (id : ChunkId) : Touched before graph → Touched before (graph.markPending id)
  | invalidateCode {graph : ChunkGraph} (id : ChunkId) :
      Touched before graph → Touched before (graph.invalidateCode id)

variable {before graph : ChunkGraph}

namespace Touched

theorem mark (touched : Touched before graph) (changed : Bool) (id : ChunkId) :
    Touched before (if changed then graph.invalidateCode id else graph) := by
  cases changed with
  | false => exact touched
  | true => exact touched.invalidateCode id

theorem store (touched : Touched before graph) (id : ChunkId) (chunk : Chunk) (changed : Bool) :
    Touched before (graph.store id chunk changed) :=
  (touched.setChunk id chunk).mark changed id

theorem announce (touched : Touched before graph) (id : ChunkId) (changed : Bool) :
    Touched before (LightModel.announce graph id changed) :=
  (touched.markPending id).mark changed id

/-- What is written to a graph is written after what was done before. -/
theorem write {ids : List ChunkId} {after : ChunkGraph} (touched : Touched before graph) (write : Write ids graph after) :
    Touched before after := by
  cases write with
  | addLight => exact touched.store ..
  | removeLight => exact touched.store ..
  | setFlag => exact touched.store ..
  | setChoice => exact touched.store ..
  | resetPool => exact touched.setChunk ..
  | updateBucket => exact ((touched.setChunk ..).setChunk ..).announce ..
  | checkPool => exact (touched.setChunk ..).announce ..

end Touched

theorem Writes.touched {ids : List ChunkId} (writes : Writes ids before graph) : Touched before graph := by
  induction writes with
  | refl => exact .refl
  | tail _ last ih => exact ih.write last

theorem touched_step (model : LightModel) (graph : ChunkGraph) (op : Op) : Touched graph (model.step graph op).2 :=
  (model.writes_step graph op).touched

/-- States change, and nothing about edges. -/
theorem Touched.framed (touched : Touched before graph) : Framed before graph := by
  induction touched with
  | refl => exact .refl before
  | setChunk id chunk _ ih => exact ih.trans (framed_modifyNode id fun _ => rfl)
  | markPending id _ ih => exact ih.trans (framed_modifyNode id fun _ => rfl)
  | invalidateCode id _ ih => exact ih.trans ⟨fun _ issued => issued, fun _ => rfl⟩

theorem framed_step (model : LightModel) (graph : ChunkGraph) (op : Op) : Framed graph (model.step graph op).2 :=
  (model.touched_step graph op).framed

theorem framed_update (model : LightModel) (graph : ChunkGraph) : Framed graph (model.update graph).2 :=
  model.framed_step graph .update

theorem persists_new (graph : ChunkGraph) (settings : LightModelSettings) : Persists graph (new graph settings).2 :=
  new_keeps .refl .trans persists_insert (fun graph parent child => graph.persists_step (.addChild parent child)) graph
    settings

end ShaderWeave.LightModel
