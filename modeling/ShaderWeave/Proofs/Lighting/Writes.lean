import Mathlib.Logic.Relation
import ShaderWeave.Proofs.Graph.Chunks

/-! # Writes of light models

An operation of a light model goes from chunk to chunk, and stops at the first one that is missing. Whatever it finds, all
that it does to the graph is a sequence of writes: each finds a chunk of the kind that it expects, puts a later state
there, and marks the subscribers if the code is another one. So what each write keeps, every operation keeps.
-/

namespace ShaderWeave.LightModel

open ChunkGraph Relation

/-! ## Operations -/

/-- An operation of a model. Changes of a light may be of any kind. -/
inductive Op where
  | addLight (light : Light)
  | removeLight (id : LightId)
  | modifyLight (id : LightId) (change : Light → Light)
  | setShadowFiltering (filtering : ShadowFiltering)
  | setIblShadowing (enabled : Bool)
  | update

/-- Model and graph after an operation, which may have failed. -/
def step (model : LightModel) (graph : ChunkGraph) : Op → LightModel × ChunkGraph
  | .addLight light => (model.addLight graph light).2
  | .removeLight id => (model.removeLight graph id).2
  | .modifyLight id change => (model.modifyLight id change, graph)
  | .setShadowFiltering filtering => (model.setShadowFiltering graph filtering).2
  | .setIblShadowing enabled => (model.setIblShadowing graph enabled).2
  | .update => (model, (model.update graph).2)

theorem mem_all (type : LightType) : type ∈ LightType.all := by
  cases type <;> decide

theorem bucket_mem_inOrder (chunks : ModelChunks) (type : LightType) : chunks.bucket type ∈ chunks.inOrder :=
  List.mem_append_left _ (List.mem_append_right _ (List.mem_map_of_mem (mem_all type)))

/-! ## Writes -/

/-- Values of a chunk wait, and its subscribers are marked if its code is another one. -/
def announce (graph : ChunkGraph) (id : ChunkId) (changed : Bool) : ChunkGraph :=
  if changed then (graph.markPending id).invalidateCode id else graph.markPending id

/-- What operations of light models do to chunks in `ids`. -/
inductive Write (ids : List ChunkId) (graph : ChunkGraph) : ChunkGraph → Prop where
  | addLight {target : ChunkId} {bucket : LightBucket} (member : target ∈ ids)
      (found : graph.lightBucket? target = some bucket) (id : LightId) :
      Write ids graph (graph.store target (.lightBucket (bucket.addLight id).2) (bucket.addLight id).1)
  | removeLight {target : ChunkId} {bucket : LightBucket} (member : target ∈ ids)
      (found : graph.lightBucket? target = some bucket) (id : LightId) :
      Write ids graph (graph.store target (.lightBucket (bucket.removeLight id).2) (bucket.removeLight id).1)
  | setFlag {target : ChunkId} {flag : Flag} (member : target ∈ ids) (found : graph.flag? target = some flag)
      (value : Bool) : Write ids graph (graph.store target (.flag (flag.set value).2) (flag.set value).1)
  | setChoice {target : ChunkId} {choice chosen : Choice} {value : String} {changed : Bool} (member : target ∈ ids)
      (found : graph.choice? target = some choice) (set : choice.set value = .ok (changed, chosen)) :
      Write ids graph (graph.store target (.choice chosen) changed)
  | resetPool {shadows : ChunkId} {pool : ShadowPool} (member : shadows ∈ ids)
      (found : graph.shadowPool? shadows = some pool) :
      Write ids graph (graph.setChunk shadows (.shadowPool pool.reset))
  /-- A bucket and the pool of which it takes slots. -/
  | updateBucket (lights : Arena .light Light) {target shadows : ChunkId} {bucket : LightBucket} {pool : ShadowPool}
      (member : target ∈ ids) (pooled : shadows ∈ ids) (found : graph.lightBucket? target = some bucket)
      (stored : graph.shadowPool? shadows = some pool) :
      Write ids graph (announce ((graph.setChunk target (.lightBucket (bucket.update lights pool).2.1)).setChunk shadows
        (.shadowPool (bucket.update lights pool).2.2)) target (bucket.update lights pool).1)
  | checkPool {shadows : ChunkId} {pool : ShadowPool} (member : shadows ∈ ids)
      (found : graph.shadowPool? shadows = some pool) :
      Write ids graph (announce (graph.setChunk shadows (.shadowPool pool.check.2)) shadows pool.check.1)

/-- Any number of writes, one after the other. -/
abbrev Writes (ids : List ChunkId) : ChunkGraph → ChunkGraph → Prop := ReflTransGen (Write ids)

variable {ids more : List ChunkId} {graph before after : ChunkGraph}

theorem Write.mono (write : Write ids before after) (within : ids ⊆ more) : Write more before after := by
  cases write with
  | addLight member found id => exact .addLight (within member) found id
  | removeLight member found id => exact .removeLight (within member) found id
  | setFlag member found value => exact .setFlag (within member) found value
  | setChoice member found set => exact .setChoice (within member) found set
  | resetPool member found => exact .resetPool (within member) found
  | updateBucket lights member pooled found stored =>
    exact .updateBucket lights (within member) (within pooled) found stored
  | checkPool member found => exact .checkPool (within member) found

namespace Writes

theorem mono (writes : Writes ids before after) (within : ids ⊆ more) : Writes more before after :=
  writes.lift id fun _ _ write => write.mono within

/-- What one write keeps, all of them keep. -/
theorem keeps {keeps : ChunkGraph → ChunkGraph → Prop} (writes : Writes ids before after)
    (refl : ∀ graph, keeps graph graph)
    (trans : ∀ {first second third}, keeps first second → keeps second third → keeps first third)
    (write : ∀ {graph after}, Write ids graph after → keeps graph after) : keeps before after := by
  induction writes with
  | refl => exact refl before
  | tail _ last ih => exact trans ih (write last)

end Writes

/-! ## Chunks that are left alone -/

theorem chunk?_announce (graph : ChunkGraph) (id other : ChunkId) (changed : Bool) :
    (announce graph id changed).chunk? other = graph.chunk? other := by
  unfold announce
  split <;> simp

theorem Write.chunk?_eq (write : Write ids before after) {id : ChunkId} (foreign : id ∉ ids) :
    after.chunk? id = before.chunk? id := by
  have apart {target : ChunkId} (member : target ∈ ids) : id ≠ target := (ne_of_mem_of_not_mem member foreign).symm
  cases write with
  | addLight member => rw [chunk?_store, if_neg (apart member)]
  | removeLight member => rw [chunk?_store, if_neg (apart member)]
  | setFlag member => rw [chunk?_store, if_neg (apart member)]
  | setChoice member => rw [chunk?_store, if_neg (apart member)]
  | resetPool member => rw [chunk?_setChunk_of_ne _ (apart member)]
  | updateBucket lights member pooled =>
    rw [chunk?_announce, chunk?_setChunk_of_ne _ (apart pooled), chunk?_setChunk_of_ne _ (apart member)]
  | checkPool member => rw [chunk?_announce, chunk?_setChunk_of_ne _ (apart member)]

theorem Writes.chunk?_eq (writes : Writes ids before after) {id : ChunkId} (foreign : id ∉ ids) :
    after.chunk? id = before.chunk? id := by
  let keeps (before after : ChunkGraph) : Prop := after.chunk? id = before.chunk? id
  exact writes.keeps (show ∀ graph, keeps graph graph from fun _ => rfl) (fun first second => second.trans first)
    fun write => write.chunk?_eq foreign

/-! ## Updates -/

theorem writes_updateBuckets (lights : Arena .light Light) (shadows : ChunkId) (targets : List ChunkId) :
    Writes (shadows :: targets) graph (updateBuckets lights shadows graph targets).2 := by
  induction targets generalizing graph with
  | nil => exact .refl
  | cons target rest ih =>
    rw [updateBuckets]
    split
    · next bucket pool found stored =>
      have first : Write (shadows :: target :: rest) graph _ :=
        .updateBucket lights (by simp) (by simp) found stored
      exact (ReflTransGen.single first).trans (ih.mono (by simp))
    · exact .refl

theorem writes_checkPool (shadows : ChunkId) : Writes [shadows] graph (checkPool shadows graph).2 := by
  unfold checkPool
  split
  · exact .refl
  · next found => exact .single (.checkPool (List.mem_singleton_self _) found)

theorem writes_setDepthFormat (target : ChunkId) (depthTexture : Bool) :
    Writes [target] graph (setDepthFormat target depthTexture graph).2 := by
  unfold setDepthFormat
  split
  · exact .refl
  · next found =>
    split
    · exact .refl
    · next set => exact .single (.setChoice (List.mem_singleton_self _) found set)

theorem writes_update (model : LightModel) (graph : ChunkGraph) :
    Writes model.chunks.inOrder graph (model.update graph).2 := by
  unfold LightModel.update
  dsimp only
  split
  · exact .refl
  · next pool found =>
    have shadows : [model.chunks.shadows] ⊆ model.chunks.inOrder := by simp [ModelChunks.inOrder]
    have depthFormat : [model.chunks.depthFormat] ⊆ model.chunks.inOrder := by simp [ModelChunks.inOrder]
    have buckets : model.chunks.shadows :: model.chunks.buckets ⊆ model.chunks.inOrder := by
      intro id member
      rcases List.mem_cons.1 member with rfl | member
      · exact shadows (List.mem_singleton_self _)
      · exact List.mem_append_left _ (List.mem_append_right _ member)
    have reset : Writes model.chunks.inOrder graph (graph.setChunk model.chunks.shadows (.shadowPool pool.reset)) :=
      .single (.resetPool (shadows (List.mem_singleton_self _)) found)
    have packed := reset.trans ((writes_updateBuckets model.lights ..).mono buckets)
    split
    · next failed =>
      rw [failed] at packed
      exact packed
    · next filled =>
      rw [filled] at packed
      have ended := packed.trans ((writes_checkPool _).mono shadows)
      split
      · next failed =>
        rw [failed] at ended
        exact ended
      · next idle =>
        rw [idle] at ended
        exact ended
      · next formatted =>
        rw [formatted] at ended
        exact ended.trans ((writes_setDepthFormat ..).mono depthFormat)

/-! ## Any operation -/

/-- An operation writes to chunks of its model only. -/
theorem writes_step (model : LightModel) (graph : ChunkGraph) (op : Op) :
    Writes model.chunks.inOrder graph (model.step graph op).2 := by
  cases op with
  | addLight light =>
    simp only [step, LightModel.addLight]
    split
    · exact .refl
    · next found => exact .single (.addLight (bucket_mem_inOrder ..) found _)
  | removeLight id =>
    simp only [step, LightModel.removeLight]
    split
    · exact .refl
    · split
      · exact .refl
      · next found => exact .single (.removeLight (bucket_mem_inOrder ..) found _)
  | modifyLight id change => exact .refl
  | setShadowFiltering filtering =>
    simp only [step, LightModel.setShadowFiltering]
    split
    · exact .refl
    · next found =>
      split
      · exact .refl
      · next set => exact .single (.setChoice (by simp [ModelChunks.inOrder]) found set)
  | setIblShadowing enabled =>
    simp only [step, LightModel.setIblShadowing]
    split
    · exact .refl
    · next found => exact .single (.setFlag (by simp [ModelChunks.inOrder]) found _)
  | update => exact model.writes_update graph

end ShaderWeave.LightModel
