import ShaderWeave.Proofs.Lighting.Creation
import ShaderWeave.Proofs.Lighting.Keys
import ShaderWeave.Proofs.Lighting.Slots
import ShaderWeave.Proofs.Lighting.Writes

/-! # Upkeep by light models

Whatever an operation of a light model finds in a graph, and also when it fails halfway, it marks the subscribers of
each chunk whose hash it changes, and it puts only chunks of light models where there were some.
-/

namespace ShaderWeave

/-! ## States that hash alike -/

theorem LightBucket.hash_congr {first second : LightBucket} (type : first.type = second.type)
    (slots : first.shadowSlots = second.shadowSlots) : first.hash = second.hash := by
  rw [hash, hash, type, size_congr slots, slots]

namespace ShadowPool

theorem hash_check {pool : ShadowPool} (quiet : pool.check.1 = false) : pool.check.2.hash = pool.hash := by
  simp only [check, Bool.or_eq_false_iff, bne_eq_false_iff_eq] at quiet ⊢
  obtain ⟨count, form⟩ := quiet
  rw [count, form]

end ShadowPool

namespace LightBucket

/-- Requests for slots do not show in the hash of the pool, and slots that stay do not show in that of the bucket. -/
theorem hash_update (bucket : LightBucket) (lights : Arena .light Light) (pool : ShadowPool) :
    (bucket.update lights pool).2.2.hash = pool.hash ∧
      ((bucket.update lights pool).1 = false → (bucket.update lights pool).2.1.hash = bucket.hash) := by
  have same := congrArg ShadowPool.hash (bucket.reset_update lights pool)
  refine ⟨same, fun quiet => hash_congr rfl ?_⟩
  rw [changed_update] at quiet
  exact bne_eq_false_iff_eq.1 quiet

theorem hash_addLight {bucket : LightBucket} {id : LightId} (quiet : (bucket.addLight id).1 = false) :
    (bucket.addLight id).2.hash = bucket.hash := by
  unfold addLight at quiet ⊢
  split
  · rfl
  · next new => simp [new] at quiet

theorem hash_removeLight {bucket : LightBucket} {id : LightId} (quiet : (bucket.removeLight id).1 = false) :
    (bucket.removeLight id).2.hash = bucket.hash := by
  unfold removeLight at quiet ⊢
  split
  · next known => simp [known] at quiet
  · rfl

end LightBucket

theorem Flag.hash_set {flag : Flag} {value : Bool} (quiet : (flag.set value).1 = false) :
    (flag.set value).2.hash = flag.hash := by
  obtain rfl : flag.value = value := bne_eq_false_iff_eq.1 quiet
  rfl

/-- A choice keeps its name and its variants. -/
theorem Choice.set_cases {choice chosen : Choice} {value : String} {changed : Bool}
    (set : choice.set value = .ok (changed, chosen)) :
    chosen.name = choice.name ∧ chosen.variants = choice.variants ∧
      (changed = false → chosen.hash = choice.hash) := by
  simp only [Choice.set] at set
  split at set
  · obtain ⟨rfl, rfl⟩ := Prod.mk.inj (Except.ok.inj set)
    refine ⟨rfl, rfl, ?_⟩
    intro quiet
    have same := bne_eq_false_iff_eq.1 quiet
    simp only [Choice.hash, Choice.value, ← same]
  · simp at set

/-! ## Steps of an operation -/

namespace ChunkGraph

variable {graph before middle after : ChunkGraph}

/-- What the operations of light models keep. -/
structure Upholds (before after : ChunkGraph) : Prop where
  sound : before.Sound → after.Sound
  keys : ∀ id, before.LightKey id → after.LightKey id

theorem Upholds.refl (graph : ChunkGraph) : Upholds graph graph := ⟨id, fun _ => id⟩

theorem Upholds.trans (first : Upholds before middle) (second : Upholds middle after) : Upholds before after :=
  ⟨second.sound ∘ first.sound, fun id => second.keys id ∘ first.keys id⟩

theorem digest?_setChunk_of_hash {id : ChunkId} {chunk old : Chunk} (found : graph.chunk? id = some old)
    (same : chunk.hash = old.hash) (other : ChunkId) :
    (graph.setChunk id chunk).digest? other = graph.digest? other := by
  by_cases here : other = id
  · subst here
    obtain ⟨node, held, rfl⟩ := Option.map_eq_some_iff.1 found
    simp [digest?, setChunk, held, same]
  · exact digest?_setChunk_of_ne chunk here

theorem upholds_setChunk {id : ChunkId} {chunk old : Chunk} (found : graph.chunk? id = some old)
    (same : chunk.hash = old.hash) (light : old.LightCode → chunk.LightCode) :
    Upholds graph (graph.setChunk id chunk) where
  sound sound := sound.of_alike (alike_setChunk id chunk) (digest?_setChunk_of_hash found same)
  keys other key := key.setChunk fun old' found' => by
    cases found.symm.trans found'
    exact light

theorem upholds_markPending (id : ChunkId) : Upholds graph (graph.markPending id) where
  sound sound := sound.pending id true
  keys _ key := key.spared (spares_modifyNode id fun _ => rfl)

/-- A new state of a chunk, which is marked if it hashes differently. -/
theorem upholds_store {id : ChunkId} {chunk old : Chunk} {changed : Bool} (found : graph.chunk? id = some old)
    (quiet : changed = false → chunk.hash = old.hash) (light : old.LightCode → chunk.LightCode) :
    Upholds graph (graph.store id chunk changed) := by
  have keys : ∀ other, graph.LightKey other → (graph.setChunk id chunk).LightKey other := fun other key =>
    key.setChunk fun old' found' => by
      cases found.symm.trans found'
      exact light
  cases changed with
  | false => exact upholds_setChunk found (quiet rfl) light
  | true => exact ⟨fun sound => sound.rewrite id chunk, fun other key => (keys other key).invalidateCode id⟩

end ChunkGraph

/-! ## Operations -/

namespace LightModel

open ChunkGraph

variable {ids : List ChunkId} {graph before after : ChunkGraph}

/-- A choice is stored with another value. -/
private theorem upholds_choice {id : ChunkId} {choice chosen : Choice} {value : String} {changed : Bool}
    (found : graph.choice? id = some choice) (set : choice.set value = .ok (changed, chosen)) :
    Upholds graph (graph.store id (.choice chosen) changed) := by
  obtain ⟨name, variants, quiet⟩ := Choice.set_cases set
  refine upholds_store (choice?_eq_some_iff.1 found) quiet fun light => ?_
  simpa only [Chunk.LightCode, name, variants] using light

/-- The bucket may hash differently, and the pool does not. -/
private theorem upholds_bucket {target shadows : ChunkId} {bucket bucket' : LightBucket} {pool pool' : ShadowPool}
    {changed : Bool} (found : graph.lightBucket? target = some bucket) (pooled : graph.shadowPool? shadows = some pool)
    (poolHash : pool'.hash = pool.hash) (quiet : changed = false → bucket'.hash = bucket.hash) :
    Upholds graph (announce ((graph.setChunk target (.lightBucket bucket')).setChunk shadows (.shadowPool pool')) target
      changed) := by
  have bucketFound := lightBucket?_eq_some_iff.1 found
  have poolFound : (graph.setChunk target (.lightBucket bucket')).chunk? shadows = some (.shadowPool pool) := by
    have pooled := shadowPool?_eq_some_iff.1 pooled
    have apart : shadows ≠ target := by
      rintro rfl
      cases bucketFound.symm.trans pooled
    rw [chunk?_setChunk, if_neg apart, pooled]
  have sameHash : (Chunk.shadowPool pool').hash = (Chunk.shadowPool pool).hash := poolHash
  have rest := (upholds_setChunk poolFound sameHash fun _ => trivial).trans (upholds_markPending target)
  cases changed with
  | false =>
    have first : Upholds graph (graph.setChunk target (.lightBucket bucket')) :=
      upholds_setChunk bucketFound (quiet rfl) fun _ => trivial
    exact first.trans rest
  | true =>
    refine ⟨fun sound => sound.recode ?_ target ?_, ?_⟩
    · exact ((alike_setChunk target _).trans (alike_setChunk shadows _)).trans (alike_pending target true)
    · intro other apart
      refine (digest?_pending target other true).trans ?_
      exact (digest?_setChunk_of_hash poolFound sameHash other).trans (digest?_setChunk_of_ne _ apart)
    · intro id key
      exact (rest.keys id (key.setChunk fun _ _ _ => trivial)).invalidateCode target

/-- The pool hashes differently only if it says so. -/
private theorem upholds_pool {shadows : ChunkId} {pool pool' : ShadowPool} {changed : Bool}
    (found : graph.shadowPool? shadows = some pool) (quiet : changed = false → pool'.hash = pool.hash) :
    Upholds graph (announce (graph.setChunk shadows (.shadowPool pool')) shadows changed) := by
  have pooled := shadowPool?_eq_some_iff.1 found
  cases changed with
  | false =>
    have stored : Upholds graph (graph.setChunk shadows (.shadowPool pool')) :=
      upholds_setChunk pooled (quiet rfl) fun _ => trivial
    exact stored.trans (upholds_markPending shadows)
  | true =>
    refine ⟨fun sound => sound.recode ?_ shadows ?_, ?_⟩
    · exact (alike_setChunk shadows _).trans (alike_pending shadows true)
    · intro other apart
      exact (digest?_pending shadows other true).trans (digest?_setChunk_of_ne _ apart)
    · intro id key
      refine ((upholds_markPending shadows).keys id ?_).invalidateCode shadows
      exact key.setChunk fun _ _ _ => trivial

theorem Write.upholds (write : Write ids before after) : Upholds before after := by
  cases write with
  | addLight _ found =>
    exact upholds_store (lightBucket?_eq_some_iff.1 found) LightBucket.hash_addLight fun _ => trivial
  | removeLight _ found =>
    exact upholds_store (lightBucket?_eq_some_iff.1 found) LightBucket.hash_removeLight fun _ => trivial
  | setFlag _ found => exact upholds_store (flag?_eq_some_iff.1 found) Flag.hash_set fun light => light
  | setChoice _ found set => exact upholds_choice found set
  | resetPool _ found => exact upholds_setChunk (shadowPool?_eq_some_iff.1 found) rfl fun _ => trivial
  | @updateBucket lights target shadows bucket pool _ _ found stored =>
    obtain ⟨poolHash, quiet⟩ := bucket.hash_update lights pool
    exact upholds_bucket found stored poolHash quiet
  | checkPool _ found => exact upholds_pool found ShadowPool.hash_check

theorem upholds_step (model : LightModel) (graph : ChunkGraph) (op : Op) : Upholds graph (model.step graph op).2 :=
  (model.writes_step graph op).keeps .refl .trans Write.upholds

/-! ## Updates -/

/-- Only buckets and the pool change while buckets are updated. -/
theorem chunk?_updateBuckets (lights : Arena .light Light) {shadows : ChunkId} {targets : List ChunkId} {id : ChunkId}
    (apart : id ≠ shadows) (outside : id ∉ targets) :
    (updateBuckets lights shadows graph targets).2.chunk? id = graph.chunk? id :=
  (writes_updateBuckets lights shadows targets).chunk?_eq (List.not_mem_cons_of_ne_of_not_mem apart outside)

theorem chunk?_of_updateBuckets {lights : Arena .light Light} {shadows : ChunkId} {targets : List ChunkId}
    {result : Except AssemblyError Unit} {after : ChunkGraph}
    (updated : updateBuckets lights shadows graph targets = (result, after)) {id : ChunkId} (apart : id ≠ shadows)
    (outside : id ∉ targets) : after.chunk? id = graph.chunk? id :=
  (congrArg (fun outcome => outcome.2.chunk? id) updated).symm.trans (chunk?_updateBuckets lights apart outside)

theorem chunk?_checkPool {shadows id : ChunkId} (apart : id ≠ shadows) :
    (checkPool shadows graph).2.chunk? id = graph.chunk? id :=
  (writes_checkPool shadows).chunk?_eq (mt List.mem_singleton.1 apart)

theorem chunk?_setDepthFormat {target id : ChunkId} (apart : id ≠ target) (depthTexture : Bool) :
    (setDepthFormat target depthTexture graph).2.chunk? id = graph.chunk? id :=
  (writes_setDepthFormat target depthTexture).chunk?_eq (mt List.mem_singleton.1 apart)

theorem chunk?_of_setDepthFormat {target : ChunkId} {depthTexture : Bool} {result : Except AssemblyError Unit}
    {after : ChunkGraph} (declared : setDepthFormat target depthTexture graph = (result, after)) {id : ChunkId}
    (apart : id ≠ target) : after.chunk? id = graph.chunk? id :=
  (congrArg (fun outcome => outcome.2.chunk? id) declared).symm.trans (chunk?_setDepthFormat apart depthTexture)

/-- Other chunks than the pool and the constant for the form of the maps are as the buckets leave them. -/
theorem chunk?_update {model : LightModel} {pool : ShadowPool} (stored : graph.shadowPool? model.chunks.shadows = some pool) {id : ChunkId}
    (shadows : id ≠ model.chunks.shadows) (depthFormat : id ≠ model.chunks.depthFormat) :
    (model.update graph).2.chunk? id = (updateBuckets model.lights model.chunks.shadows
      (graph.setChunk model.chunks.shadows (.shadowPool pool.reset)) model.chunks.buckets).2.chunk? id := by
  simp only [LightModel.update, stored]
  split
  · next failed => rw [failed]
  · next filled updated =>
    rw [updated]
    have ended : (checkPool _ filled).2.chunk? id = filled.chunk? id := chunk?_checkPool shadows
    split
    · next failed => rwa [failed] at ended
    · next idle => rwa [idle] at ended
    · next formatted =>
      rw [formatted] at ended
      exact (chunk?_setDepthFormat depthFormat _).trans ended

/-! ## New models -/

theorem upholds_new (graph : ChunkGraph) (settings : LightModelSettings) : Upholds graph (new graph settings).2 := by
  have inserted (graph : ChunkGraph) (chunk : Chunk) : Upholds graph (graph.insert chunk).2 :=
    ⟨fun sound => sound.insert chunk, fun _ key => key.spared (spares_insert chunk)⟩
  have linked (graph : ChunkGraph) (parent child : ChunkId) : Upholds graph (graph.addChild parent child).2 :=
    ⟨fun sound => sound.addChild parent child, fun _ key => key.spared (spares_addChild parent child)⟩
  exact new_keeps .refl .trans inserted linked graph settings

/-- All chunks of a model but the root have code of light models. -/
private theorem firstChunks_light {settings : LightModelSettings} {filter depth : Choice}
    (filtered : filterChoice settings = .ok filter) (formatted : depthChoice = .ok depth) :
    ∀ chunk ∈ (firstChunks settings filter depth).tail, chunk.LightCode := by
  obtain ⟨choice, filtered', filterName, filterVariants⟩ := filterChoice_eq_ok settings
  obtain ⟨choice', formatted', depthName, depthVariants⟩ := depthChoice_eq_ok
  obtain rfl : choice = filter := Except.ok.inj (filtered'.symm.trans filtered)
  obtain rfl : choice' = depth := Except.ok.inj (formatted'.symm.trans formatted)
  simp [firstChunks, LightType.all, Chunk.LightCode, filterName, filterVariants, depthName, depthVariants]

theorem lightKey_new {settings : LightModelSettings} {model : LightModel} (made : (new graph settings).1 = .ok model)
    {id : ChunkId} (member : id ∈ model.chunks.inOrder) : (new graph settings).2.LightKey id := by
  obtain ⟨model', filter, depth, made', -, -, filtered, formatted, -, chunks⟩ := new_spec graph settings
  obtain rfl : model' = model := Except.ok.inj (made'.symm.trans made)
  have later : List.Forall₂ (fun id chunk => (new graph settings).2.chunk? id = some chunk) model'.chunks.inOrder
      (firstChunks settings filter depth).tail := (List.forall₂_cons.1 chunks).2
  obtain ⟨chunk, isFirst, found⟩ := exists_of_forall₂ later member
  exact .of_found found (firstChunks_light filtered formatted chunk isFirst)

/-! ## Any operation -/

theorem chunks_step (model : LightModel) (graph : ChunkGraph) (op : Op) : (model.step graph op).1.chunks = model.chunks := by
  cases op with
  | addLight light =>
    simp only [step, LightModel.addLight]
    split <;> rfl
  | removeLight id =>
    simp only [step, LightModel.removeLight]
    split
    · rfl
    · split <;> rfl
  | modifyLight id change => rfl
  | setShadowFiltering filtering =>
    simp only [step, LightModel.setShadowFiltering]
    split
    · rfl
    · split <;> rfl
  | setIblShadowing enabled =>
    simp only [step, LightModel.setIblShadowing]
    split <;> rfl
  | update => rfl

end LightModel

end ShaderWeave
