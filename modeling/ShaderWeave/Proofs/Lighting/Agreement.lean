import ShaderWeave.Proofs.Lighting.Runs
import ShaderWeave.Proofs.Lighting.Upkeep

/-! # Agreement about shadows

The slots that lights hold, the number of slots that the code of the pool is for, and the form of the maps are stored in
different chunks and change at different moments. They agree after every operation: no two lights hold the same
slot, every slot has code, and the constant for the form of the maps is that of the pool's code.
-/

namespace ShaderWeave

/-! ## Slots of a pass -/

namespace Lineup

/-- A pass hands out consecutive slots, up to the capacity. -/
theorem filterMap_slotted (capacity seen : Nat) (lineup : Lineup) :
    (slotted capacity seen lineup).filterMap (·.2) = List.range' seen (min lineup.casters.length (capacity - seen)) := by
  induction lineup generalizing seen with
  | nil => simp [slotted, casters]
  | cons entry rest ih =>
    obtain ⟨id, light⟩ := entry
    by_cases casts : light.castShadows
    · by_cases room : seen < capacity
      · have more : min ((casters rest).length + 1) (capacity - seen) =
            min (casters rest).length (capacity - (seen + 1)) + 1 := by omega
        simp [slotted, casters_cons, casts, room, ih, more, List.range'_succ]
      · have full : capacity - seen = 0 ∧ capacity - (seen + 1) = 0 := by omega
        simp [slotted, casts, room, ih, full]
    · simp [slotted, casters_cons, casts, ih]

end Lineup

/-! ## Held slots -/

namespace LightBucket

/-- The slots that the lights of the bucket hold. -/
def slots (bucket : LightBucket) : List Nat := bucket.entries.filterMap (·.shadowSlot)

theorem slots_eq (bucket : LightBucket) : bucket.slots = bucket.held.filterMap (·.2) := by
  rw [held, List.filterMap_map]
  rfl

theorem slots_addLight (bucket : LightBucket) (id : LightId) : (bucket.addLight id).2.slots = bucket.slots := by
  unfold addLight
  split
  · rfl
  · simp [slots]

theorem slots_removeLight (bucket : LightBucket) (id : LightId) :
    (bucket.removeLight id).2.slots.Sublist bucket.slots := by
  unfold removeLight
  split
  · exact List.eraseP_sublist.filterMap _
  · exact .refl _

end LightBucket

namespace LightModel

variable {graph after : ChunkGraph}

/-- Updates of buckets change nothing of the pool but the slots of the pass. -/
theorem reset_updateBuckets (lights : Arena .light Light) {shadows : ChunkId} {pool : ShadowPool}
    (stored : graph.chunk? shadows = some (.shadowPool pool)) {targets : List ChunkId} (apart : shadows ∉ targets) :
    ∃ pool', (updateBuckets lights shadows graph targets).2.chunk? shadows = some (.shadowPool pool') ∧
      pool'.reset = pool.reset := by
  induction targets generalizing graph pool with
  | nil => exact ⟨pool, stored, rfl⟩
  | cons target rest ih =>
    obtain ⟨away, apart⟩ := not_or.1 (mt List.mem_cons.2 apart)
    cases found : graph.lightBucket? target with
    | none =>
      rw [updateBuckets, found]
      exact ⟨pool, stored, rfl⟩
    | some bucket =>
      obtain ⟨next, step, nextPool, -, -⟩ :=
        updateBuckets_cons lights (ChunkGraph.lightBucket?_eq_some_iff.1 found) stored away rest
      obtain ⟨pool', last, same⟩ := ih nextPool apart
      rw [step]
      exact ⟨pool', last, same.trans (bucket.reset_update lights pool)⟩

/-- The slots that the lights of a model hold, type by type. -/
def heldSlots (chunks : ModelChunks) (graph : ChunkGraph) : List Nat :=
  LightType.all.flatMap fun type => (heldAt graph (chunks.bucket type)).filterMap (·.2)

/-- What the chunks of a model store about shadows agrees. -/
structure Agrees (chunks : ModelChunks) (graph : ChunkGraph) (pool : ShadowPool) (choice : Choice) : Prop where
  stored : graph.chunk? chunks.shadows = some (.shadowPool pool)
  chosen : graph.chunk? chunks.depthFormat = some (.choice choice)
  distinct : (heldSlots chunks graph).Nodup
  coded : ∀ slot ∈ heldSlots chunks graph, slot < pool.generatedCount
  format : choice.value = (DepthFormat.ofDepthTexture pool.generatedDepthTexture).variant

variable {chunks : ModelChunks} {pool : ShadowPool} {choice : Choice}

/-- Lights may lose their slots. -/
theorem Agrees.mono (agrees : Agrees chunks graph pool choice)
    (shadows : after.chunk? chunks.shadows = graph.chunk? chunks.shadows)
    (depthFormat : after.chunk? chunks.depthFormat = graph.chunk? chunks.depthFormat)
    (held : (heldSlots chunks after).Sublist (heldSlots chunks graph)) : Agrees chunks after pool choice where
  stored := shadows.trans agrees.stored
  chosen := depthFormat.trans agrees.chosen
  distinct := agrees.distinct.sublist held
  coded slot member := agrees.coded slot (held.subset member)
  format := agrees.format

theorem heldSlots_of_same (same : ∀ type, after.chunk? (chunks.bucket type) = graph.chunk? (chunks.bucket type)) :
    heldSlots chunks after = heldSlots chunks graph := by
  simp only [heldSlots, heldAt, ChunkGraph.lightBucket?, same]

theorem Agrees.elsewhere (agrees : Agrees chunks graph pool choice)
    (same : ∀ id ∈ chunks.inOrder, after.chunk? id = graph.chunk? id) : Agrees chunks after pool choice := by
  refine agrees.mono (same _ (by simp [ModelChunks.inOrder])) (same _ (by simp [ModelChunks.inOrder])) ?_
  rw [heldSlots_of_same fun type => same _ (bucket_mem_inOrder chunks type)]

theorem Agrees.storeOption (agrees : Agrees chunks graph pool choice) (distinct : chunks.inOrder.Nodup) {id : ChunkId}
    (option : id = chunks.iblShadowing ∨ id = chunks.shadowFilter) (chunk : Chunk) (changed : Bool) :
    Agrees chunks (graph.store id chunk changed) pool choice := by
  obtain ⟨shadows, depthFormat, buckets⟩ := options_ne distinct option
  have others : ∀ other, id ≠ other → (graph.store id chunk changed).chunk? other = graph.chunk? other := by
    intro other apart
    rw [ChunkGraph.chunk?_store, if_neg apart.symm]
  refine agrees.mono (others _ shadows) (others _ depthFormat) ?_
  rw [heldSlots_of_same fun type => others _ (buckets type)]

/-- A bucket gets a state in which lights hold no more slots than before. -/
theorem Agrees.storeBucket (agrees : Agrees chunks graph pool choice) (distinct : chunks.inOrder.Nodup)
    {type : LightType} {old new : LightBucket} (found : graph.chunk? (chunks.bucket type) = some (.lightBucket old))
    (fewer : new.slots.Sublist old.slots) (changed : Bool) :
    Agrees chunks (graph.store (chunks.bucket type) (.lightBucket new) changed) pool choice := by
  obtain ⟨shadows, depthFormat, -⟩ := others_ne distinct type
  have others : ∀ other, other ≠ chunks.bucket type →
      (graph.store (chunks.bucket type) (.lightBucket new) changed).chunk? other = graph.chunk? other := by
    intro other apart
    rw [ChunkGraph.chunk?_store, if_neg apart]
  have each : ∀ other, ((heldAt (graph.store (chunks.bucket type) (.lightBucket new) changed)
      (chunks.bucket other)).filterMap (·.2)).Sublist ((heldAt graph (chunks.bucket other)).filterMap (·.2)) := by
    intro other
    by_cases same : other = type
    · subst same
      have written : (graph.store (chunks.bucket other) (.lightBucket new) changed).chunk? (chunks.bucket other) =
          some (.lightBucket new) := by
        rw [ChunkGraph.chunk?_store, if_pos rfl, found]
        rfl
      rwa [heldAt_of_found written, heldAt_of_found found, ← LightBucket.slots_eq, ← LightBucket.slots_eq]
    · rw [heldAt, heldAt, ChunkGraph.lightBucket?, ChunkGraph.lightBucket?, others _ (bucket_ne distinct same)]
  refine agrees.mono (others _ shadows.symm) (others _ depthFormat.symm) ?_
  exact (each .directional).append ((each .spot).append ((each .point).append ((each .ibl).append (.refl []))))

variable {order : List LightId} {model : LightModel}

theorem Agrees.new {settings : LightModelSettings} (made : (LightModel.new graph settings).1 = .ok model) :
    ∃ pool choice, Agrees model.chunks (LightModel.new graph settings).2 pool choice := by
  obtain ⟨⟨depth, formatted, format⟩, pool, buckets⟩ := new_chunks made
  have none : heldSlots model.chunks (LightModel.new graph settings).2 = [] := by
    simp only [heldSlots, heldAt_of_found (buckets _)]
    rfl
  refine ⟨poolOf settings, depth, pool, format, ?_, ?_, ?_⟩
  · rw [none]
    exact List.nodup_nil
  · simp [none]
  · have first : depthChoice = .ok ⟨"depthFormat", DepthFormat.variants, 0, by decide⟩ := rfl
    cases formatted.symm.trans first
    rfl

theorem Agrees.addLight (agrees : Agrees model.chunks graph pool choice) (kept : Kept order model graph)
    (light : Light) : Agrees model.chunks (model.addLight graph light).2.2 pool choice := by
  unfold LightModel.addLight
  dsimp only
  split
  · exact agrees
  · next bucket found =>
    refine agrees.storeBucket kept.distinct (ChunkGraph.lightBucket?_eq_some_iff.1 found) ?_ _
    rw [LightBucket.slots_addLight]

theorem Agrees.removeLight (agrees : Agrees model.chunks graph pool choice) (kept : Kept order model graph)
    (id : LightId) : Agrees model.chunks (model.removeLight graph id).2.2 pool choice := by
  unfold LightModel.removeLight
  split
  · exact agrees
  · dsimp only
    split
    · exact agrees
    · next bucket found =>
      exact agrees.storeBucket kept.distinct (ChunkGraph.lightBucket?_eq_some_iff.1 found)
        (bucket.slots_removeLight id) _

theorem Agrees.adjust (agrees : Agrees model.chunks graph pool choice) (distinct : model.chunks.inOrder.Nodup)
    {adjusted : LightModel} (adjusts : Adjusts model graph adjusted after) :
    Agrees adjusted.chunks after pool choice := by
  cases adjusts with
  | nothing => exact agrees
  | option option _ chunk changed => exact agrees.storeOption distinct option chunk changed

/-! ## Updates -/

/-- The variants of a choice are those of the form of maps, and the chosen one is that of the pool's code. -/
structure Formatted (chunks : ModelChunks) (graph : ChunkGraph) (pool : ShadowPool) (choice : Choice) : Prop where
  stored : graph.chunk? chunks.shadows = some (.shadowPool pool)
  chosen : graph.chunk? chunks.depthFormat = some (.choice choice)
  variants : choice.variants = DepthFormat.variants
  format : choice.value = (DepthFormat.ofDepthTexture pool.generatedDepthTexture).variant

/-- An update ends with a pool and a constant for the same form of maps. -/
theorem Formatted.update (formatted : Formatted model.chunks graph pool choice) (distinct : model.chunks.inOrder.Nodup) :
    ∃ pool' choice', Formatted model.chunks (model.update graph).2 pool' choice' := by
  have apart := (others_ne distinct .directional).2.2
  obtain ⟨shadows, depthFormat⟩ := not_mem_buckets distinct
  have reset := ChunkGraph.chunk?_setChunk_self formatted.stored (.shadowPool pool.reset)
  obtain ⟨filled, last, same⟩ := reset_updateBuckets model.lights reset shadows
  have chosen : (updateBuckets model.lights model.chunks.shadows
      (graph.setChunk model.chunks.shadows (.shadowPool pool.reset)) model.chunks.buckets).2.chunk?
        model.chunks.depthFormat = some (.choice choice) := by
    rw [chunk?_updateBuckets model.lights apart.symm depthFormat,
      graph.chunk?_setChunk_of_ne apart.symm, formatted.chosen]
  have format : choice.value = (DepthFormat.ofDepthTexture filled.generatedDepthTexture).variant := by
    have form := congrArg ShadowPool.generatedDepthTexture same
    rw [show filled.generatedDepthTexture = pool.generatedDepthTexture from form]
    exact formatted.format
  simp only [LightModel.update, ChunkGraph.shadowPool?_eq_some_iff.2 formatted.stored]
  split
  · next failed =>
    rw [failed] at last chosen
    exact ⟨filled, choice, last, chosen, formatted.variants, format⟩
  · next packed =>
    rw [packed] at last chosen
    obtain ⟨checked, ended, final, others', -⟩ := checkPool_spec last
    rw [ended]
    have still := (others' _ apart.symm).trans chosen
    cases form : filled.depthTexture with
    | none =>
      refine ⟨filled.check.2, choice, final, still, formatted.variants, ?_⟩
      simpa [ShadowPool.check, form] using format
    | some depthTexture =>
      obtain ⟨after, choice', declared, found, variants, value, unchanged⟩ :=
        setDepthFormat_spec still formatted.variants depthTexture
      dsimp only
      rw [declared]
      refine ⟨filled.check.2, choice', (unchanged _ apart).trans final, found, variants, ?_⟩
      simpa [ShadowPool.check, form] using value

theorem Agrees.update (agrees : Agrees model.chunks graph pool choice) (kept : Kept order model graph) :
    ∃ pool' choice', Agrees model.chunks (model.update graph).2 pool' choice' := by
  obtain ⟨choice', chosen, variants⟩ := kept.depth
  obtain rfl : choice = choice' := by simpa using agrees.chosen.symm.trans chosen
  obtain ⟨after, updated, settled⟩ := kept.update
  have formatted : Formatted model.chunks graph pool choice := ⟨agrees.stored, chosen, variants, agrees.format⟩
  obtain ⟨pool', choice', stored, chosen', -, format⟩ := formatted.update kept.distinct
  rw [updated] at stored chosen' ⊢
  obtain ⟨pool'', stored', capacity, generated, serves⟩ := settled.pool
  obtain rfl : pool' = pool'' := by simpa using stored.symm.trans stored'
  -- A pass hands out the slots from zero on, and the code of the pool is for just these.
  have held : heldSlots model.chunks after = List.range pool'.generatedCount := by
    have slots := congrArg (List.filterMap (·.2)) settled.held
    rw [List.filterMap_flatMap, Lineup.filterMap_slotted, Nat.sub_zero, ← Lineup.length_shadows, ← capacity,
      ← serves.count, ← generated, ← List.range_eq_range'] at slots
    exact slots
  refine ⟨pool', choice', stored, chosen', ?_, ?_, format⟩
  · rw [held]
    exact List.nodup_range
  · simp [held]

/-- After every run, what a model stores about shadows agrees. -/
theorem Reached.agrees (reached : Reached order model graph) :
    ∃ pool choice, Agrees model.chunks graph pool choice := by
  induction reached with
  | new made => exact Agrees.new made
  | elsewhere _ same ih =>
    obtain ⟨pool, choice, agrees⟩ := ih
    exact ⟨pool, choice, agrees.elsewhere same⟩
  | @addLight _ model graph light reached ih =>
    obtain ⟨pool, choice, agrees⟩ := ih
    have chunks : (model.addLight graph light).2.1.chunks = model.chunks := model.chunks_step graph (.addLight light)
    exact ⟨pool, choice, chunks ▸ agrees.addLight reached.kept light⟩
  | @removeLight _ model graph id reached ih =>
    obtain ⟨pool, choice, agrees⟩ := ih
    have chunks : (model.removeLight graph id).2.1.chunks = model.chunks := model.chunks_step graph (.removeLight id)
    exact ⟨pool, choice, chunks ▸ agrees.removeLight reached.kept id⟩
  | modifyLight id change _ _ ih => exact ih
  | setShadowFiltering filtering reached ih =>
    obtain ⟨pool, choice, agrees⟩ := ih
    exact ⟨pool, choice, agrees.adjust reached.kept.distinct (adjusts_setShadowFiltering _ _ filtering)⟩
  | setIblShadowing enabled reached ih =>
    obtain ⟨pool, choice, agrees⟩ := ih
    exact ⟨pool, choice, agrees.adjust reached.kept.distinct (adjusts_setIblShadowing _ _ enabled)⟩
  | update reached ih =>
    obtain ⟨pool, choice, agrees⟩ := ih
    exact agrees.update reached.kept

end LightModel

end ShaderWeave
