import ShaderWeave.Proofs.Lighting.Roots
import ShaderWeave.Proofs.Lighting.Uploads

/-! # Light models after an update

An update packs the lights into their buckets and makes the code of the pool one for the slots handed out. From then on,
until the model is operated again, all that it uploads goes to resources that its code declares, and each slot gets the
map of the light that holds it.
-/

namespace ShaderWeave

open Code

namespace LightModel

variable {order : List LightId} {model : LightModel} {graph after : ChunkGraph}

/-- The chunks of a model are as an update leaves them: the code of the pool is for the slots that were handed out, and
the buckets are packed with the current lights. -/
structure Fresh (model : LightModel) (graph : ChunkGraph) : Prop where
  pool : ∀ pool, graph.chunk? model.chunks.shadows = some (.shadowPool pool) → pool.generatedCount = pool.count
  buckets : ∀ type bucket, graph.chunk? (model.bucket type) = some (.lightBucket bucket) → bucket.Packed model.lights

theorem Fresh.elsewhere (fresh : Fresh model graph)
    (same : ∀ id ∈ model.chunks.inOrder, after.chunk? id = graph.chunk? id) : Fresh model after where
  pool pool stored := fresh.pool pool ((same _ (by simp [ModelChunks.inOrder])).symm.trans stored)
  buckets type bucket found :=
    fresh.buckets type bucket ((same _ (bucket_mem_inOrder model.chunks type)).symm.trans found)

/-- Each bucket is updated once, with what the ones before it left in the pool. -/
private theorem updated_updateBuckets {chunks : ModelChunks} (distinct : chunks.inOrder.Nodup)
    (lights : Arena .light Light) {pool : ShadowPool} (stored : graph.chunk? chunks.shadows = some (.shadowPool pool))
    {types : List LightType} (once : types.Nodup)
    (buckets : ∀ type ∈ types, ∃ bucket, graph.chunk? (chunks.bucket type) = some (.lightBucket bucket)) :
    ∀ type ∈ types, ∃ (bucket : LightBucket) (pool : ShadowPool),
      graph.chunk? (chunks.bucket type) = some (.lightBucket bucket) ∧
        (updateBuckets lights chunks.shadows graph (types.map chunks.bucket)).2.chunk? (chunks.bucket type) =
          some (.lightBucket (bucket.update lights pool).2.1) := by
  induction types generalizing graph pool with
  | nil => simp
  | cons first rest ih =>
    obtain ⟨absent, once⟩ := List.nodup_cons.1 once
    obtain ⟨bucket, found⟩ := buckets first (List.mem_cons_self ..)
    have apart := fun type => (others_ne distinct type).1
    obtain ⟨next, step, nextPool, nextBucket, nextOthers, -⟩ :=
      updateBuckets_cons lights found stored (apart first).symm (rest.map chunks.bucket)
    have away : ∀ type ∈ rest, chunks.bucket type ≠ chunks.bucket first := fun type member =>
      bucket_ne distinct (ne_of_mem_of_not_mem member absent)
    have still : ∀ type ∈ rest, next.chunk? (chunks.bucket type) = graph.chunk? (chunks.bucket type) :=
      fun type member => nextOthers _ (apart type) (away type member)
    rw [List.map_cons, step]
    refine List.forall_mem_cons.2 ⟨⟨bucket, pool, found, ?_⟩, fun type member => ?_⟩
    · rw [chunk?_updateBuckets lights (apart first), nextBucket]
      intro member
      obtain ⟨type, isLater, same⟩ := List.mem_map.1 member
      exact away type isLater same
    · rw [← still type member]
      refine ih nextPool once (fun later isLater => ?_) type member
      rw [still later isLater]
      exact buckets later (List.mem_cons_of_mem _ isLater)

/-- What an update leaves under the key of a bucket is the bucket, updated. -/
theorem Kept.updated_update (kept : Kept order model graph) (type : LightType) :
    ∃ (bucket : LightBucket) (pool : ShadowPool), graph.chunk? (model.bucket type) = some (.lightBucket bucket) ∧
      (model.update graph).2.chunk? (model.bucket type) =
        some (.lightBucket (bucket.update model.lights pool).2.1) := by
  obtain ⟨pool, stored, -⟩ := kept.pool
  obtain ⟨apart, away, -⟩ := others_ne kept.distinct type
  have reset := ChunkGraph.chunk?_setChunk_self stored (.shadowPool pool.reset)
  have still := fun type => graph.chunk?_setChunk_of_ne (others_ne kept.distinct type).1 (.shadowPool pool.reset)
  have buckets : ∀ type ∈ LightType.all, ∃ bucket, (graph.setChunk model.chunks.shadows
      (.shadowPool pool.reset)).chunk? (model.chunks.bucket type) = some (.lightBucket bucket) := by
    intro type _
    obtain ⟨bucket, found, -⟩ := kept.buckets type
    exact ⟨bucket, (still type).trans found⟩
  rw [LightModel.bucket, model.chunk?_update (ChunkGraph.shadowPool?_eq_some_iff.2 stored) apart away, ← still type]
  exact updated_updateBuckets kept.distinct model.lights reset (by decide) buckets type (mem_all type)

/-- An update leaves the chunks of its model fresh. -/
theorem Kept.fresh_update (kept : Kept order model graph) : Fresh model (model.update graph).2 := by
  obtain ⟨after, updated, settled⟩ := kept.update
  constructor
  · intro pool found
    obtain ⟨pool', stored, -, generated, -⟩ := settled.pool
    rw [updated, stored] at found
    cases found
    exact generated
  · intro type bucket found
    obtain ⟨old, pool, -, stored⟩ := kept.updated_update type
    cases stored.symm.trans found
    exact old.packed_update model.lights pool

end LightModel

/-! ## Uploads of a model -/

namespace ModelStates

variable {states : ModelStates} {model : LightModel} {graph : ChunkGraph} {order : List LightId} {pool : ShadowPool}
  {choice : Choice} {declares : String → Bool} {call : UniformCall}

theorem uploads_chunks (states : ModelStates) (declares : String → Bool) :
    states.chunks.flatMap (·.uploads declares) =
      states.shadows.uploads declares ++ LightType.all.flatMap fun type => (states.bucket type).uploads := by
  simp [chunks, LightType.all, Chunk.uploads]

/-- The uploads that are maps of shadows. -/
theorem filter_uploads (states : ModelStates) (declares : String → Bool) :
    (states.chunks.flatMap (·.uploads declares)).filter (fun call => initials call.name == ['t', 'S']) =
      LightType.all.flatMap fun type => (states.bucket type).shadowMapUploads := by
  rw [uploads_chunks, List.filter_append, ShadowPool.filter_uploads, List.nil_append, List.filter_flatMap]
  exact List.flatMap_congr fun type _ => (states.bucket type).filter_uploads

/-- A collection of the root uploads the values of the chunks of the model. -/
theorem Of.setup_eq (states_of : states.Of model.chunks graph) (sound : graph.Sound)
    (intact : model.chunks.Intact graph) (capped : model.chunks.Capped graph) (uploading : model.chunks.Uploading graph)
    {collection : CollectionId} {found : ChunkCollection} (live : graph.collection? collection = some found)
    (roots : found.roots = [model.chunks.root]) (declares : String → Bool) :
    (graph.collectionSetup collection declares).1 = .ok (states.chunks.flatMap (·.uploads declares)) := by
  have each : ∀ id ∈ model.chunks.inOrder, ∀ node, graph.node? id = some node →
      (if node.caps.setup then node.chunk.uploads declares else []) = node.chunk.uploads declares := by
    intro id member node held
    have chunk : graph.chunk? id = some node.chunk := by rw [ChunkGraph.chunk?, held]; rfl
    have silent : ∀ {other : Chunk}, graph.chunk? id = some other → other.uploads declares = [] →
        node.chunk.uploads declares = [] := by
      intro other stored none
      rwa [Option.some.inj (chunk.symm.trans stored)]
    have silentOrSetup : node.chunk.uploads declares = [] ∨ node.caps.setup = true := by
      simp only [ModelChunks.inOrder, ModelChunks.buckets, List.mem_append, List.mem_cons, List.mem_map,
        List.not_mem_nil, or_false] at member
      rcases member with ((rfl | rfl | rfl | rfl | rfl) | ⟨type, -, rfl⟩) | rfl
      · exact .inl (silent states_of.iblShadowing rfl)
      · exact .inl (silent states_of.shadowFilter rfl)
      · exact .inl (silent states_of.depthFormat rfl)
      · exact .inr (by rw [uploading.shadows.caps node held])
      · exact .inl (silent states_of.preLights rfl)
      · exact .inr (by rw [(uploading.buckets type).caps node held])
      · exact .inl (silent states_of.postLights rfl)
    rcases silentOrSetup with none | setup
    · rw [none, ite_self]
    · rw [if_pos setup]
  obtain ⟨root, isRoot, -, -⟩ := intact.root
  have idle : root.caps.setup = false := by rw [capped.root.caps root isRoot]; rfl
  have below : graph.uploadsBelow declares model.chunks.inOrder =
      (model.chunks.inOrder.filterMap graph.chunk?).flatMap (·.uploads declares) := by
    have nodes : model.chunks.inOrder.filterMap graph.chunk? =
        (graph.nodesOf model.chunks.inOrder).map (·.chunk) := by
      rw [ChunkGraph.nodesOf, List.map_filterMap]
      rfl
    rw [nodes, List.flatMap_map]
    refine List.flatMap_congr fun node isNode => ?_
    obtain ⟨id, member, held⟩ := List.mem_filterMap.1 isNode
    exact each id member node held
  rw [sound.collectionSetup_eq live, roots, intact.actives sound.wellFormed, ← states_of.filterMap_eq, ← below]
  simp [ChunkGraph.uploadsBelow, ChunkGraph.nodesOf, isRoot, idle]

private theorem sublist_flatMap {α β : Type} {items : List α} {first second : α → List β}
    (each : ∀ item, (first item).Sublist (second item)) : (items.flatMap first).Sublist (items.flatMap second) := by
  induction items with
  | nil => exact .slnil
  | cons item rest ih => exact (each item).append ih

theorem Of.mem_heldSlots_iff (states_of : states.Of model.chunks graph) {slot : Nat} :
    slot ∈ LightModel.heldSlots model.chunks graph ↔ ∃ type, slot ∈ (states.bucket type).slots := by
  simp only [LightModel.heldSlots, List.mem_flatMap, LightModel.heldAt_of_found (states_of.bucket _),
    ← LightBucket.slots_eq, LightModel.mem_all, true_and]

/-- Every upload of a fresh model goes to a resource of its code. -/
theorem Of.takes_uploads (states_of : states.Of model.chunks graph) (proper : states.Proper)
    (agrees : LightModel.Agrees model.chunks graph pool choice) (fresh : model.Fresh graph)
    (member : call ∈ states.chunks.flatMap (·.uploads declares)) :
    ∃ resource ∈ states.chunks.flatMap Chunk.resources, resource.Takes call := by
  obtain rfl : states.shadows = pool := by simpa using states_of.shadows.symm.trans agrees.stored
  rw [uploads_chunks, List.mem_append, List.mem_flatMap] at member
  rcases member with shared | ⟨type, -, single⟩
  · obtain ⟨resource, isResource, takes⟩ := ShadowPool.takes_uploads (fresh.pool _ states_of.shadows) shared
    exact ⟨resource, List.mem_flatMap.2 ⟨_, by simp [chunks], isResource⟩, takes⟩
  · have packed := fresh.buckets type _ (states_of.bucket type)
    rcases LightBucket.takes_uploads (proper.shaped type) packed single with ⟨resource, isResource, takes⟩ |
      ⟨slot, holds, map, rfl⟩
    · refine ⟨resource, List.mem_flatMap.2 ⟨.lightBucket (states.bucket type), ?_, isResource⟩, takes⟩
      exact List.mem_append_left _ (List.mem_append_right _ (List.mem_map_of_mem (LightModel.mem_all type)))
    · have coded := agrees.coded slot (states_of.mem_heldSlots_iff.2 ⟨type, holds⟩)
      exact ⟨⟨"", ShadowPool.mapName slot, _⟩, (mem_resources_iff rfl).2 ⟨coded, rfl, rfl⟩,
        Code.Resource.takes_of_not_floats rfl (by simp)⟩

/-- At most one upload goes to the map of a slot. -/
theorem Of.count_uploads_le_one (states_of : states.Of model.chunks graph)
    (agrees : LightModel.Agrees model.chunks graph pool choice) (declares : String → Bool) (slot : Nat) :
    ((states.chunks.flatMap (·.uploads declares)).map (·.name)).count (ShadowPool.mapName slot) ≤ 1 := by
  have sublist : ((LightType.all.flatMap fun type => (states.bucket type).shadowMapUploads).map (·.name)).Sublist
      ((LightModel.heldSlots model.chunks graph).map ShadowPool.mapName) := by
    simp only [LightModel.heldSlots, LightModel.heldAt_of_found (states_of.bucket _), ← LightBucket.slots_eq,
      List.map_flatMap]
    exact sublist_flatMap fun type => (states.bucket type).names_shadowMapUploads
  have nodup : (((states.chunks.flatMap (·.uploads declares)).map (·.name)).filter
      fun name => initials name == ['t', 'S']).Nodup := by
    rw [List.filter_map, Function.comp_def, filter_uploads]
    exact (agrees.distinct.map fun _ _ => ShadowPool.mapName_inj).sublist sublist
  exact ShadowPool.count_mapName_le_one nodup slot

/-- The map of a slot is set exactly if the light that holds the slot has a map, and to this map. -/
theorem Of.mem_uploads_mapName_iff (states_of : states.Of model.chunks graph) (fresh : model.Fresh graph)
    (kept : LightModel.Kept order model graph) {slot : Nat} :
    call ∈ states.chunks.flatMap (·.uploads declares) ∧ call.name = ShadowPool.mapName slot ↔
      ∃ id light map, model.light? id = some light ∧ model.slot? graph id = some (some slot) ∧
        light.shadow.map = some map ∧ call = ⟨ShadowPool.mapName slot, .texture map⟩ := by
  have packed := fun type => fresh.buckets type _ (states_of.bucket type)
  constructor
  · rintro ⟨member, named⟩
    have isMap : call ∈ LightType.all.flatMap fun type => (states.bucket type).shadowMapUploads := by
      rw [← filter_uploads states declares]
      exact List.mem_filter.2 ⟨member, by simp [named, ShadowPool.initials_mapName]⟩
    obtain ⟨type, -, single⟩ := List.mem_flatMap.1 isMap
    obtain ⟨entry, isEntry, other, map, holds, shown, rfl⟩ := LightBucket.mem_shadowMapUploads_iff.1 single
    obtain rfl : other = slot := ShadowPool.mapName_inj named
    obtain ⟨light, found⟩ := kept.exists_light (states_of.bucket type) isEntry
    have held : (entry.light, some other) ∈ (states.bucket type).held := List.mem_map.2 ⟨entry, isEntry, by rw [holds]⟩
    have maps := (packed type).maps entry isEntry light found
    rw [holds, shown] at maps
    exact ⟨entry.light, light, map, found, kept.slot?_eq (states_of.bucket type) found held, maps.symm, rfl⟩
  · rintro ⟨id, light, map, found, slotted, mapped, rfl⟩
    refine ⟨?_, rfl⟩
    have isMap : (⟨ShadowPool.mapName slot, .texture map⟩ : UniformCall) ∈
        LightType.all.flatMap fun type => (states.bucket type).shadowMapUploads := by
      obtain ⟨entry, isEntry, rfl, holds⟩ : ∃ entry ∈ (states.bucket light.type).entries, entry.light = id ∧
          entry.shadowSlot = some slot := by
        have stored := ChunkGraph.lightBucket?_eq_some_iff.2 (states_of.bucket light.type)
        have search : ((states.bucket light.type).entries.find? fun entry => entry.light == id).map (·.shadowSlot) =
            some (some slot) := by
          simpa [LightModel.slot?, found, LightModel.bucket, stored, Option.map_eq_bind, Function.comp_def] using slotted
        obtain ⟨entry, searched, holds⟩ := Option.map_eq_some_iff.1 search
        have same : entry.light = id := by simpa using List.find?_some searched
        exact ⟨entry, List.mem_of_find?_eq_some searched, same, holds⟩
      have maps := (packed light.type).maps entry isEntry light found
      rw [holds, Option.bind_some, mapped] at maps
      exact List.mem_flatMap.2 ⟨light.type, LightModel.mem_all _,
        LightBucket.mem_shadowMapUploads_iff.2 ⟨entry, isEntry, slot, map, holds, maps, rfl⟩⟩
    rw [← filter_uploads states declares] at isMap
    exact (List.mem_filter.1 isMap).1

end ModelStates

end ShaderWeave
