import Mathlib.Data.List.Nodup
import ShaderWeave.Proofs.Lighting.Creation
import ShaderWeave.Proofs.Lighting.Slots
import ShaderWeave.Proofs.Lighting.Writes

/-! # Updating light models

An update hands out the shadow slots by the current lights alone. What a run of a model keeps is small: each bucket
lists the live lights of its type in the order in which they were added, and the pool has the size of the settings.
-/

namespace ShaderWeave

namespace LightModel

/-! ## The order of the lights -/

/-- Whether a light is live and of one type. -/
def typed (model : LightModel) (type : LightType) (id : LightId) : Bool :=
  (model.light? id).any fun light => light.type = type

/-- The live lights of a type, in the order of their keys in `order`. -/
def lightsOf (model : LightModel) (order : List LightId) (type : LightType) : Lineup :=
  order.filterMap fun id => ((model.light? id).filter fun light => light.type = type).map fun light => (id, light)

/-- All live lights, type by type. -/
def lineup (model : LightModel) (order : List LightId) : Lineup :=
  LightType.all.flatMap (model.lightsOf order)

theorem mem_lightsOf {model : LightModel} {order : List LightId} {type : LightType} {id : LightId} {light : Light} :
    (id, light) ∈ model.lightsOf order type ↔ id ∈ order ∧ model.light? id = some light ∧ light.type = type := by
  simp only [lightsOf, List.mem_filterMap, Option.map_eq_some_iff, Option.filter_eq_some_iff, decide_eq_true_eq,
    Prod.mk.injEq]
  constructor
  · rintro ⟨other, member, stored, ⟨live, same⟩, rfl, rfl⟩
    exact ⟨member, live, same⟩
  · rintro ⟨member, live, same⟩
    exact ⟨id, member, light, ⟨live, same⟩, rfl, rfl⟩

theorem map_fst_lightsOf (model : LightModel) (order : List LightId) (type : LightType) :
    (model.lightsOf order type).map (·.1) = order.filter (model.typed type) := by
  rw [lightsOf, List.map_filterMap, ← List.filterMap_eq_filter]
  apply List.filterMap_congr
  intro id _
  cases found : model.light? id with
  | none => simp [typed, found, Option.guard]
  | some light => by_cases same : light.type = type <;> simp [typed, found, same, Option.guard]

theorem mem_lineup {model : LightModel} {order : List LightId} {id : LightId} {light : Light} :
    (id, light) ∈ model.lineup order ↔ id ∈ order ∧ model.light? id = some light := by
  simp only [lineup, List.mem_flatMap, mem_lightsOf]
  constructor
  · rintro ⟨_, -, member, live, -⟩
    exact ⟨member, live⟩
  · rintro ⟨member, live⟩
    exact ⟨light.type, mem_all light.type, member, live, rfl⟩

/-! ## What a run keeps -/

/-- The model is in order: `order` names its live lights as they were added, and its chunks are in the graph. -/
structure Kept (order : List LightId) (model : LightModel) (graph : ChunkGraph) : Prop where
  nodup : order.Nodup
  live : ∀ id, id ∈ order ↔ (model.light? id).isSome
  distinct : model.chunks.inOrder.Nodup
  pool : ∃ pool, graph.chunk? model.chunks.shadows = some (.shadowPool pool) ∧
    pool.capacity = model.settings.maxShadows
  buckets : ∀ type, ∃ bucket, graph.chunk? (model.bucket type) = some (.lightBucket bucket) ∧
    bucket.lights = order.filter (model.typed type)
  depth : ∃ choice, graph.chunk? model.chunks.depthFormat = some (.choice choice) ∧
    choice.variants = DepthFormat.variants

variable {order : List LightId} {model : LightModel} {graph after : ChunkGraph}

theorem nodup_buckets {chunks : ModelChunks} (distinct : chunks.inOrder.Nodup) : chunks.buckets.Nodup :=
  distinct.of_append_left.of_append_right

theorem bucket_ne {chunks : ModelChunks} (distinct : chunks.inOrder.Nodup) {first second : LightType}
    (apart : first ≠ second) : chunks.bucket first ≠ chunks.bucket second := by
  exact fun same => apart (List.inj_on_of_nodup_map (nodup_buckets distinct) (mem_all first) (mem_all second) same)

theorem others_ne {chunks : ModelChunks} (distinct : chunks.inOrder.Nodup) (type : LightType) :
    chunks.bucket type ≠ chunks.shadows ∧ chunks.bucket type ≠ chunks.depthFormat ∧
      chunks.shadows ≠ chunks.depthFormat := by
  rw [ModelChunks.inOrder, List.append_assoc] at distinct
  obtain ⟨front, -, apart⟩ := List.nodup_append.1 distinct
  have bucket : chunks.bucket type ∈ chunks.buckets ++ [chunks.postLights] :=
    List.mem_append_left _ (List.mem_map_of_mem (mem_all type))
  refine ⟨(apart _ (by simp) _ bucket).symm, (apart _ (by simp) _ bucket).symm, ?_⟩
  intro same
  simp [same] at front

theorem not_mem_buckets {chunks : ModelChunks} (distinct : chunks.inOrder.Nodup) :
    chunks.shadows ∉ chunks.buckets ∧ chunks.depthFormat ∉ chunks.buckets := by
  constructor
  · intro member
    obtain ⟨type, -, same⟩ := List.mem_map.1 member
    exact (others_ne distinct type).1 same
  · intro member
    obtain ⟨type, -, same⟩ := List.mem_map.1 member
    exact (others_ne distinct type).2.1 same

theorem options_ne {chunks : ModelChunks} (distinct : chunks.inOrder.Nodup) {id : ChunkId}
    (option : id = chunks.iblShadowing ∨ id = chunks.shadowFilter) :
    id ≠ chunks.shadows ∧ id ≠ chunks.depthFormat ∧ ∀ type, id ≠ chunks.bucket type := by
  rw [ModelChunks.inOrder, List.append_assoc] at distinct
  obtain ⟨front, -, apart⟩ := List.nodup_append.1 distinct
  refine ⟨?_, ?_, fun type => apart id ?_ _ (List.mem_append_left _ (List.mem_map_of_mem (mem_all type)))⟩
  · rcases option with rfl | rfl <;> simp_all
  · rcases option with rfl | rfl <;> simp_all
  · rcases option with rfl | rfl <;> simp

/-- Changes of the graph elsewhere do not matter. -/
theorem Kept.of_same (kept : Kept order model graph)
    (shadows : after.chunk? model.chunks.shadows = graph.chunk? model.chunks.shadows)
    (depthFormat : after.chunk? model.chunks.depthFormat = graph.chunk? model.chunks.depthFormat)
    (buckets : ∀ type, after.chunk? (model.bucket type) = graph.chunk? (model.bucket type)) :
    Kept order model after := by
  refine ⟨kept.nodup, kept.live, kept.distinct, ?_, ?_, ?_⟩
  · rw [shadows]
    exact kept.pool
  · intro type
    rw [buckets]
    exact kept.buckets type
  · rw [depthFormat]
    exact kept.depth

theorem Kept.elsewhere (kept : Kept order model graph)
    (same : ∀ id ∈ model.chunks.inOrder, after.chunk? id = graph.chunk? id) : Kept order model after := by
  apply kept.of_same (same _ (by simp [ModelChunks.inOrder])) (same _ (by simp [ModelChunks.inOrder]))
  exact fun type => same _ (bucket_mem_inOrder model.chunks type)

theorem Kept.new {settings : LightModelSettings} (made : (LightModel.new graph settings).1 = .ok model) :
    Kept [] model (LightModel.new graph settings).2 := by
  obtain ⟨model', -, -, made', rfl, lights, -, -, nodup, -⟩ := new_spec graph settings
  cases made.symm.trans made'
  obtain ⟨⟨choice, formatted, format⟩, pool, buckets⟩ := new_chunks made
  obtain ⟨depth, same, -, variants⟩ := depthChoice_eq_ok
  cases formatted.symm.trans same
  refine ⟨List.nodup_nil, ?_, (List.nodup_cons.1 nodup).2, ⟨_, pool, rfl⟩, fun type => ⟨_, buckets type, rfl⟩,
    ⟨_, format, variants⟩⟩
  intro id
  simp [light?, lights]

/-! ## Editing lights -/

/-- One bucket gets other lights. -/
private theorem Kept.store (kept : Kept order model graph) {order' : List LightId} {lights : Arena .light Light}
    (nodup : order'.Nodup) (live : ∀ id, id ∈ order' ↔ (lights.get? id).isSome) {type : LightType}
    {bucket : LightBucket} (changed : Bool)
    (here : bucket.lights = order'.filter ({ model with lights }.typed type))
    (there : ∀ other, other ≠ type →
      order'.filter ({ model with lights }.typed other) = order.filter (model.typed other)) :
    Kept order' { model with lights } (graph.store (model.bucket type) (.lightBucket bucket) changed) := by
  obtain ⟨apart, apart', -⟩ := others_ne kept.distinct type
  have stored : ∀ id, id ≠ model.bucket type →
      (graph.store (model.bucket type) (.lightBucket bucket) changed).chunk? id = graph.chunk? id := fun id away => by
    rw [ChunkGraph.chunk?_store, if_neg away]
  refine ⟨nodup, live, kept.distinct, ?_, ?_, ?_⟩
  · obtain ⟨pool, found, capacity⟩ := kept.pool
    exact ⟨pool, (stored _ apart.symm).trans found, capacity⟩
  · intro other
    obtain ⟨old, found, listed⟩ := kept.buckets other
    by_cases same : other = type
    · subst same
      have written : (graph.store (model.bucket other) (.lightBucket bucket) changed).chunk? (model.bucket other) =
          some (.lightBucket bucket) := by
        rw [ChunkGraph.chunk?_store, if_pos rfl, found]
        rfl
      exact ⟨bucket, written, here⟩
    · exact ⟨old, (stored _ (bucket_ne kept.distinct same)).trans found, listed.trans (there other same).symm⟩
  · obtain ⟨choice, found, variants⟩ := kept.depth
    exact ⟨choice, (stored _ apart'.symm).trans found, variants⟩

theorem typed_insert (model : LightModel) (light : Light) (type : LightType) (id : LightId) :
    ({ model with lights := (model.lights.insert light).2 } : LightModel).typed type id =
      if id = (model.lights.insert light).1 then decide (light.type = type) else model.typed type id := by
  split
  · next new => simp [typed, light?, new]
  · next old => simp [typed, light?, model.lights.get?_insert_of_ne light old]

theorem Kept.addLight (kept : Kept order model graph) (light : Light) :
    Kept (order ++ [(model.lights.insert light).1]) (model.addLight graph light).2.1
      (model.addLight graph light).2.2 := by
  have fresh : model.light? (model.lights.insert light).1 = none := model.lights.get?_insert_key light
  have found : ∀ id, ({ model with lights := (model.lights.insert light).2 } : LightModel).light? id =
      if id = (model.lights.insert light).1 then some light else model.light? id := by
    intro id
    split
    · next new => exact new ▸ model.lights.get?_insert_self light
    · next old => exact model.lights.get?_insert_of_ne light old
  have absent : (model.lights.insert light).1 ∉ order := by
    rw [kept.live, fresh]
    simp
  obtain ⟨bucket, stored, listed⟩ := kept.buckets light.type
  have known : graph.lightBucket? (model.bucket light.type) = some bucket :=
    ChunkGraph.lightBucket?_eq_some_iff.2 stored
  have unlisted : (model.lights.insert light).1 ∉ bucket.lights := by
    rw [listed]
    exact fun member => absent (List.mem_filter.1 member).1
  have appended : ∀ type, (order ++ [(model.lights.insert light).1]).filter
      (({ model with lights := (model.lights.insert light).2 } : LightModel).typed type) =
        order.filter (model.typed type) ++ if light.type = type then [(model.lights.insert light).1] else [] := by
    intro type
    rw [List.filter_append]
    congr 1
    · apply List.filter_congr
      intro id member
      rw [typed_insert, if_neg (ne_of_mem_of_not_mem member absent)]
    · by_cases same : light.type = type <;> simp [typed_insert, same]
  simp only [LightModel.addLight, known, LightBucket.addLight, unlisted, if_false]
  refine kept.store ?_ ?_ true ?_ ?_
  · refine List.nodup_append.2 ⟨kept.nodup, List.nodup_singleton _, ?_⟩
    rintro id member _ single rfl
    exact absent (List.mem_singleton.1 single ▸ member)
  · intro id
    have here := found id
    rw [light?] at here
    rw [here, List.mem_append, List.mem_singleton, kept.live]
    by_cases new : id = (model.lights.insert light).1 <;> simp [new]
  · rw [appended, if_pos rfl, ← listed]
    simp [LightBucket.lights]
  · intro type apart
    rw [appended, if_neg apart.symm, List.append_nil]

theorem typed_remove {id : LightId} {light : Light} {lights : Arena .light Light}
    (removed : model.lights.remove id = some (light, lights)) (type : LightType) (other : LightId) :
    ({ model with lights } : LightModel).typed type other = (decide (other ≠ id) && model.typed type other) := by
  rw [typed, light?, (Arena.get?_of_remove removed).2]
  by_cases here : other = id <;> simp [here, typed, light?]

theorem Kept.removeLight (kept : Kept order model graph) (id : LightId) :
    Kept (order.erase id) (model.removeLight graph id).2.1 (model.removeLight graph id).2.2 := by
  unfold LightModel.removeLight
  split
  · next gone =>
    have absent : id ∉ order := by
      rw [kept.live, light?, (Arena.remove_eq_none_iff ..).1 gone]
      simp
    rwa [List.erase_of_not_mem absent]
  · next light lights removed =>
    obtain ⟨found, others⟩ := Arena.get?_of_remove removed
    obtain ⟨bucket, stored, listed⟩ := kept.buckets light.type
    have known : graph.lightBucket? (model.bucket light.type) = some bucket :=
      ChunkGraph.lightBucket?_eq_some_iff.2 stored
    have member : id ∈ bucket.lights := by
      rw [listed, List.mem_filter, kept.live]
      simp [light?, typed, found]
    have left : ∀ type, (order.erase id).filter ({ model with lights }.typed type) =
        (order.filter (model.typed type)).erase id := by
      intro type
      rw [kept.nodup.erase_eq_filter, (kept.nodup.filter _).erase_eq_filter, List.filter_filter, List.filter_filter]
      apply List.filter_congr
      intro other _
      rw [typed_remove removed]
      by_cases here : other = id <;> simp [here, Bool.and_comm]
    simp only [known, LightBucket.removeLight, member, if_true]
    refine kept.store (kept.nodup.erase id) ?_ true ?_ ?_
    · intro other
      rw [kept.nodup.mem_erase_iff, kept.live, light?, others]
      by_cases here : other = id <;> simp [here]
    · rw [left, ← listed, LightBucket.lights, LightBucket.lights, List.erase_eq_eraseP', List.eraseP_map]
      rfl
    · intro other apart
      rw [left, List.erase_of_not_mem]
      simp [typed, light?, found, apart.symm]

theorem light?_modifyLight (model : LightModel) (id : LightId) (change : Light → Light) (other : LightId) :
    (model.modifyLight id change).light? other =
      if other = id then (model.light? other).map change else model.light? other :=
  model.lights.get?_modify id other change

theorem typed_modifyLight {id : LightId} {change : Light → Light}
    (type : ∀ light, model.light? id = some light → (change light).type = light.type) :
    (model.modifyLight id change).typed = model.typed := by
  funext expected other
  rw [LightModel.typed, LightModel.typed, light?_modifyLight]
  split
  · next here =>
    cases found : model.light? other with
    | none => rfl
    | some light => simp [type light (here ▸ found)]
  · rfl

theorem Kept.modifyLight (kept : Kept order model graph) (id : LightId) {change : Light → Light}
    (type : ∀ light, model.light? id = some light → (change light).type = light.type) :
    Kept order (model.modifyLight id change) graph := by
  refine ⟨kept.nodup, ?_, kept.distinct, kept.pool, ?_, kept.depth⟩
  · intro other
    rw [kept.live, light?_modifyLight]
    split <;> simp
  · intro expected
    rw [typed_modifyLight type]
    exact kept.buckets expected

/-! ## Options -/

private theorem Kept.storeOption (kept : Kept order model graph) {id : ChunkId}
    (option : id = model.chunks.iblShadowing ∨ id = model.chunks.shadowFilter) (chunk : Chunk) (changed : Bool) :
    Kept order model (graph.store id chunk changed) := by
  obtain ⟨shadows, depthFormat, buckets⟩ := options_ne kept.distinct option
  have others : ∀ other, id ≠ other → (graph.store id chunk changed).chunk? other = graph.chunk? other := by
    intro other apart
    rw [ChunkGraph.chunk?_store, if_neg apart.symm]
  exact kept.of_same (others _ shadows) (others _ depthFormat) fun type => others _ (buckets type)

/-- An option is set, or its chunk is missing and nothing happens. -/
inductive Adjusts (model : LightModel) (graph : ChunkGraph) : LightModel → ChunkGraph → Prop where
  | nothing : Adjusts model graph model graph
  | option {id : ChunkId} {settings : LightModelSettings}
      (option : id = model.chunks.iblShadowing ∨ id = model.chunks.shadowFilter)
      (shadows : settings.maxShadows = model.settings.maxShadows) (chunk : Chunk) (changed : Bool) :
      Adjusts model graph { model with settings } (graph.store id chunk changed)

theorem adjusts_setShadowFiltering (model : LightModel) (graph : ChunkGraph) (filtering : ShadowFiltering) :
    Adjusts model graph (model.setShadowFiltering graph filtering).2.1
      (model.setShadowFiltering graph filtering).2.2 := by
  unfold LightModel.setShadowFiltering
  dsimp only
  split
  · exact .nothing
  · split
    · exact .nothing
    · exact @Adjusts.option model graph _ { model.settings with shadowFiltering := filtering } (.inr rfl) rfl _ _

theorem adjusts_setIblShadowing (model : LightModel) (graph : ChunkGraph) (enabled : Bool) :
    Adjusts model graph (model.setIblShadowing graph enabled).2.1 (model.setIblShadowing graph enabled).2.2 := by
  unfold LightModel.setIblShadowing
  dsimp only
  split
  · exact .nothing
  · exact @Adjusts.option model graph _ { model.settings with iblShadowing := enabled } (.inl rfl) rfl _ _

theorem Kept.adjust (kept : Kept order model graph) {adjusted : LightModel}
    (adjusts : Adjusts model graph adjusted after) : Kept order adjusted after := by
  cases adjusts with
  | nothing => exact kept
  | option option shadows chunk changed =>
    obtain ⟨nodup, live, distinct, ⟨pool, stored, capacity⟩, buckets, depth⟩ := kept.storeOption option chunk changed
    exact ⟨nodup, live, distinct, ⟨pool, stored, capacity.trans shadows.symm⟩, buckets, depth⟩

/-! ## One pass -/

/-- What the lights of a bucket in the graph hold. -/
def heldAt (graph : ChunkGraph) (id : ChunkId) : List (LightId × Option Nat) :=
  ((graph.lightBucket? id).map (·.held)).getD []

theorem heldAt_of_found {id : ChunkId} {bucket : LightBucket} (found : graph.chunk? id = some (.lightBucket bucket)) :
    heldAt graph id = bucket.held := by
  rw [heldAt, ChunkGraph.lightBucket?_eq_some_iff.2 found]
  rfl

/-- Updating the first bucket changes it and the pool, and marks collections if a slot changed. The others go on from
there. -/
theorem updateBuckets_cons (lights : Arena .light Light) {shadows target : ChunkId} {bucket : LightBucket}
    {pool : ShadowPool} (found : graph.chunk? target = some (.lightBucket bucket))
    (stored : graph.chunk? shadows = some (.shadowPool pool)) (apart : shadows ≠ target) (rest : List ChunkId) :
    ∃ next : ChunkGraph,
      updateBuckets lights shadows graph (target :: rest) = updateBuckets lights shadows next rest ∧
        next.chunk? shadows = some (.shadowPool (bucket.update lights pool).2.2) ∧
        next.chunk? target = some (.lightBucket (bucket.update lights pool).2.1) ∧
        (∀ id, id ≠ shadows → id ≠ target → next.chunk? id = graph.chunk? id) ∧
        ((bucket.update lights pool).1 = false → next.collections = graph.collections) := by
  refine ⟨_, by rw [updateBuckets, ChunkGraph.lightBucket?_eq_some_iff.2 found,
    ChunkGraph.shadowPool?_eq_some_iff.2 stored], ?_, ?_, fun id away away' => ?_, fun quiet => ?_⟩
  · simp [ChunkGraph.chunk?_setChunk, apart, stored]
  · simp [ChunkGraph.chunk?_setChunk, apart.symm, found]
  · simp [ChunkGraph.chunk?_setChunk, away, away']
  · rw [quiet]
    rfl

/-- One bucket after the other: each goes on where the casters before it ended. -/
theorem updateBuckets_spec {chunks : ModelChunks} (distinct : chunks.inOrder.Nodup) {lights : Arena .light Light}
    {lineups : LightType → Lineup} (live : ∀ type, ∀ entry ∈ lineups type, lights.get? entry.1 = some entry.2)
    {types : List LightType} (once : types.Nodup) {pool : ShadowPool} {earlier : List ShadowSettings}
    (stored : graph.chunk? chunks.shadows = some (.shadowPool pool)) (serves : pool.Serves earlier)
    (buckets : ∀ type ∈ types, ∃ bucket, graph.chunk? (chunks.bucket type) = some (.lightBucket bucket) ∧
      bucket.lights = (lineups type).map (·.1)) :
    ∃ after pool', updateBuckets lights chunks.shadows graph (types.map chunks.bucket) = (.ok (), after) ∧
      after.chunk? chunks.shadows = some (.shadowPool pool') ∧ pool'.capacity = pool.capacity ∧
      pool'.Serves (earlier ++ Lineup.shadows (types.flatMap lineups)) ∧
      (types.flatMap fun type => heldAt after (chunks.bucket type)) =
        Lineup.slotted pool.capacity earlier.length (types.flatMap lineups) ∧
      (∀ type ∈ types, ∃ bucket, after.chunk? (chunks.bucket type) = some (.lightBucket bucket) ∧
        bucket.lights = (lineups type).map (·.1)) ∧
      ∀ id, id ≠ chunks.shadows → (∀ type ∈ types, id ≠ chunks.bucket type) → after.chunk? id = graph.chunk? id := by
  induction types generalizing graph pool earlier with
  | nil =>
    refine ⟨graph, pool, rfl, stored, rfl, ?_, rfl, by simp, fun _ _ _ => rfl⟩
    simpa [Lineup.shadows, Lineup.casters] using serves
  | cons type rest ih =>
    obtain ⟨bucket, found, listed⟩ := buckets type (List.mem_cons_self ..)
    obtain ⟨apart, -, -⟩ := others_ne distinct type
    obtain ⟨absent, once⟩ := List.nodup_cons.1 once
    obtain ⟨held, served, capacity⟩ := bucket.update_spec serves listed (live type)
    obtain ⟨next, step, nextPool, nextBucket, nextOthers, -⟩ :=
      updateBuckets_cons lights found stored apart.symm (rest.map chunks.bucket)
    have later : ∀ other ∈ rest, ∃ bucket, next.chunk? (chunks.bucket other) = some (.lightBucket bucket) ∧
        bucket.lights = (lineups other).map (·.1) := by
      intro other member
      obtain ⟨bucket, found, listed⟩ := buckets other (List.mem_cons_of_mem _ member)
      refine ⟨bucket, ?_, listed⟩
      rw [nextOthers _ (others_ne distinct other).1 (bucket_ne distinct (ne_of_mem_of_not_mem member absent))]
      exact found
    obtain ⟨after, pool', updated, last, capacity', served', helds, kept, others⟩ := ih once nextPool served later
    have still : after.chunk? (chunks.bucket type) = some (.lightBucket (bucket.update lights pool).2.1) := by
      rw [others _ apart fun other member => bucket_ne distinct (ne_of_mem_of_not_mem member absent).symm]
      exact nextBucket
    refine ⟨after, pool', step.trans updated, last, capacity'.trans capacity, ?_, ?_, ?_, ?_⟩
    · rw [List.flatMap_cons, Lineup.shadows_append, ← List.append_assoc]
      exact served'
    · rw [List.flatMap_cons, List.flatMap_cons, helds, heldAt_of_found still, held, Lineup.slotted_append, capacity,
        List.length_append, Lineup.length_shadows]
    · intro other member
      rcases List.mem_cons.1 member with rfl | member
      · refine ⟨_, still, ?_⟩
        rw [← LightBucket.map_fst_held, held, Lineup.map_fst_slotted]
      · exact kept other member
    · intro id away away'
      rw [others id away fun other member => away' other (List.mem_cons_of_mem _ member)]
      exact nextOthers id away (away' type (List.mem_cons_self ..))

theorem setDepthFormat_spec {id : ChunkId} {choice : Choice} (stored : graph.chunk? id = some (.choice choice))
    (variants : choice.variants = DepthFormat.variants) (depthTexture : Bool) :
    ∃ after choice', setDepthFormat id depthTexture graph = (.ok (), after) ∧
      after.chunk? id = some (.choice choice') ∧ choice'.variants = DepthFormat.variants ∧
      choice'.value = (DepthFormat.ofDepthTexture depthTexture).variant ∧
      ∀ other, other ≠ id → after.chunk? other = graph.chunk? other := by
  have inside : choice.variants.idxOf (DepthFormat.ofDepthTexture depthTexture).variant < choice.variants.length := by
    rw [variants]
    cases depthTexture <;> decide
  simp only [setDepthFormat, ChunkGraph.choice?_eq_some_iff.2 stored, Choice.set, inside, dif_pos]
  refine ⟨_, { choice with current := _, current_lt := inside }, rfl, ?_, variants, List.getElem_idxOf inside, ?_⟩
  · rw [ChunkGraph.chunk?_store, if_pos rfl, stored]
    rfl
  · intro other apart
    rw [ChunkGraph.chunk?_store, if_neg apart]

/-- The state that an update leaves: slots by the current lineup, and a pool whose code is for them. -/
structure Settled (order : List LightId) (model : LightModel) (graph : ChunkGraph) : Prop where
  kept : Kept order model graph
  pool : ∃ pool, graph.chunk? model.chunks.shadows = some (.shadowPool pool) ∧
    pool.capacity = model.settings.maxShadows ∧ pool.generatedCount = pool.count ∧
    pool.Serves (model.lineup order).shadows
  held : (LightType.all.flatMap fun type => heldAt graph (model.bucket type)) =
    (model.lineup order).slotted model.settings.maxShadows 0

private theorem Settled.of_same (settled : Settled order model graph)
    (others : ∀ id, id ≠ model.chunks.depthFormat → after.chunk? id = graph.chunk? id) {choice : Choice}
    (depth : after.chunk? model.chunks.depthFormat = some (.choice choice))
    (variants : choice.variants = DepthFormat.variants) : Settled order model after := by
  obtain ⟨-, -, apart⟩ := others_ne settled.kept.distinct .directional
  have buckets : ∀ type, after.chunk? (model.bucket type) = graph.chunk? (model.bucket type) := fun type =>
    others _ (others_ne settled.kept.distinct type).2.1
  refine ⟨?_, ?_, ?_⟩
  · obtain ⟨nodup, live, distinct, pool, listed, -⟩ := settled.kept
    refine ⟨nodup, live, distinct, ?_, ?_, ⟨choice, depth, variants⟩⟩
    · rw [others _ apart]
      exact pool
    · intro type
      rw [buckets]
      exact listed type
  · rw [others _ apart]
    exact settled.pool
  · rw [← settled.held]
    refine congrArg (List.flatMap · LightType.all) (funext ?_)
    intro type
    rw [heldAt, heldAt, ChunkGraph.lightBucket?, ChunkGraph.lightBucket?, buckets]

/-- Ending a pass makes the code of the pool one for the slots handed out, and marks collections if that is other code. -/
theorem checkPool_spec {shadows : ChunkId} {pool : ShadowPool}
    (stored : graph.chunk? shadows = some (.shadowPool pool)) :
    ∃ after, checkPool shadows graph = (.ok pool.depthTexture, after) ∧
      after.chunk? shadows = some (.shadowPool pool.check.2) ∧
      (∀ id, id ≠ shadows → after.chunk? id = graph.chunk? id) ∧
      (pool.check.1 = false → after.collections = graph.collections) := by
  simp only [checkPool, ChunkGraph.shadowPool?_eq_some_iff.2 stored]
  refine ⟨_, rfl, ?_, ?_, fun quiet => ?_⟩
  · simp [ChunkGraph.chunk?_setChunk, stored]
  · intro id apart
    simp [ChunkGraph.chunk?_setChunk, apart]
  · rw [quiet]
    rfl

theorem Kept.update (kept : Kept order model graph) :
    ∃ after, model.update graph = (.ok (), after) ∧ Settled order model after := by
  obtain ⟨pool, stored, capacity⟩ := kept.pool
  obtain ⟨choice, format, variants⟩ := kept.depth
  have reset := ChunkGraph.chunk?_setChunk_self stored (.shadowPool pool.reset)
  have others : ∀ id, id ≠ model.chunks.shadows →
      (graph.setChunk model.chunks.shadows (.shadowPool pool.reset)).chunk? id = graph.chunk? id := fun id apart =>
    graph.chunk?_setChunk_of_ne apart _
  have buckets : ∀ type ∈ LightType.all, ∃ bucket,
      (graph.setChunk model.chunks.shadows (.shadowPool pool.reset)).chunk? (model.chunks.bucket type) =
        some (.lightBucket bucket) ∧ bucket.lights = (model.lightsOf order type).map (·.1) := by
    intro type _
    obtain ⟨bucket, found, listed⟩ := kept.buckets type
    exact ⟨bucket, (others _ (others_ne kept.distinct type).1).trans found,
      listed.trans (model.map_fst_lightsOf order type).symm⟩
  have live : ∀ type, ∀ entry ∈ model.lightsOf order type, model.lights.get? entry.1 = some entry.2 :=
    fun _ _ member => (mem_lightsOf.1 member).2.1
  obtain ⟨filled, pool', updated, last, capacity', served, held, listed, rest⟩ :=
    updateBuckets_spec kept.distinct live (by decide) reset pool.serves_reset buckets
  obtain ⟨checked, ended, final, others', -⟩ := checkPool_spec last
  -- All that an update does but for the format of the maps.
  have settled : Settled order model checked := by
    have apart : ∀ type, model.chunks.bucket type ≠ model.chunks.shadows := fun type =>
      (others_ne kept.distinct type).1
    have away := (others_ne kept.distinct .directional).2.2
    refine ⟨⟨kept.nodup, kept.live, kept.distinct, ⟨_, final, capacity'.trans capacity⟩, ?_,
      ⟨choice, ?_, variants⟩⟩, ⟨_, final, capacity'.trans capacity, rfl, served⟩, ?_⟩
    · intro type
      obtain ⟨bucket, found, lights⟩ := listed type (mem_all type)
      exact ⟨bucket, (others' _ (apart type)).trans found, lights.trans (model.map_fst_lightsOf order type)⟩
    · rw [others' _ away.symm, rest _ away.symm fun type _ => (others_ne kept.distinct type).2.1.symm,
        others _ away.symm]
      exact format
    · have same : ∀ type, heldAt checked (model.bucket type) = heldAt filled (model.bucket type) := fun type => by
        rw [heldAt, heldAt, ChunkGraph.lightBucket?, ChunkGraph.lightBucket?, bucket, others' _ (apart type)]
      simp only [same]
      rw [← capacity]
      exact held
  have buckets_eq : model.chunks.buckets = LightType.all.map model.chunks.bucket := rfl
  simp only [LightModel.update, ChunkGraph.shadowPool?_eq_some_iff.2 stored, buckets_eq, updated, ended]
  cases pool'.depthTexture with
  | none => exact ⟨checked, rfl, settled⟩
  | some depthTexture =>
    obtain ⟨choice', found, variants'⟩ := settled.kept.depth
    obtain ⟨after, chosen, declared, depth, variants, -, unchanged⟩ := setDepthFormat_spec found variants' depthTexture
    exact ⟨after, declared, settled.of_same unchanged depth variants⟩

end LightModel

end ShaderWeave
