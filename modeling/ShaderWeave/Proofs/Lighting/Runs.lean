import ShaderWeave.Proofs.Lighting.Updates

/-! # Runs of light models

Whatever happened to a model before, an update leaves its lights and its pool as if the current lights were all there
had ever been.
-/

namespace ShaderWeave

namespace LightModel

/-- A model in a graph after any run in which its own chunks stay, with the keys of its live lights as they were
added. Other parts of the graph may change at any time. -/
inductive Reached : List LightId → LightModel → ChunkGraph → Prop where
  | new {graph : ChunkGraph} {settings : LightModelSettings} {model : LightModel} :
      (new graph settings).1 = .ok model → Reached [] model (new graph settings).2
  | elsewhere {order : List LightId} {model : LightModel} {graph after : ChunkGraph} : Reached order model graph →
      (∀ id ∈ model.chunks.inOrder, after.chunk? id = graph.chunk? id) → Reached order model after
  | addLight {order : List LightId} {model : LightModel} {graph : ChunkGraph} (light : Light) :
      Reached order model graph →
      Reached (order ++ [(model.lights.insert light).1]) (model.addLight graph light).2.1
        (model.addLight graph light).2.2
  | removeLight {order : List LightId} {model : LightModel} {graph : ChunkGraph} (id : LightId) :
      Reached order model graph →
      Reached (order.erase id) (model.removeLight graph id).2.1 (model.removeLight graph id).2.2
  | modifyLight {order : List LightId} {model : LightModel} {graph : ChunkGraph} (id : LightId)
      (change : Light → Light) : Reached order model graph →
      (∀ light, model.light? id = some light → (change light).type = light.type) →
      Reached order (model.modifyLight id change) graph
  | setShadowFiltering {order : List LightId} {model : LightModel} {graph : ChunkGraph}
      (filtering : ShadowFiltering) : Reached order model graph →
      Reached order (model.setShadowFiltering graph filtering).2.1 (model.setShadowFiltering graph filtering).2.2
  | setIblShadowing {order : List LightId} {model : LightModel} {graph : ChunkGraph} (enabled : Bool) :
      Reached order model graph →
      Reached order (model.setIblShadowing graph enabled).2.1 (model.setIblShadowing graph enabled).2.2
  | update {order : List LightId} {model : LightModel} {graph : ChunkGraph} : Reached order model graph →
      Reached order model (model.update graph).2

variable {order : List LightId} {model : LightModel} {graph : ChunkGraph}

theorem Reached.kept (reached : Reached order model graph) : Kept order model graph := by
  induction reached with
  | new made => exact .new made
  | elsewhere _ same ih => exact ih.elsewhere same
  | addLight light _ ih => exact ih.addLight light
  | removeLight id _ ih => exact ih.removeLight id
  | modifyLight id change _ type ih => exact ih.modifyLight id type
  | setShadowFiltering filtering _ ih => exact ih.adjust (adjusts_setShadowFiltering _ _ filtering)
  | setIblShadowing enabled _ ih => exact ih.adjust (adjusts_setIblShadowing _ _ enabled)
  | update _ ih =>
    obtain ⟨after, updated, settled⟩ := ih.update
    rw [updated]
    exact settled.kept

/-! ## Slots -/

/-- The slot that a live light holds in the bucket of its type. -/
def slot? (model : LightModel) (graph : ChunkGraph) (id : LightId) : Option (Option Nat) := do
  let light ← model.light? id
  let bucket ← graph.lightBucket? (model.bucket light.type)
  let entry ← bucket.entries.find? fun entry => entry.light == id
  return entry.shadowSlot

/-- In a list with distinct keys, the pair of a key is what a search for the key finds. -/
private theorem find?_of_mem_held {bucket : LightBucket} (nodup : bucket.lights.Nodup) {id : LightId}
    {slot : Option Nat} (member : (id, slot) ∈ bucket.held) :
    (bucket.entries.find? fun entry => entry.light == id).map (·.shadowSlot) = some slot := by
  obtain ⟨type, entries, buffers⟩ := bucket
  simp only [LightBucket.lights, LightBucket.held] at nodup member ⊢
  induction entries with
  | nil => simp at member
  | cons entry rest ih =>
    obtain ⟨absent, nodup⟩ := List.nodup_cons.1 nodup
    rcases List.mem_cons.1 member with here | later
    · cases here
      simp
    · have known : id ∈ rest.map (·.light) := by
        obtain ⟨other, isOther, pair⟩ := List.mem_map.1 later
        exact List.mem_map.2 ⟨other, isOther, congrArg Prod.fst pair⟩
      have apart : entry.light ≠ id := (ne_of_mem_of_not_mem known absent).symm
      simpa [apart] using ih nodup later

/-- The lights of a bucket are live. -/
theorem Kept.exists_light (kept : Kept order model graph) {type : LightType} {bucket : LightBucket}
    (stored : graph.chunk? (model.bucket type) = some (.lightBucket bucket)) {entry : BucketEntry}
    (member : entry ∈ bucket.entries) : ∃ light, model.light? entry.light = some light := by
  obtain ⟨other, known, listed⟩ := kept.buckets type
  obtain rfl : other = bucket := by simpa using known.symm.trans stored
  have inside : entry.light ∈ other.lights := List.mem_map_of_mem member
  rw [listed, List.mem_filter, kept.live] at inside
  exact Option.isSome_iff_exists.1 inside.1

/-- What a live light holds in a bucket is its slot. -/
theorem Kept.slot?_eq (kept : Kept order model graph) {type : LightType} {bucket : LightBucket}
    (stored : graph.chunk? (model.bucket type) = some (.lightBucket bucket)) {id : LightId} {slot : Option Nat}
    {light : Light} (found : model.light? id = some light) (member : (id, slot) ∈ bucket.held) :
    model.slot? graph id = some slot := by
  obtain ⟨other, known, listed⟩ := kept.buckets type
  obtain rfl : other = bucket := by simpa using known.symm.trans stored
  have same : light.type = type := by
    have inside : id ∈ other.lights := by
      rw [← other.map_fst_held]
      exact List.mem_map_of_mem member
    rw [listed, List.mem_filter, typed, found] at inside
    simpa using inside.2
  have nodup : other.lights.Nodup := listed ▸ kept.nodup.filter _
  have search := find?_of_mem_held nodup member
  obtain ⟨entry, found', rfl⟩ := Option.map_eq_some_iff.1 search
  simp [slot?, found, same, ChunkGraph.lightBucket?_eq_some_iff.2 stored, found']

theorem Settled.slot?_eq (settled : Settled order model graph) {id : LightId} {slot : Option Nat} {light : Light}
    (found : model.light? id = some light)
    (member : (id, slot) ∈ (model.lineup order).slotted model.settings.maxShadows 0) :
    model.slot? graph id = some slot := by
  rw [← settled.held] at member
  obtain ⟨type, -, member⟩ := List.mem_flatMap.1 member
  obtain ⟨bucket, stored, -⟩ := settled.kept.buckets type
  rw [heldAt_of_found stored] at member
  exact settled.kept.slot?_eq stored found member

/-! ## Values of the pool -/

private theorem slice_flatMap {α β : Type} {rows : List α} {row : α → List β} {width : Nat}
    (widths : ∀ item, (row item).length = width) {index : Nat} {item : α} (found : rows[index]? = some item) :
    ((rows.flatMap row).drop (width * index)).take width = row item := by
  induction rows generalizing index with
  | nil => simp at found
  | cons first rest ih =>
    cases index with
    | zero =>
      obtain rfl : first = item := by simpa using found
      rw [Nat.mul_zero, List.drop_zero, List.flatMap_cons, List.take_append_of_le_length (by simp [widths])]
      exact List.take_of_length_le (by simp [widths])
    | succ index =>
      have later := ih (show rest[index]? = some item by simpa using found)
      have split : width * (index + 1) = (row first).length + width * index := by
        rw [widths, Nat.mul_succ, Nat.add_comm]
      rw [List.flatMap_cons, split, List.drop_length_add_append]
      exact later

/-- The values of one slot of a pool are those of a shadow: its projection, its bias, and its size. -/
structure SlotHolds (pool : ShadowPool) (slot : Nat) (shadow : ShadowSettings) : Prop where
  matrix : (pool.matrices.drop (16 * slot)).take 16 = shadow.projection.toList
  texelBias : (pool.texelBias.drop (4 * slot)).take 4 = shadow.texelBias.toList
  mapSize : (pool.mapSizes.drop (2 * slot)).take 2 =
    [shadow.mapSize.max .one, Single.one / shadow.mapSize.max .one]

theorem slotHolds {pool : ShadowPool} {slot : Nat} {shadow : ShadowSettings}
    (granted : pool.granted[slot]? = some shadow) : SlotHolds pool slot shadow where
  matrix := slice_flatMap (fun shadow => by simp) granted
  texelBias := slice_flatMap (fun shadow => by simp) granted
  mapSize := by
    have widths : ∀ shadow : ShadowSettings,
        [shadow.mapSize.max .one, Single.one / shadow.mapSize.max .one].length = 2 := fun _ => rfl
    exact slice_flatMap widths granted

/-! ## The result of an update -/

/-- The casters in the order of their types, and of their insertion within a type. -/
def casters (model : LightModel) (order : List LightId) : Lineup := (model.lineup order).casters

/-- Slots and pool are those that the current casters get from an empty pool. -/
structure Assigned (order : List LightId) (model : LightModel) (graph : ChunkGraph) : Prop where
  casters : ∀ index id light, (model.casters order)[index]? = some (id, light) →
    model.slot? graph id = some (if index < model.settings.maxShadows then some index else none)
  others : ∀ id light, model.light? id = some light → light.castShadows = false → model.slot? graph id = some none
  pool : ∃ pool, graph.shadowPool? model.chunks.shadows = some pool ∧
    pool.count = min (model.casters order).length model.settings.maxShadows ∧
    pool.generatedCount = min (model.casters order).length model.settings.maxShadows ∧
    (∀ index id light, (model.casters order)[index]? = some (id, light) → index < model.settings.maxShadows →
      SlotHolds pool index light.shadow) ∧
    pool.depthTexture =
      if model.settings.maxShadows = 0 then none
      else (model.casters order).head?.map fun (_, light) => light.shadow.depthTexture

theorem Settled.assigned (settled : Settled order model graph) : Assigned order model graph := by
  obtain ⟨pool, stored, capacity, generated, serves⟩ := settled.pool
  refine ⟨fun index id light caster => ?_, fun id light found idle => ?_,
    ⟨pool, ChunkGraph.shadowPool?_eq_some_iff.2 stored, ?_, ?_, fun index id light caster room => ?_, ?_⟩⟩
  · have found := (mem_lineup.1 (List.mem_of_mem_filter (List.mem_of_getElem? caster))).2
    have member : (id, if 0 + index < model.settings.maxShadows then some (0 + index) else none) ∈
        (model.lineup order).slotted model.settings.maxShadows 0 := Lineup.mem_slotted_of_caster caster
    rw [Nat.zero_add] at member
    exact settled.slot?_eq found member
  · have live : id ∈ order := (settled.kept.live id).2 (by simp [found])
    exact settled.slot?_eq found (Lineup.mem_slotted_of_not_caster (mem_lineup.2 ⟨live, found⟩) idle)
  · rw [serves.count, capacity, Lineup.length_shadows]
    rfl
  · rw [generated, serves.count, capacity, Lineup.length_shadows]
    rfl
  · apply slotHolds
    rw [serves, capacity, List.getElem?_take_of_lt room, Lineup.shadows, List.getElem?_map]
    exact congrArg (Option.map _) caster
  · rw [ShadowPool.depthTexture, serves, capacity, List.head?_take]
    split
    · rfl
    · rw [Lineup.shadows, List.head?_map, Option.map_map]
      rfl

/-- An update succeeds, and hands out the slots by the lights of this moment. -/
theorem update_assigns_slots (reached : Reached order model graph) :
    (order.Nodup ∧ ∀ id, id ∈ order ↔ (model.light? id).isSome) ∧
      ∃ after, model.update graph = (.ok (), after) ∧ Assigned order model after := by
  have kept := reached.kept
  obtain ⟨after, updated, settled⟩ := kept.update
  exact ⟨⟨kept.nodup, kept.live⟩, after, updated, settled.assigned⟩

theorem addLight_model (model : LightModel) (graph : ChunkGraph) (light : Light) :
    (model.addLight graph light).2.1 = { model with lights := (model.lights.insert light).2 } := by
  unfold addLight
  dsimp only
  split <;> rfl

/-- With room for one shadow, a directional light takes the slot from a spot light that was added before it. -/
theorem update_prefers_directional :
    ∃ model graph after, Reached [⟨1, 1⟩, ⟨2, 1⟩] model graph ∧ model.update graph = (.ok (), after) ∧
      model.slot? after ⟨1, 1⟩ = some none ∧ model.slot? after ⟨2, 1⟩ = some (some 0) := by
  let lamp := (Light.spot .zero .backward .half .one).withShadow {}
  let sun := (Light.directional .backward).withShadow {}
  obtain ⟨⟨settings, lights, chunks⟩, -, -, made, rfl, rfl, -⟩ := new_spec .empty { maxShadows := 1 }
  have reached := ((Reached.new made).addLight lamp).addLight sun
  rw [addLight_model, addLight_model] at reached
  obtain ⟨-, after, updated, assigned⟩ := update_assigns_slots reached
  exact ⟨_, _, after, reached, updated, assigned.casters 1 ⟨1, 1⟩ lamp rfl, assigned.casters 0 ⟨2, 1⟩ sun rfl⟩

end LightModel

end ShaderWeave
