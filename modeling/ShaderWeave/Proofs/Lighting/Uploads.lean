import ShaderWeave.Proofs.Lighting.Agreement
import ShaderWeave.Proofs.Lighting.Names

/-! # What chunks of light models upload

After an update, each buffer of a bucket has a row for every light, and each light with a slot has its map. The arrays
that a bucket or a pool then uploads go to arrays that its code declares, and fill them.
-/

namespace ShaderWeave

open Code

/-! ## Arrays -/

/-- The elements of storage arrays, and how many numbers each of them takes. -/
def elementWidths : List (String × Nat) := [("f32", 1), ("vec2<f32>", 2), ("vec4<f32>", 4), ("mat4x4<f32>", 16)]

/-- An array type that holds so many numbers. -/
def Code.Holds (type : List Char) (numbers : Nat) : Prop :=
  ∃ element width count, (element, width) ∈ elementWidths ∧
    type = ("array<" ++ element ++ ", " ++ toString count ++ ">").toList ∧ numbers = width * count

/-- A resource to which a value may be uploaded: an array of numbers fills it. -/
structure Code.Resource.Takes (resource : Resource) (call : UniformCall) : Prop where
  name : call.name = resource.name
  size : ∀ width data, call.value = .floats width data → Holds resource.type.toList data.length

theorem Code.Resource.takes_array {name element : String} {width count : Nat} (known : (element, width) ∈ elementWidths)
    {components : Nat} {data : List Single} (length : data.length = width * count) :
    (Resource.array name element count).Takes ⟨name, .floats components data⟩ where
  name := rfl
  size := by
    rintro _ _ ⟨⟩
    exact ⟨element, width, count, known, rfl, length⟩

theorem Code.Resource.takes_of_not_floats {resource : Resource} {call : UniformCall} (name : call.name = resource.name)
    (texture : ∀ width data, call.value ≠ .floats width data) : resource.Takes call where
  name := name
  size width data floats := absurd floats (texture width data)

/-! ## Buffers -/

namespace LightBuffer

theorem length_view (buffer : LightBuffer) : buffer.view.length = buffer.count * buffer.stride := buffer.length_values

@[simp] theorem count_resize (buffer : LightBuffer) (count : Nat) : (buffer.resize count).2.count = count := by
  unfold resize
  split
  · next same => exact same.symm
  · rfl

@[simp] theorem count_write (buffer : LightBuffer) (index : Nat) (row : List Single) :
    (buffer.write index row).count = buffer.count := by
  unfold write write?
  dsimp only
  split <;> rfl

end LightBuffer

/-! ## Buckets after an update -/

namespace LightBucket

/-- Each buffer has a row for every light, and a live light with a slot has its map there. -/
structure Packed (bucket : LightBucket) (lights : Arena .light Light) : Prop where
  counts : ∀ buffer ∈ bucket.buffers, buffer.count = bucket.size
  maps : ∀ entry ∈ bucket.entries, ∀ light, lights.get? entry.light = some light →
    entry.shadowMap = entry.shadowSlot.bind fun _ => light.shadow.map

theorem counts_packInto {layout : List (String × LightAttribute)} {buffers : List LightBuffer} {count : Nat}
    (counts : ∀ buffer ∈ buffers, buffer.count = count) (light : Light) (index : Nat) :
    ∀ buffer ∈ packInto layout light index buffers, buffer.count = count := by
  intro buffer member
  obtain ⟨⟨part, old⟩, isRow, rfl⟩ := List.mem_map.1 member
  exact (LightBuffer.count_write ..).trans (counts old (List.of_mem_zip isRow).2)

private theorem packed_updateEntries {layout : List (String × LightAttribute)} {lights : Arena .light Light}
    (index : Nat) {buffers : List LightBuffer} (pool : ShadowPool) {entries : List BucketEntry} {count : Nat}
    (counts : ∀ buffer ∈ buffers, buffer.count = count) :
    let result := updateEntries layout lights index buffers pool entries
    (∀ buffer ∈ result.2.2.1, buffer.count = count) ∧ result.2.1.length = entries.length ∧
      ∀ entry ∈ result.2.1, ∀ light, lights.get? entry.light = some light →
        entry.shadowMap = entry.shadowSlot.bind fun _ => light.shadow.map := by
  induction entries generalizing index buffers pool with
  | nil => exact ⟨counts, rfl, by simp [updateEntries]⟩
  | cons entry rest ih =>
    simp only [updateEntries]
    split
    · next gone =>
      obtain ⟨rows, length, maps⟩ := ih (index + 1) pool counts
      refine ⟨rows, congrArg (· + 1) length, List.forall_mem_cons.2 ⟨?_, maps⟩⟩
      simp [gone]
    · next light found =>
      obtain ⟨rows, length, maps⟩ := ih (index + 1) (claimSlot light pool).2 (counts_packInto counts light index)
      refine ⟨rows, congrArg (· + 1) length, List.forall_mem_cons.2 ⟨?_, maps⟩⟩
      intro other held
      obtain rfl : light = other := Option.some.inj (found.symm.trans held)
      rfl

theorem packed_update (bucket : LightBucket) (lights : Arena .light Light) (pool : ShadowPool) :
    (bucket.update lights pool).2.1.Packed lights := by
  have resized : ∀ buffer ∈ bucket.buffers.map fun buffer => (buffer.resize bucket.size).2,
      buffer.count = bucket.size := by
    simp
  obtain ⟨rows, length, maps⟩ := packed_updateEntries 0 pool resized
  exact ⟨fun buffer member => (rows buffer member).trans length.symm, maps⟩

/-! ## Uploads of a chunk -/

variable {bucket : LightBucket}

theorem mem_shadowMapUploads_iff {call : UniformCall} :
    call ∈ bucket.shadowMapUploads ↔ ∃ entry ∈ bucket.entries, ∃ slot map, entry.shadowSlot = some slot ∧
      entry.shadowMap = some map ∧ call = ⟨ShadowPool.mapName slot, .texture map⟩ := by
  rw [shadowMapUploads, List.mem_filterMap]
  refine exists_congr fun entry => and_congr_right fun _ => ?_
  cases entry.shadowSlot with
  | none => simp
  | some slot =>
    cases entry.shadowMap with
    | none => simp
    | some map => simp [ShadowPool.mapName, eq_comm]

/-- The maps are set in the order of the slots, but only for lights that have one. -/
theorem names_shadowMapUploads (bucket : LightBucket) :
    (bucket.shadowMapUploads.map (·.name)).Sublist (bucket.slots.map ShadowPool.mapName) := by
  rw [shadowMapUploads, slots]
  induction bucket.entries with
  | nil => exact .slnil
  | cons entry rest ih =>
    cases holds : entry.shadowSlot with
    | none => simpa [holds] using ih
    | some slot =>
      cases shown : entry.shadowMap with
      | none => simpa [holds, shown] using ih.cons (ShadowPool.mapName slot)
      | some map =>
        rw [List.filterMap_cons_some (by rw [holds, shown]), List.filterMap_cons_some holds]
        exact ih.cons_cons (ShadowPool.mapName slot)

theorem exists_of_mem_environmentUploads {call : UniformCall} (member : call ∈ bucket.environmentUploads) :
    bucket.type = .ibl ∧ ∃ index < bucket.size, ∃ map, call = ⟨"tEnv" ++ toString index, .texture map⟩ := by
  unfold environmentUploads at member
  split at member
  · next type =>
    obtain ⟨_, inside, rfl⟩ := List.mem_filterMap.1 member
    obtain ⟨index, bound, made⟩ := List.mem_mapIdx.1 inside
    obtain ⟨map, -, rfl⟩ := Option.map_eq_some_iff.1 made
    exact ⟨type, index, bound, map, rfl⟩
  · cases member

/-- The arrays that a bucket uploads fill those that it declares; its other values are maps. -/
theorem takes_uploads (shaped : bucket.Shaped) {lights : Arena .light Light} (packed : bucket.Packed lights)
    {call : UniformCall} (member : call ∈ bucket.uploads) :
    (∃ resource ∈ (Chunk.lightBucket bucket).resources, resource.Takes call) ∨
      ∃ slot ∈ bucket.slots, ∃ map, call = ⟨ShadowPool.mapName slot, .texture map⟩ := by
  unfold uploads at member
  rw [Chunk.resources]
  split at member
  · cases member
  · next filled =>
    rw [if_neg filled]
    rcases List.mem_append.1 member with arraysAndMaps | environment
    · rcases List.mem_append.1 arraysAndMaps with array | map
      · obtain ⟨⟨⟨name, part⟩, buffer⟩, isUniform, rfl⟩ := List.mem_map.1 array
        have width : buffer.stride = part.components := (List.forall₂_iff_zip.1 shaped).2 isUniform
        obtain ⟨isPart, isBuffer⟩ := List.of_mem_zip isUniform
        have length : buffer.view.length = 1 * (bucket.size * part.components) := by
          rw [buffer.length_view, packed.counts buffer isBuffer, width, Nat.one_mul]
        refine .inl ⟨_, List.mem_append_left _ (List.mem_map_of_mem isPart), ?_⟩
        exact Resource.takes_array (by decide) length
      · obtain ⟨entry, isEntry, slot, handle, holds, -, rfl⟩ := mem_shadowMapUploads_iff.1 map
        exact .inr ⟨slot, List.mem_filterMap.2 ⟨entry, isEntry, holds⟩, handle, rfl⟩
    · obtain ⟨type, index, inside, map, rfl⟩ := exists_of_mem_environmentUploads environment
      refine .inl ⟨⟨"", "tEnv" ++ toString index, "texture_cube<f32>"⟩, List.mem_append_right _ ?_,
        Resource.takes_of_not_floats rfl (by simp)⟩
      rw [if_pos type]
      exact List.mem_cons_of_mem _ (List.mem_map.2 ⟨index, List.mem_range.2 inside, rfl⟩)

/-- Among the uploads of a bucket, the maps of shadows are told by their names. -/
theorem filter_uploads (bucket : LightBucket) :
    bucket.uploads.filter (fun call => initials call.name == ['t', 'S']) = bucket.shadowMapUploads := by
  have arrays : ∀ type : LightType, ∀ part ∈ type.layout, initials part.1 ≠ ['t', 'S'] := by
    intro type
    cases type <;> decide
  unfold uploads
  split
  · next empty =>
    have none : bucket.entries = [] := List.isEmpty_iff.1 empty
    rw [shadowMapUploads, none]
    rfl
  · have maps : bucket.shadowMapUploads.filter (fun call => initials call.name == ['t', 'S']) =
        bucket.shadowMapUploads := by
      rw [List.filter_eq_self]
      intro call member
      obtain ⟨-, -, slot, -, -, -, rfl⟩ := mem_shadowMapUploads_iff.1 member
      simp [ShadowPool.initials_mapName]
    have cubes : bucket.environmentUploads.filter (fun call => initials call.name == ['t', 'S']) = [] := by
      rw [List.filter_eq_nil_iff]
      intro call member
      obtain ⟨-, index, -, map, rfl⟩ := exists_of_mem_environmentUploads member
      rw [initials_append (by decide)]
      decide
    rw [List.filter_append, List.filter_append, maps, cubes, List.append_nil, List.filter_eq_nil_iff.2, List.nil_append]
    rw [List.forall_mem_map]
    intro row isRow
    simpa using arrays bucket.type row.1 (List.of_mem_zip isRow).1

end LightBucket

namespace ShadowPool

variable {pool : ShadowPool}

theorem length_matrices (pool : ShadowPool) : pool.matrices.length = 16 * pool.count := by
  simp [matrices, count, List.length_flatMap, Nat.mul_comm]

theorem length_texelBias (pool : ShadowPool) : pool.texelBias.length = 4 * pool.count := by
  simp [texelBias, count, List.length_flatMap, Nat.mul_comm]

theorem length_mapSizes (pool : ShadowPool) : pool.mapSizes.length = 2 * pool.count := by
  simp [mapSizes, count, List.length_flatMap, Nat.mul_comm]

theorem eq_of_mem_uploads {declares : String → Bool} {call : UniformCall} (member : call ∈ pool.uploads declares) :
    pool.count ≠ 0 ∧ (call = ⟨"uShadowMatrices", .floats 16 pool.matrices⟩ ∨
      call = ⟨"uShadowTexelBiasVector", .floats 4 pool.texelBias⟩ ∨ call = ⟨"uShadowMapSize", .floats 2 pool.mapSizes⟩ ∨
      call = ⟨"uShadowKernelRotation", .vec2 pool.kernelRotation⟩) := by
  unfold uploads at member
  split at member
  · cases member
  · next busy =>
    refine ⟨busy, ?_⟩
    split at member <;> simp at member <;> tauto

/-- If its code is for the slots of the pass, the arrays that a pool uploads fill those that it declares. -/
theorem takes_uploads (generated : pool.generatedCount = pool.count) {declares : String → Bool} {call : UniformCall}
    (member : call ∈ pool.uploads declares) : ∃ resource ∈ (Chunk.shadowPool pool).resources, resource.Takes call := by
  obtain ⟨busy, named⟩ := eq_of_mem_uploads member
  rw [Chunk.resources, generated, if_neg busy, resources, generated]
  rcases named with rfl | rfl | rfl | rfl
  · refine ⟨.array "uShadowMatrices" "mat4x4<f32>" pool.count, by simp, ?_⟩
    exact Resource.takes_array (by decide) pool.length_matrices
  · refine ⟨.array "uShadowTexelBiasVector" "vec4<f32>" pool.count, by simp, ?_⟩
    exact Resource.takes_array (by decide) pool.length_texelBias
  · refine ⟨.array "uShadowMapSize" "vec2<f32>" pool.count, by simp, ?_⟩
    exact Resource.takes_array (by decide) pool.length_mapSizes
  · exact ⟨⟨"<uniform>", "uShadowKernelRotation", "vec2<f32>"⟩, by simp, Resource.takes_of_not_floats rfl (by simp)⟩

theorem filter_uploads (pool : ShadowPool) (declares : String → Bool) :
    (pool.uploads declares).filter (fun call => initials call.name == ['t', 'S']) = [] := by
  rw [List.filter_eq_nil_iff]
  intro call member
  rcases (eq_of_mem_uploads member).2 with rfl | rfl | rfl | rfl <;> dsimp only <;> decide

end ShadowPool

end ShaderWeave
