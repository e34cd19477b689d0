import ShaderWeave.Proofs.Lighting.Accounts
import ShaderWeave.Proofs.Lighting.Forms

/-! # Names of resources

The resources of a light model have different names: the maps of shadows and those of image-based lights are numbered,
and start like nothing else.
-/

namespace ShaderWeave

open Code

theorem append_toString_inj {front : String} {first second : Nat}
    (same : front ++ toString first = front ++ toString second) : first = second := by
  have texts := congrArg String.toList same
  rw [String.toList_append, String.toList_append] at texts
  exact toList_toString_inj (List.append_cancel_left texts)

/-- The first two characters of a name. -/
def initials (name : String) : List Char := name.toList.take 2

theorem initials_append {front : String} (long : 2 ≤ front.toList.length) (rest : String) :
    initials (front ++ rest) = initials front := by
  rw [initials, initials, String.toList_append, List.take_append_of_le_length long]

/-! ## Names of a chunk -/

namespace LightType

/-- The names of the resources for some number of lights. -/
def names (type : LightType) (count : Nat) : List String :=
  type.layout.map (·.1) ++
    if type = .ibl then "sEnv" :: (List.range count).map fun index => "tEnv" ++ toString index else []

end LightType

theorem LightBucket.names_resources (bucket : LightBucket) :
    bucket.resources.map (·.name) = bucket.type.names bucket.size := by
  rw [resources, LightType.names, List.map_append, List.map_map]
  split
  · rw [List.map_cons, List.map_map]
    rfl
  · rfl

namespace ShadowPool

/-- The name of the map of a slot. -/
def mapName (slot : Nat) : String := "tShadowMap" ++ toString slot

/-- The names of the resources for some number of slots. -/
def names (count : Nat) : List String :=
  ["uShadowMatrices", "uShadowTexelBiasVector", "uShadowMapSize", "uShadowKernelRotation", "sShadow"] ++
    (List.range count).map mapName

theorem names_resources (pool : ShadowPool) : pool.resources.map (·.name) = names pool.generatedCount := by
  rw [resources, names, List.map_append, List.map_map]
  rfl

theorem initials_mapName (slot : Nat) : initials (mapName slot) = ['t', 'S'] :=
  initials_append (by decide) _

theorem mapName_inj {first second : Nat} (same : mapName first = mapName second) : first = second :=
  append_toString_inj same

/-- Where the names that start like those of maps differ, no map is named twice. -/
theorem count_mapName_le_one {names : List String}
    (nodup : (names.filter fun name => initials name == ['t', 'S']).Nodup) (slot : Nat) :
    names.count (mapName slot) ≤ 1 := by
  rw [← List.count_filter (p := fun name => initials name == ['t', 'S']) (by simp [initials_mapName])]
  exact List.nodup_iff_count_le_one.1 nodup (mapName slot)

theorem mem_resources_iff {pool : ShadowPool} {resource : Resource} {slot : Nat} (named : resource.name = mapName slot) :
    resource ∈ pool.resources ↔
      slot < pool.generatedCount ∧ resource.type = mapType pool.generatedDepthTexture ∧ resource.space = "" := by
  have fixed : ∀ name ∈ names 0, initials name ≠ ['t', 'S'] := by decide
  constructor
  · intro member
    rcases List.mem_append.1 member with plain | map
    · refine absurd (initials_mapName slot) (fixed _ ?_)
      rw [← named]
      simpa [names, Resource.array] using List.mem_map_of_mem plain
    · obtain ⟨other, inside, rfl⟩ := List.mem_map.1 map
      obtain rfl := mapName_inj named
      exact ⟨List.mem_range.1 inside, rfl, rfl⟩
  · obtain ⟨space, name, type⟩ := resource
    rintro ⟨inside, rfl, rfl⟩
    obtain rfl : name = mapName slot := named
    exact List.mem_append_right _ (List.mem_map.2 ⟨slot, List.mem_range.2 inside, rfl⟩)

end ShadowPool

/-- No light declares a map of shadows. -/
theorem LightBucket.name_ne_mapName {bucket : LightBucket} {resource : Resource} (member : resource ∈ bucket.resources)
    (slot : Nat) : resource.name ≠ ShadowPool.mapName slot := by
  have fixed : ∀ type : LightType, ∀ name ∈ type.names 0, initials name ≠ ['t', 'S'] := by
    intro type
    cases type <;> decide
  intro named
  have isName : resource.name ∈ bucket.type.names bucket.size := names_resources bucket ▸ List.mem_map_of_mem member
  rw [named] at isName
  have start := ShadowPool.initials_mapName slot
  rcases List.mem_append.1 isName with array | environment
  · exact fixed bucket.type _ (List.mem_append_left _ array) start
  · split at environment
    · next type =>
      rcases List.mem_cons.1 environment with sampler | cube
      · rw [sampler] at start
        exact absurd start (by decide)
      · obtain ⟨index, -, same⟩ := List.mem_map.1 cube
        have other : initials (ShadowPool.mapName slot) = ['t', 'E'] := same ▸ initials_append (by decide) _
        simp [start] at other
    · cases environment

/-! ## Names of a model -/

namespace ModelStates

/-- The names without a number. -/
def fixedNames : List String := ShadowPool.names 0 ++ LightType.all.flatMap fun type => type.names 0

/-- The names with a number are those of the maps of shadows and of the cube maps. -/
private theorem names_perm (slots lights : Nat) :
    (ShadowPool.names slots ++ LightType.all.flatMap fun type => type.names lights).Perm
      (fixedNames ++ ((List.range slots).map ShadowPool.mapName ++
        (List.range lights).map fun index => "tEnv" ++ toString index)) := by
  have shape : (ShadowPool.names slots ++ LightType.all.flatMap fun type => type.names lights) =
      ShadowPool.names 0 ++ ((List.range slots).map ShadowPool.mapName ++
        ((LightType.all.flatMap fun type => type.names 0) ++
          (List.range lights).map fun index => "tEnv" ++ toString index)) := by
    simp [ShadowPool.names, LightType.all, LightType.names, LightType.layout]
  rw [shape, fixedNames, List.append_assoc]
  exact (List.perm_append_comm_assoc ..).append_left _

/-- No two names are the same, even if no part of the code is left out. -/
private theorem nodup_names (slots lights : Nat) :
    (ShadowPool.names slots ++ LightType.all.flatMap fun type => type.names lights).Nodup := by
  let maps := (List.range slots).map ShadowPool.mapName
  let cubes := (List.range lights).map fun index => "tEnv" ++ toString index
  have isMap : ∀ name ∈ maps, initials name = ['t', 'S'] := by
    simp only [maps, List.forall_mem_map]
    exact fun slot _ => ShadowPool.initials_mapName slot
  have isCube : ∀ name ∈ cubes, initials name = ['t', 'E'] := by
    simp only [cubes, List.forall_mem_map]
    exact fun index _ => initials_append (by decide) _
  have fixed : ∀ name ∈ fixedNames, initials name ≠ ['t', 'S'] ∧ initials name ≠ ['t', 'E'] := by decide
  rw [(names_perm slots lights).nodup_iff]
  refine List.nodup_append.2 ⟨by decide, List.nodup_append.2 ⟨?_, ?_, ?_⟩, ?_⟩
  · exact List.nodup_range.map fun _ _ => ShadowPool.mapName_inj
  · exact List.nodup_range.map fun _ _ => append_toString_inj
  · rintro name map _ cube rfl
    have clash := (isMap name map).symm.trans (isCube name cube)
    simp at clash
  · rintro name member _ numbered rfl
    rcases List.mem_append.1 numbered with map | cube
    · exact (fixed name member).1 (isMap name map)
    · exact (fixed name member).2 (isCube name cube)

variable {states : ModelStates}

private theorem sublist_ite {α : Type} (condition : Prop) [Decidable condition] (items : List α) :
    (if condition then [] else items).Sublist items := by
  split
  · exact List.nil_sublist _
  · exact .refl _

/-- A model has no other names than it would have if no part of its code were left out. -/
private theorem Proper.names_sublist (proper : states.Proper) :
    ((states.chunks.flatMap Chunk.resources).map (·.name)).Sublist
      (ShadowPool.names states.shadows.generatedCount ++
        LightType.all.flatMap fun type => type.names (states.bucket .ibl).size) := by
  -- Only the resources of image-based lights depend on their number.
  let lights := (states.bucket .ibl).size
  have maps : ((Chunk.shadowPool states.shadows).resources.map (·.name)).Sublist
      (ShadowPool.names states.shadows.generatedCount) := by
    rw [Chunk.resources, apply_ite (List.map _), List.map_nil, ShadowPool.names_resources]
    exact sublist_ite _ _
  have buckets : ∀ type, ((Chunk.lightBucket (states.bucket type)).resources.map (·.name)).Sublist
      (type.names lights) := by
    intro type
    have names : (states.bucket type).type.names (states.bucket type).size = type.names lights := by
      rw [proper.type]
      cases type <;> rfl
    rw [Chunk.resources, apply_ite (List.map _), List.map_nil, LightBucket.names_resources, names]
    exact sublist_ite _ _
  simpa [chunks, LightType.all, Chunk.resources] using maps.append ((buckets .directional).append
    ((buckets .spot).append ((buckets .point).append (buckets .ibl))))

/-- The resources of a model have different names. -/
theorem Proper.nodup_resources (proper : states.Proper) :
    ((states.chunks.flatMap Chunk.resources).map (·.name)).Nodup :=
  (nodup_names _ _).sublist proper.names_sublist

/-- No resource of a model is called like a variable of a camera, an object or a material. -/
theorem Proper.initials_ne (proper : states.Proper) {resource : Resource}
    (member : resource ∈ states.chunks.flatMap Chunk.resources) :
    initials resource.name ≠ ['u', 'C'] ∧ initials resource.name ≠ ['u', 'M'] := by
  have fixed : ∀ name ∈ fixedNames, initials name ≠ ['u', 'C'] ∧ initials name ≠ ['u', 'M'] := by decide
  have isName := (names_perm ..).subset (proper.names_sublist.subset (List.mem_map_of_mem member))
  rcases List.mem_append.1 isName with plain | numbered
  · exact fixed _ plain
  · rcases List.mem_append.1 numbered with map | cube
    · obtain ⟨slot, -, same⟩ := List.mem_map.1 map
      rw [← same, ShadowPool.initials_mapName]
      decide
    · obtain ⟨index, -, same⟩ := List.mem_map.1 cube
      rw [← same, initials_append (by decide)]
      decide

/-- The maps of shadows among the resources of a model are those of its pool. -/
theorem mem_resources_iff {resource : Resource} {slot : Nat} (named : resource.name = ShadowPool.mapName slot) :
    resource ∈ states.chunks.flatMap Chunk.resources ↔ slot < states.shadows.generatedCount ∧
      resource.type = ShadowPool.mapType states.shadows.generatedDepthTexture ∧ resource.space = "" := by
  rw [← ShadowPool.mem_resources_iff named, List.mem_flatMap]
  constructor
  · rintro ⟨chunk, isChunk, member⟩
    cases chunk with
    | shadowPool pool =>
      obtain rfl : pool = states.shadows := by simpa [chunks, LightType.all] using isChunk
      rw [Chunk.resources] at member
      split at member
      · cases member
      · exact member
    | lightBucket bucket =>
      rw [Chunk.resources] at member
      split at member
      · cases member
      · exact absurd named (LightBucket.name_ne_mapName member slot)
    | _ => cases member
  · intro member
    have busy : states.shadows.generatedCount ≠ 0 := by
      have inside := ((ShadowPool.mem_resources_iff named).1 member).1
      omega
    refine ⟨.shadowPool states.shadows, by simp [chunks], ?_⟩
    rwa [Chunk.resources, if_neg busy]

end ModelStates

end ShaderWeave
