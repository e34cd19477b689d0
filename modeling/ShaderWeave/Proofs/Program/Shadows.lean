import ShaderWeave.Proofs.Lighting.Agreement
import ShaderWeave.Proofs.Lighting.Names
import ShaderWeave.Proofs.Program.Neighbours

/-! # Shadows in generated code

The code below the root of a light model looks up the shadows that its lights hold, and declares a function for each
lookup. The constant for the form of the maps is that of the maps that are declared.
-/

namespace ShaderWeave

open Code

/-- The slots of the lights whose code looks up a shadow. -/
def LightModel.shadedSlots (chunks : ModelChunks) (graph : ChunkGraph) : List Nat :=
  (LightType.all.filter (· ≠ .ibl)).flatMap fun type => (heldAt graph (chunks.bucket type)).filterMap (·.2)

/-- The lines of some code are for the slots and the maps of a pool. Each of the shaded slots is looked up once, and
every lookup function is declared. -/
structure Code.ShadowsFit (pool : ShadowPool) (shaded : List Nat) (lines : List (List Char)) : Prop where
  declared : (declaredLookups lines).Perm ((List.range pool.generatedCount).map lookupName)
  mentioned : (lookups lines).Perm (shaded.map lookupName)
  once : (lookups lines).Nodup
  known : ∀ name ∈ lookups lines, name ∈ declaredLookups lines
  format : formats lines = [(DepthFormat.ofDepthTexture pool.generatedDepthTexture).constant]
  maps : ∀ slot type, (ShadowPool.mapName slot, type) ∈ lines.filterMap global? ↔
    slot < pool.generatedCount ∧ type = (ShadowPool.mapType pool.generatedDepthTexture).toList

theorem Code.lookupName_inj {first second : Nat} (same : lookupName first = lookupName second) : first = second :=
  toList_toString_inj (List.append_cancel_left same)

/-! ## The chunks of a model -/

namespace ModelStates

variable {states : ModelStates} {chunks : ModelChunks} {graph : ChunkGraph}

theorem Of.shadedSlots_eq (states_of : states.Of chunks graph) :
    LightModel.shadedSlots chunks graph =
      (LightType.all.filter (· ≠ .ibl)).flatMap fun type => (states.bucket type).slots := by
  simp only [LightModel.shadedSlots, LightModel.heldAt_of_found (states_of.bucket _), ← LightBucket.slots_eq]

/-- The slots of lights that look up shadows are slots that lights hold. -/
theorem shadedSlots_sublist (chunks : ModelChunks) (graph : ChunkGraph) :
    (LightModel.shadedSlots chunks graph).Sublist (LightModel.heldSlots chunks graph) := by
  have shaded : LightType.all.filter (· ≠ .ibl) = [.directional, .spot, .point] := by decide
  have all : LightType.all = [.directional, .spot, .point] ++ [.ibl] := rfl
  rw [LightModel.shadedSlots, LightModel.heldSlots, shaded, all, List.flatMap_append]
  exact List.sublist_append_left _ _

theorem declaredLookups_chunks (states : ModelStates) :
    states.chunks.flatMap Chunk.declaredLookups = (List.range states.shadows.generatedCount).map lookupName := by
  simp [chunks, LightType.all, Chunk.declaredLookups]

theorem Proper.lookups_chunks (proper : states.Proper) :
    states.chunks.flatMap Chunk.lookups =
      ((LightType.all.filter (· ≠ .ibl)).flatMap fun type => (states.bucket type).slots).map lookupName := by
  have each : ∀ type, type ≠ .ibl → (states.bucket type).shadowSlots.flatMap (LightBucket.lookupsOf type) =
      (states.bucket type).slots.map lookupName := by
    intro type apart
    rw [LightBucket.shadowSlots, LightBucket.slots, List.flatMap_map, List.filterMap_eq_flatMap_toList,
      List.map_flatMap]
    simp only [LightBucket.lookupsOf, apart, if_false]
  have none : (states.bucket .ibl).shadowSlots.flatMap (LightBucket.lookupsOf .ibl) = [] := by
    simp [LightBucket.lookupsOf]
  simp [chunks, LightType.all, Chunk.lookups, proper.type, each, none]

theorem Proper.formats_chunks (proper : states.Proper) {format : DepthFormat}
    (value : states.depthFormat.value = format.variant) :
    states.chunks.flatMap Chunk.formats = [format.constant] := by
  simp [chunks, LightType.all, Chunk.formats, proper.shadowFilter.1, proper.depthFormat.1, value,
    DepthFormat.constant]

/-- Merged code fits, if its lights and its constant agree with the pool. -/
theorem Of.shadowsFit (states_of : states.Of chunks graph) (proper : states.Proper) {pool : ShadowPool}
    {choice : Choice} (agrees : LightModel.Agrees chunks graph pool choice) {lines : List (List Char)}
    (merged : Chunk.Merged states.chunks lines) :
    ShadowsFit pool (LightModel.shadedSlots chunks graph) lines := by
  obtain rfl : states.shadows = pool := by simpa using states_of.shadows.symm.trans agrees.stored
  obtain rfl : states.depthFormat = choice := by simpa using states_of.depthFormat.symm.trans agrees.chosen
  have declared := merged.declared
  have mentioned := merged.mentioned
  rw [declaredLookups_chunks] at declared
  rw [proper.lookups_chunks, ← states_of.shadedSlots_eq] at mentioned
  have shaded := shadedSlots_sublist chunks graph
  refine ⟨declared, mentioned, ?_, ?_, ?_, ?_⟩
  · rw [mentioned.nodup_iff]
    exact (agrees.distinct.sublist shaded).map fun _ _ => lookupName_inj
  · intro name isMentioned
    obtain ⟨slot, holds, rfl⟩ := List.mem_map.1 (mentioned.subset isMentioned)
    have coded := agrees.coded slot (shaded.subset holds)
    exact declared.mem_iff.2 (List.mem_map_of_mem (List.mem_range.2 coded))
  · rw [← List.perm_singleton, ← proper.formats_chunks agrees.format]
    exact merged.formats
  · intro slot type
    rw [merged.globals.mem_iff, List.mem_map]
    constructor
    · rintro ⟨resource, member, same⟩
      obtain ⟨named, rfl⟩ := Prod.mk.inj same
      obtain ⟨inside, type, -⟩ := (mem_resources_iff named).1 member
      exact ⟨inside, congrArg String.toList type⟩
    · rintro ⟨inside, rfl⟩
      exact ⟨⟨"", ShadowPool.mapName slot, _⟩, (mem_resources_iff rfl).2 ⟨inside, rfl, rfl⟩, rfl⟩

end ModelStates

namespace Session

variable {P : Type} {session : Session (Noted P)}

/-- At any time, also between updates: the slots that lights hold are different and have code, and the constant for the
form of the maps is that of the pool's code. So the code of every collection of the root fits, if there is any; there
is some exactly if no part of it is repeated too often. -/
theorem shadows_fit (ruled : Ruled Minds session) {home : Nat} {model : LightModel}
    (member : (home, model) ∈ session.models) (intact : model.chunks.Intact (session.graphs home)) :
    ∃ pool choice, LightModel.Agrees model.chunks (session.graphs home) pool choice ∧
      ∀ collection found, (session.graphs home).collection? collection = some found →
        found.roots = [model.chunks.root] →
        ((∃ slots, ((session.graphs home).collectionGenerate collection).1 = .ok slots) ↔
          ∀ id ∈ model.chunks.inOrder, ∀ chunk, (session.graphs home).chunk? id = some chunk → chunk.Countable) ∧
        ∀ slots, ((session.graphs home).collectionGenerate collection).1 = .ok slots →
          ShadowsFit pool (LightModel.shadedSlots model.chunks (session.graphs home)) slots.lines := by
  obtain ⟨order, reached⟩ := ruled.exists_reached member intact
  obtain ⟨pool, choice, agrees⟩ := reached.agrees
  obtain ⟨states, proper, states_of⟩ := reached.formed.exists_states
  refine ⟨pool, choice, agrees, fun collection found live roots => ?_⟩
  have tended := ruled.neighbourly.toTended
  have capped := (ruled.mono fun _ _ => spares_of_minds).capped member
  have light := proper.lightCode
  rw [intact.generate_eq capped (tended.graphs home) live roots]
  rw [← states_of.filterMap_eq] at light
  refine ⟨by rw [Chunk.exists_render_iff light, List.forall_mem_filterMap], fun slots rendered => ?_⟩
  obtain ⟨countable, rfl⟩ := (Chunk.render_eq_ok_iff light).1 rendered
  refine states_of.shadowsFit proper agrees ?_
  rw [← states_of.filterMap_eq]
  exact Chunk.merged_filledSlots light countable

/-- A lamp whose light goes on to hold the second slot, after the light in the first one was taken out. -/
theorem shadows_fit_between_updates :
    ∃ (session : Session (Noted Program)) (model : LightModel) (collection : CollectionId) (found : ChunkCollection)
        (slots : SlotBuffer),
      Ruled Minds session ∧ (0, model) ∈ session.models ∧ model.chunks.Intact (session.graphs 0) ∧
      (session.graphs 0).collection? collection = some found ∧ found.roots = [model.chunks.root] ∧
      ((session.graphs 0).collectionGenerate collection).1 = .ok slots ∧
      (declaredLookups slots.lines).Perm ["shadow_0".toList, "shadow_1".toList] ∧
      lookups slots.lines = ["shadow_1".toList] ∧ formats slots.lines = ["depthFormat_D_RGB".toList] := by
  let ops : List LightModel.Op := [
    .addLight ((Light.directional .backward).withShadow { depthTexture := false }),
    .addLight ((Light.spot .zero .backward .half .one).withShadow {}),
    .update,
    .removeLight ⟨1, 1⟩]
  have stages : Stages (Minds (P := Program)) ops := stages_minds (by simp [ops, LightModel.KeepsTypes])
  obtain ⟨session, model, collection, found, scene, ruled, code⟩ := exists_ruled_scene_of_code {} stages
  have member : (0, model) ∈ session.models := scene.models ▸ List.mem_singleton_self _
  obtain ⟨pool, choice, agrees, generates⟩ := shadows_fit ruled member scene.intact
  obtain ⟨generated, fits⟩ := generates collection found scene.live scene.roots
  obtain ⟨order, reached⟩ := ruled.exists_reached member scene.intact
  obtain ⟨states, proper, states_of⟩ := reached.formed.exists_states
  have chunks : states.chunks = LightModel.codeAfter {} ops :=
    states_of.filterMap_eq.symm.trans (scene.codeBelow.symm.trans code)
  have countable : ∀ chunk ∈ LightModel.codeAfter {} ops, chunk.Countable := by decide
  rw [← chunks, ← states_of.filterMap_eq, List.forall_mem_filterMap] at countable
  obtain ⟨slots, made⟩ := generated.2 countable
  have fits := fits slots made
  obtain rfl : states.shadows = pool := by simpa using states_of.shadows.symm.trans agrees.stored
  obtain rfl : states.depthFormat = choice := by simpa using states_of.depthFormat.symm.trans agrees.chosen
  refine ⟨session, model, collection, found, slots, ruled, member, scene.intact, scene.live, scene.roots, made, ?_, ?_,
    ?_⟩
  · have declared := fits.declared
    rw [← states.declaredLookups_chunks, chunks] at declared
    exact declared.trans (.of_eq (by decide))
  · have mentioned := fits.mentioned
    rw [states_of.shadedSlots_eq, ← proper.lookups_chunks, chunks] at mentioned
    exact List.perm_singleton.1 (mentioned.trans (.of_eq (by decide)))
  · rw [fits.format, ← proper.formats_chunks agrees.format, chunks]
    decide

end Session

end ShaderWeave
