import ShaderWeave.Proofs.Lighting.Forms
import ShaderWeave.Proofs.Lighting.Generation
import ShaderWeave.Proofs.Program.Scenes

/-! # Crowds

Declarations of image-based lights repeat a line for each light, and no part of a stencil is repeated more than
`maxRepeats` times. So there is no code for a model with more of these lights.
-/

namespace ShaderWeave

open Stencil (maxRepeats)

namespace LightModel

/-- What a new model is after a number of equal lights were added to it. -/
structure Crowd (light : Light) (count : Nat) (settings : LightModelSettings) (model : LightModel)
    (graph : ChunkGraph) : Prop where
  reached : ∃ order, Reached order model graph ∧ order.length = count ∧ ∀ id ∈ order, model.light? id = some light
  pool : graph.chunk? model.chunks.shadows = some (.shadowPool (poolOf settings))

variable {light : Light} {count : Nat} {settings : LightModelSettings} {model : LightModel} {graph : ChunkGraph}

theorem Crowd.new (made : (LightModel.new graph settings).1 = .ok model) :
    Crowd light 0 settings model (LightModel.new graph settings).2 where
  reached := ⟨[], .new made, rfl, by simp⟩
  pool := by
    obtain ⟨model', filter, depth, made', -, -, -, -, -, chunks⟩ := new_spec graph settings
    obtain rfl : model' = model := Except.ok.inj (made'.symm.trans made)
    simp only [ModelChunks.inOrder, firstChunks, List.cons_append, List.nil_append, List.forall₂_cons] at chunks
    exact chunks.2.2.2.2.1

theorem Crowd.addLight (crowd : Crowd light count settings model graph) :
    Crowd light (count + 1) settings (model.addLight graph light).2.1 (model.addLight graph light).2.2 where
  reached := by
    obtain ⟨order, reached, length, lights⟩ := crowd.reached
    refine ⟨_, reached.addLight light, by simp [length], fun id member => ?_⟩
    rw [addLight_model]
    rcases List.mem_append.1 member with old | new
    · have apart : id ≠ (model.lights.insert light).1 := by
        rintro rfl
        simpa [light?] using (lights _ old).symm.trans (model.lights.get?_insert_key light)
      exact (model.lights.get?_insert_of_ne light apart).trans (lights id old)
    · obtain rfl := List.mem_singleton.1 new
      exact model.lights.get?_insert_self light
  pool := by
    obtain ⟨order, reached, -, -⟩ := crowd.reached
    have apart : model.chunks.shadows ≠ model.bucket light.type := (others_ne reached.kept.distinct light.type).1.symm
    rw [addLight_model, LightModel.addLight]
    dsimp only
    split
    · exact crowd.pool
    · rw [ChunkGraph.chunk?_store, if_neg apart]
      exact crowd.pool

theorem Crowd.run (light : Light) (made : (LightModel.new graph settings).1 = .ok model) (count : Nat) :
    let ops := List.replicate count (Op.addLight light)
    Crowd light count settings (model.run (LightModel.new graph settings).2 ops).1
      (model.run (LightModel.new graph settings).2 ops).2 := by
  intro ops
  induction count with
  | zero => exact .new made
  | succ count ih =>
    have last : ops = List.replicate count (Op.addLight light) ++ [.addLight light] := List.replicate_succ'
    rw [last, LightModel.run_concat]
    exact ih.addLight

/-- All lights are in the bucket of their type. The other buckets are empty, and no slot was handed out yet. -/
theorem Crowd.exists_states (crowd : Crowd light count settings model graph) :
    ∃ states : ModelStates, states.Proper ∧ states.Of model.chunks graph ∧ states.shadows.generatedCount = 0 ∧
      ∀ type, (states.bucket type).size = if light.type = type then count else 0 := by
  obtain ⟨order, reached, length, lights⟩ := crowd.reached
  obtain ⟨states, proper, of⟩ := reached.formed.exists_states
  refine ⟨states, proper, of, ?_, fun type => ?_⟩
  · have same : states.shadows = poolOf settings := by simpa using of.shadows.symm.trans crowd.pool
    rw [same]
    rfl
  · obtain ⟨bucket, found, listed⟩ := reached.kept.buckets type
    obtain rfl : bucket = states.bucket type := by simpa using found.symm.trans (of.bucket type)
    have size : (states.bucket type).size = (order.filter (model.typed type)).length := by
      rw [← listed, LightBucket.lights, List.length_map, LightBucket.size]
    rw [size]
    split
    · next same =>
      rw [List.filter_eq_self.2 fun id member => by simp [typed, lights id member, same], length]
    · next apart =>
      rw [List.filter_eq_nil_iff.2 fun id member => by simp [typed, lights id member, apart], List.length_nil]

end LightModel

namespace Session

/-- A scene with too many image-based lights has a hash, and reserves few bindings, but it has no code. -/
theorem exists_crowded_scene (P : Type) {count : Nat} (many : maxRepeats < count) :
    ∃ (session : Session (Noted P)) (model : LightModel) (collection : CollectionId) (found : ChunkCollection),
      session.Scene model collection found ∧
      Chunk.reservedAll ((session.graphs 0).codeBelow found.roots) = 3 + count ∧
      ((session.graphs 0).collectionHash collection).1 =
        .ok (Chunk.joinedHash ((session.graphs 0).codeBelow found.roots)) ∧
      ((session.graphs 0).collectionGenerate collection).1 = .error (.stencil (.fault
        (if Stencil.maxCount < count then .countTooLarge else .tooManyRepeats) "lights/ibl-lights-pre" 4)) := by
  let light : Light := .ibl (Vector.replicate 27 .zero) none .zero
  obtain ⟨model, made, session, collection, found, scene, nodes⟩ :=
    exists_scene P {} (List.replicate count (.addLight light))
  obtain ⟨states, proper, of, idle, sizes⟩ := (LightModel.Crowd.run light made count).exists_states
  have code : (session.graphs 0).codeBelow found.roots = states.chunks := by
    rw [scene.codeBelow, ← of.filterMap_eq]
    apply List.filterMap_congr
    intro id _
    rw [ChunkGraph.chunk?, ChunkGraph.node?, nodes]
    rfl
  have empty : ∀ type, type ≠ .ibl → (states.bucket type).isEmpty = true := by
    intro type apart
    rw [LightBucket.isEmpty, List.isEmpty_iff, ← List.length_eq_zero_iff]
    exact (sizes type).trans (if_neg (Ne.symm apart))
  have size : (states.bucket .ibl).size = count := (sizes .ibl).trans (if_pos rfl)
  refine ⟨session, _, collection, found, scene, ?_, scene.hash_eq, ?_⟩
  · have full : (states.bucket .ibl).isEmpty = false := by
      rw [LightBucket.isEmpty, List.isEmpty_eq_false_iff, ← List.length_pos_iff]
      exact Nat.lt_of_lt_of_eq (Nat.lt_of_le_of_lt (Nat.zero_le _) many) size.symm
    simp [code, ModelStates.chunks, Chunk.reservedAll, Chunk.reserved, LightType.all, idle, empty, full,
      LightBucket.bindingsNeeded, proper.type, LightType.layout, size]
    omega
  · let front := states.chunks.take 8
    have split : states.chunks =
        front ++ .lightBucket (states.bucket .ibl) :: [.stencil ⟨LightBucket.lightsSlot, "lights/post-light-setup"⟩] :=
      rfl
    have light : ∀ chunk ∈ front, chunk.LightCode := fun chunk member =>
      scene.reached.invariant.lightCode scene.ofModels scene.live chunk (code ▸ List.mem_of_mem_take member)
    have countable : ∀ chunk ∈ front, chunk.Countable := by
      simp [front, ModelStates.chunks, LightType.all, Chunk.Countable, idle, proper.type]
    have crowded : ¬ (Chunk.lightBucket (states.bucket .ibl)).Countable := by
      simpa [Chunk.Countable, proper.type, size] using many
    rw [scene.generate_eq, code, split, Chunk.render_of_many light countable crowded, size]

end Session

end ShaderWeave
