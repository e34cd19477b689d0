import ShaderWeave.Proofs.Lighting.Contributions
import ShaderWeave.Proofs.Program.Crowds

/-! # Bindings of generated code

The code below the root of a light model declares its resources under the bindings from zero on, as many as were
reserved, and each binding once. All of them stand in the slot of declarations.
-/

namespace ShaderWeave

open Code

namespace Chunk

variable {chunks : List Chunk}

theorem quiet_printedAll (light : ∀ chunk ∈ chunks, chunk.LightCode) {binding : Nat} {part : String × List String}
    (member : part ∈ printedAll binding chunks) (other : part.1 ≠ ShadowPool.declarationsSlot) :
    ∀ line ∈ part.2, Quiet line.toList := by
  induction chunks generalizing binding with
  | nil => cases member
  | cons chunk rest ih =>
    obtain ⟨here, later⟩ := List.forall_mem_cons.1 light
    rcases List.mem_append.1 member with first | others
    · exact quiet_printed here first other
    · exact ih later others

/-- The lines of every other slot are without resources. -/
theorem quiet_linesAt (light : ∀ chunk ∈ chunks, chunk.LightCode) {key : String}
    (other : key ≠ ShadowPool.declarationsSlot) (binding : Nat) :
    ∀ line ∈ linesAt key (printedAll binding chunks), Quiet line.toList := by
  intro line member
  obtain ⟨part, isPart, inside⟩ := List.mem_flatMap.1 member
  obtain ⟨isPart, same⟩ := List.mem_filter.1 isPart
  exact quiet_printedAll light isPart (by simpa [eq_of_beq same] using other) line inside

theorem length_flatMap_resources (chunks : List Chunk) : (chunks.flatMap resources).length = reservedAll chunks := by
  simp [List.length_flatMap, length_resources, reservedAll]

/-- The bindings of merged code are numbered from zero on, and those of one slot are all there are. -/
theorem numerals_filledSlots (light : ∀ chunk ∈ chunks, chunk.LightCode)
    (countable : ∀ chunk ∈ chunks, chunk.Countable) :
    numerals (((filledSlots chunks).get? ShadowPool.declarationsSlot).getD "").toList =
        (List.range (filledSlots chunks).bindingCount).map toString ∧
      ∀ entry ∈ (filledSlots chunks).entries, entry.key ≠ ShadowPool.declarationsSlot →
        numerals entry.code.toList = [] := by
  refine ⟨?_, fun entry member other => ?_⟩
  · rw [get?_filledSlots, (declares_printedAll light countable 0).numerals_eq, length_flatMap_resources,
      bindingCount_filledSlots, List.range_eq_range']
  · obtain ⟨code, -⟩ := code_of_mem_filledSlots member
    rw [code, (Declares.of_quiet (quiet_linesAt light other 0) 0).numerals_eq]
    rfl

end Chunk

namespace Session

variable {P : Type}

/-- A collection of a model's root has code exactly if no part of it is repeated too often, and then its bindings
are those from zero to the number of bindings, each of them once, in the slot of declarations. -/
theorem bindings_are_consecutive {session : Session (Noted P)} (reached : session.Reached) {graph : Nat}
    {model : LightModel} (member : (graph, model) ∈ session.models)
    (intact : model.chunks.Intact (session.graphs graph)) {collection : CollectionId} {found : ChunkCollection}
    (live : (session.graphs graph).collection? collection = some found) (roots : found.roots = [model.chunks.root]) :
    ((∃ slots, ((session.graphs graph).collectionGenerate collection).1 = .ok slots) ↔
      ∀ id ∈ model.chunks.inOrder, ∀ chunk, (session.graphs graph).chunk? id = some chunk → chunk.Countable) ∧
    ∀ slots, ((session.graphs graph).collectionGenerate collection).1 = .ok slots →
      numerals ((slots.get? "pf").getD "").toList = (List.range slots.bindingCount).map toString ∧
        ∀ entry ∈ slots.entries, entry.key ≠ "pf" → numerals entry.code.toList = [] := by
  have sound := reached.invariant.graphs graph
  have light := reached.invariant.lightCode (reached.ofModels member intact live roots) live
  have code := intact.codeBelow (reached.capped member) sound.wellFormed
  rw [roots, code] at light
  rw [intact.generate_eq (reached.capped member) sound live roots]
  constructor
  · rw [Chunk.exists_render_iff light, List.forall_mem_filterMap]
  · intro slots rendered
    obtain ⟨countable, rfl⟩ := (Chunk.render_eq_ok_iff light).1 rendered
    exact Chunk.numerals_filledSlots light countable

theorem Scene.bindingCount_eq {session : Session (Noted P)} {model : LightModel} {collection : CollectionId}
    {found : ChunkCollection} (scene : Scene session model collection found) {slots : SlotBuffer}
    (made : ((session.graphs 0).collectionGenerate collection).1 = .ok slots) :
    slots.bindingCount = Chunk.reservedAll ((session.graphs 0).codeBelow found.roots) := by
  have light := scene.reached.invariant.lightCode scene.ofModels scene.live
  obtain ⟨-, rfl⟩ := (Chunk.render_eq_ok_iff light).1 (scene.generate_eq.symm.trans made)
  exact Chunk.bindingCount_filledSlots _

/-- A shadowed light and an environment: six bindings for the pool, two for the light and four for the environment. -/
theorem bindings_of_environment :
    ∃ (session : Session (Noted Program)) (model : LightModel) (collection : CollectionId) (found : ChunkCollection)
        (slots : SlotBuffer),
      session.Reached ∧ (0, model) ∈ session.models ∧ model.chunks.Intact (session.graphs 0) ∧
      (session.graphs 0).collection? collection = some found ∧ found.roots = [model.chunks.root] ∧
      ((session.graphs 0).collectionGenerate collection).1 = .ok slots ∧ slots.bindingCount = 12 ∧
      numerals ((slots.get? "pf").getD "").toList =
        ["0", "1", "2", "3", "4", "5", "6", "7", "8", "9", "10", "11"] := by
  let ops : List LightModel.Op := [
    .addLight ((Light.directional .backward).withShadow {}),
    .addLight (.ibl (Vector.replicate 27 .zero) none .zero),
    .update]
  obtain ⟨session, model, collection, found, scene, code⟩ := exists_scene_of_code Program {} ops
  have member : (0, model) ∈ session.models := scene.models ▸ List.mem_singleton_self _
  obtain ⟨generated, numbered⟩ :=
    bindings_are_consecutive scene.reached member scene.intact scene.live scene.roots
  have countable : ∀ chunk ∈ LightModel.codeAfter {} ops, chunk.Countable := by decide
  rw [← code, scene.codeBelow] at countable
  obtain ⟨slots, made⟩ := generated.2 fun id isChunk chunk held =>
    countable chunk (List.mem_filterMap.2 ⟨id, isChunk, held⟩)
  have count : slots.bindingCount = 12 := by
    rw [scene.bindingCount_eq made, code]
    decide
  refine ⟨session, model, collection, found, slots, scene.reached, member, scene.intact, scene.live, scene.roots, made,
    count, ?_⟩
  rw [(numbered slots made).1, count]
  decide

/-- With one image-based light more than a part can be repeated, a collection of the root has no bindings at all. -/
theorem no_bindings_of_crowd :
    ∃ (session : Session (Noted Program)) (model : LightModel) (collection : CollectionId) (found : ChunkCollection),
      session.Reached ∧ (0, model) ∈ session.models ∧ model.chunks.Intact (session.graphs 0) ∧
      (session.graphs 0).collection? collection = some found ∧ found.roots = [model.chunks.root] ∧
      Chunk.reservedAll ((session.graphs 0).codeBelow found.roots) < 2 ^ 32 ∧
      ∀ slots, ((session.graphs 0).collectionGenerate collection).1 ≠ .ok slots := by
  have many : Stencil.maxRepeats < 100001 := by decide
  obtain ⟨session, model, collection, found, scene, reserved, -, failed⟩ := exists_crowded_scene Program many
  refine ⟨session, model, collection, found, scene.reached, scene.models ▸ List.mem_singleton_self _, scene.intact,
    scene.live, scene.roots, ?_, fun slots => ?_⟩
  · rw [reserved]
    decide
  · rw [failed]
    simp

end Session

end ShaderWeave
