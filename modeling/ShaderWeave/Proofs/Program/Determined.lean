import ShaderWeave.Proofs.Program.Crowds

/-! # Code is determined by hashes

A hash of a collection stands for the code of its chunks: collections with the same hash, of any sessions, have the same
code in the same slots, or none of them has any. The latter happens only where a part of the code would be
repeated too often.
-/

namespace ShaderWeave

namespace Session

variable {P Q : Type}

/-- A collection that has a hash is there, and hash and code are those of the chunks below its roots. -/
theorem Reached.generate_eq {session : Session (Noted P)} (reached : session.Reached) {graph : Nat}
    {collection : CollectionId} {hash : String}
    (hashed : ((session.graphs graph).collectionHash collection).1 = .ok hash) :
    ∃ found, (session.graphs graph).collection? collection = some found ∧
      hash = Chunk.joinedHash ((session.graphs graph).codeBelow found.roots) ∧
      ((session.graphs graph).collectionGenerate collection).1 =
        Chunk.render ((session.graphs graph).codeBelow found.roots) := by
  have sound := reached.invariant.graphs graph
  cases live : (session.graphs graph).collection? collection with
  | none =>
    rw [ChunkGraph.collectionHash, ChunkGraph.refreshed_of_gone live] at hashed
    cases hashed
  | some found =>
    rw [sound.collectionHash_eq live, ChunkGraph.hash_upToDate] at hashed
    refine ⟨found, rfl, (Except.ok.inj hashed).symm, ?_⟩
    rw [sound.collectionGenerate_eq live, ChunkGraph.generateAll_upToDate]

/-- Collections of light models with the same hash generate the same. They generate something exactly if no active
chunk repeats a part of its code too often. -/
theorem generate_eq_of_hash_eq {first : Session (Noted P)} {second : Session (Noted Q)} (firstReached : first.Reached)
    (secondReached : second.Reached) {home away : Nat} {firstCollection secondCollection : CollectionId}
    (firstModels : first.OfModels home firstCollection) (secondModels : second.OfModels away secondCollection)
    {hash : String} (firstHash : ((first.graphs home).collectionHash firstCollection).1 = .ok hash)
    (secondHash : ((second.graphs away).collectionHash secondCollection).1 = .ok hash) :
    ((first.graphs home).collectionGenerate firstCollection).1 =
        ((second.graphs away).collectionGenerate secondCollection).1 ∧
      ∃ found, (first.graphs home).collection? firstCollection = some found ∧
        ((∃ slots, ((first.graphs home).collectionGenerate firstCollection).1 = .ok slots) ↔
          ∀ chunk ∈ (first.graphs home).codeBelow found.roots, chunk.Countable) := by
  obtain ⟨found, firstLive, rfl, firstCode⟩ := firstReached.generate_eq firstHash
  obtain ⟨other, secondLive, same, secondCode⟩ := secondReached.generate_eq secondHash
  have firstLight := firstReached.invariant.lightCode firstModels firstLive
  have secondLight := secondReached.invariant.lightCode secondModels secondLive
  rw [firstCode, secondCode]
  refine ⟨Chunk.render_eq_of_joinedHash_eq firstLight secondLight same, found, firstLive, ?_⟩
  exact Chunk.exists_render_iff firstLight

/-- A scene with room for four shadows and one with room for a single shadow, where another caster came and went. -/
theorem generate_eq_despite_capacity :
    ∃ (first second : Session (Noted Program)) (home away : CollectionId) (hash : String),
      first.Reached ∧ second.Reached ∧ first.OfModels 0 home ∧ second.OfModels 0 away ∧
      ((first.graphs 0).collectionHash home).1 = .ok hash ∧ ((second.graphs 0).collectionHash away).1 = .ok hash ∧
      hash = "iblShadowing0|shadowFilter=PCF4x1|depthFormat=D_DEPTH|shadows1d|lightsf:lights/pre-light-setup|" ++
        "dir1,0:0|spot0|point0|ibl0|lightsf:lights/post-light-setup" ∧
      ((first.graphs 0).collectionGenerate home).1 = ((second.graphs 0).collectionGenerate away).1 ∧
      ∃ slots, ((first.graphs 0).collectionGenerate home).1 = .ok slots := by
  let sun := (Light.directional .backward).withShadow {}
  let lamp := (Light.spot .zero .backward .half .one).withShadow {}
  let firstOps : List LightModel.Op := [.addLight sun, .update]
  let secondOps : List LightModel.Op := [.addLight sun, .addLight lamp, .update, .removeLight ⟨2, 1⟩]
  obtain ⟨first, _, home, found, firstScene, firstCode⟩ := exists_scene_of_code Program {} firstOps
  obtain ⟨second, _, away, other, secondScene, secondCode⟩ := exists_scene_of_code Program { maxShadows := 1 } secondOps
  have same : Chunk.joinedHash (LightModel.codeAfter { maxShadows := 1 } secondOps) =
      Chunk.joinedHash (LightModel.codeAfter {} firstOps) := by
    decide +kernel
  have firstHash := firstScene.hash_eq
  have secondHash := secondScene.hash_eq
  rw [firstCode] at firstHash
  rw [secondCode, same] at secondHash
  obtain ⟨equal, content, live, generated⟩ := generate_eq_of_hash_eq firstScene.reached secondScene.reached
    firstScene.ofModels secondScene.ofModels firstHash secondHash
  obtain rfl : found = content := Option.some.inj (firstScene.live.symm.trans live)
  refine ⟨first, second, home, away, _, firstScene.reached, secondScene.reached, firstScene.ofModels,
    secondScene.ofModels, firstHash, secondHash, ?_, equal, generated.2 ?_⟩
  · decide +kernel
  · rw [firstCode]
    decide

/-- With one image-based light more than a part can be repeated, a collection has a hash but no code. -/
theorem no_code_of_crowd :
    ∃ (session : Session (Noted Program)) (graph : Nat) (collection : CollectionId) (found : ChunkCollection)
        (hash : String),
      session.Reached ∧ session.OfModels graph collection ∧
      (session.graphs graph).collection? collection = some found ∧
      ((session.graphs graph).collectionHash collection).1 = .ok hash ∧
      Chunk.reservedAll ((session.graphs graph).codeBelow found.roots) < 2 ^ 32 ∧
      ((session.graphs graph).collectionGenerate collection).1 =
        .error (.stencil (.fault .tooManyRepeats "lights/ibl-lights-pre" 4)) := by
  have many : Stencil.maxRepeats < 100001 := by decide
  obtain ⟨session, _, collection, found, scene, reserved, hashed, failed⟩ := exists_crowded_scene Program many
  refine ⟨session, 0, collection, found, _, scene.reached, scene.ofModels, scene.live, hashed, ?_, failed⟩
  rw [reserved]
  decide

end Session

end ShaderWeave
