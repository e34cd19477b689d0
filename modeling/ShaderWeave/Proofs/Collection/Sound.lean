import ShaderWeave.Proofs.Collection.Subscriptions

/-! # Sound bookkeeping

What a graph keeps about its collections is sound if every collection names live chunks only, a chunk's subscribers
are the collections that visited it, and every list or hash that is not marked is the one a rebuild would give. An
edit of chunks keeps this if it marks the subscribers of each chunk whose edges or hash it changes.
-/

namespace ShaderWeave.ChunkGraph

/-- The chunks are live, and the active ones were visited. -/
structure Listed (graph : ChunkGraph) (collection : ChunkCollection) : Prop where
  roots : ∀ id ∈ collection.roots, (graph.node? id).isSome
  all : ∀ id ∈ collection.all, (graph.node? id).isSome
  actives : ∀ id ∈ collection.actives, id ∈ collection.all

/-- What is not marked agrees with the roots and the graph of this moment. -/
structure Fresh (graph : ChunkGraph) (collection : ChunkCollection) : Prop where
  code_of_list : collection.listDirty = true → collection.codeDirty = true
  lists : collection.listDirty = false → graph.flattenAll collection.roots = ⟨collection.all, collection.actives⟩
  hash : collection.codeDirty = false → collection.hash = graph.joinedHash collection.actives

structure Sound (graph : ChunkGraph) : Prop where
  wellFormed : graph.WellFormed
  listed : ∀ id collection, graph.collection? id = some collection → graph.Listed collection
  subscribed : ∀ chunk id, id ∈ graph.subscribers chunk ↔
    ∃ collection, graph.collection? id = some collection ∧ chunk ∈ collection.all
  fresh : ∀ id collection, graph.collection? id = some collection → graph.Fresh collection

variable {graph before after : ChunkGraph}

theorem Sound.empty : empty.Sound where
  wellFormed := .empty
  listed id collection found := by simp at found
  subscribed := mirrored_empty
  fresh id collection found := by simp at found

/-! ## Hashes -/

/-- What a collection hash takes from a live chunk. -/
def digest? (graph : ChunkGraph) (id : ChunkId) : Option (Bool × String) :=
  (graph.node? id).map fun node => (node.caps.code, node.chunk.hash)

private theorem hashes_eq (actives : List ChunkId) :
    ((graph.nodesOf actives).filter (·.caps.code)).map (·.chunk.hash) =
      ((actives.filterMap graph.digest?).filter (·.1)).map (·.2) := by
  simp only [nodesOf, ← List.filterMap_eq_filter, List.map_filterMap, List.filterMap_filterMap]
  apply List.filterMap_congr
  intro id _
  cases found : graph.node? id with
  | none => simp [digest?, found]
  | some node => cases code : node.caps.code <;> simp [digest?, found, code, Option.guard]

theorem joinedHash_congr {actives : List ChunkId}
    (same : ∀ id ∈ actives, after.digest? id = before.digest? id) :
    after.joinedHash actives = before.joinedHash actives := by
  rw [joinedHash, joinedHash, hashes_eq, hashes_eq, List.filterMap_congr same]

/-! ## Marks -/

/-- How far an edit marks a collection. -/
inductive Mark where
  | nothing
  | code
  | list
  deriving DecidableEq

def Mark.apply : Mark → ChunkCollection → ChunkCollection
  | nothing, collection => collection
  | code, collection => collection.invalidateCode
  | list, collection => collection.invalidateList

namespace Mark

@[simp] theorem roots_apply (mark : Mark) (collection : ChunkCollection) :
    (mark.apply collection).roots = collection.roots := by cases mark <;> rfl

@[simp] theorem all_apply (mark : Mark) (collection : ChunkCollection) :
    (mark.apply collection).all = collection.all := by cases mark <;> rfl

@[simp] theorem actives_apply (mark : Mark) (collection : ChunkCollection) :
    (mark.apply collection).actives = collection.actives := by cases mark <;> rfl

end Mark

/-- The lists of a collection stay right while no chunk that it visited gets other edges. -/
theorem Sound.flattenAll_eq (sound : before.Sound) (acyclic : after.Acyclic) {id : CollectionId}
    {collection : ChunkCollection} (found : before.collection? id = some collection)
    (clean : collection.listDirty = false)
    (shapes : ∀ chunk ∈ collection.all, after.shape? chunk = before.shape? chunk) :
    after.flattenAll collection.roots = ⟨collection.all, collection.actives⟩ := by
  have lists := (sound.fresh id collection found).lists clean
  rw [← lists]
  refine flattenAll_congr sound.wellFormed.acyclic acyclic sound.wellFormed.closed
    (sound.listed id collection found).roots ?_
  intro chunk member
  rw [lists] at member
  exact shapes chunk member

/-- So does its hash while no active chunk gets another one. -/
theorem Sound.fresh_of_visited (sound : before.Sound) (acyclic : after.Acyclic) {id : CollectionId}
    {collection : ChunkCollection} (found : before.collection? id = some collection)
    (shapes : ∀ chunk ∈ collection.all, after.shape? chunk = before.shape? chunk)
    (digests : ∀ chunk ∈ collection.all, after.digest? chunk = before.digest? chunk) : after.Fresh collection where
  code_of_list := (sound.fresh id collection found).code_of_list
  lists clean := sound.flattenAll_eq acyclic found clean shapes
  hash clean := by
    rw [(sound.fresh id collection found).hash clean]
    refine (joinedHash_congr ?_).symm
    intro chunk member
    exact digests chunk ((sound.listed id collection found).actives chunk member)

/-- An edit of chunks that keeps their subscribers, and marks those whose edges or hashes it changes. -/
theorem Sound.of_marks (sound : before.Sound) (wellFormed : after.WellFormed) (mark : CollectionId → Mark)
    (collections : ∀ id, after.collection? id = (before.collection? id).map (mark id).apply)
    (live : ∀ chunk, (before.node? chunk).isSome → (after.node? chunk).isSome)
    (subscribers : ∀ chunk, after.subscribers chunk = before.subscribers chunk)
    (shapes : ∀ chunk, after.shape? chunk ≠ before.shape? chunk →
      ∀ id ∈ before.subscribers chunk, mark id = .list)
    (digests : ∀ chunk, after.digest? chunk ≠ before.digest? chunk →
      ∀ id ∈ before.subscribers chunk, mark id ≠ .nothing) : after.Sound where
  wellFormed
  listed id collection' found' := by
    rw [collections] at found'
    obtain ⟨collection, found, rfl⟩ := Option.map_eq_some_iff.1 found'
    have listed := sound.listed id collection found
    refine ⟨?_, ?_, ?_⟩
    · intro chunk member
      exact live chunk (listed.roots chunk (by simpa using member))
    · intro chunk member
      exact live chunk (listed.all chunk (by simpa using member))
    · intro chunk member
      simpa using listed.actives chunk (by simpa using member)
  subscribed := Mirrored.of_unmoved sound.subscribed ⟨subscribers, fun id => by
    rw [collections]
    cases before.collection? id <;> simp⟩
  fresh id collection' found' := by
    rw [collections] at found'
    obtain ⟨collection, found, rfl⟩ := Option.map_eq_some_iff.1 found'
    have visited : ∀ chunk ∈ collection.all, id ∈ before.subscribers chunk := fun chunk member =>
      (sound.subscribed chunk id).2 ⟨collection, found, member⟩
    have unlisted : mark id ≠ .list → ∀ chunk ∈ collection.all, after.shape? chunk = before.shape? chunk := by
      intro unlisted chunk member
      by_contra changed
      exact unlisted (shapes chunk changed id (visited chunk member))
    cases marked : mark id with
    | nothing =>
      apply sound.fresh_of_visited wellFormed.acyclic found (unlisted (by simp [marked]))
      intro chunk member
      by_contra changed
      exact digests chunk changed id (visited chunk member) marked
    | code =>
      have lists (clean : collection.listDirty = false) :
          after.flattenAll collection.roots = ⟨collection.all, collection.actives⟩ :=
        sound.flattenAll_eq wellFormed.acyclic found clean (unlisted (by simp [marked]))
      exact ⟨fun _ => rfl, lists, nofun⟩
    | list => exact ⟨fun _ => rfl, nofun, nofun⟩

end ShaderWeave.ChunkGraph
