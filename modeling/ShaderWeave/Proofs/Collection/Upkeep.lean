import ShaderWeave.Proofs.Collection.Edits

/-! # Upkeep of collections

Creating and removing collections, and editing their roots, keeps the bookkeeping sound, and so does taking a chunk
out: the collections that named it forget it, and those that visited a chunk which loses an edge are marked.
-/

namespace ShaderWeave.ChunkGraph

variable {graph before after : ChunkGraph}

/-! ## Collections -/

theorem Listed.of_shape {collection : ChunkCollection} (listed : before.Listed collection)
    (shapes : ∀ chunk, after.shape? chunk = before.shape? chunk) : after.Listed collection where
  roots id member := by rw [← isSome_shape?, shapes, isSome_shape?]; exact listed.roots id member
  all id member := by rw [← isSome_shape?, shapes, isSome_shape?]; exact listed.all id member
  actives := listed.actives

theorem WellFormed.flattenAll_of_shape (wellFormed : before.WellFormed) {roots : List ChunkId}
    (live : ∀ root ∈ roots, (before.node? root).isSome)
    (shapes : ∀ chunk, after.shape? chunk = before.shape? chunk) :
    after.flattenAll roots = before.flattenAll roots :=
  flattenAll_congr wellFormed.acyclic (wellFormed.of_shape shapes).acyclic wellFormed.closed live
    fun other _ => shapes other

/-- Some collections change, while the chunks keep their edges and their hashes. -/
theorem Sound.of_collections (sound : before.Sound) (shapes : ∀ chunk, after.shape? chunk = before.shape? chunk)
    (digests : ∀ chunk, after.digest? chunk = before.digest? chunk)
    (subscribed : ∀ chunk id, id ∈ after.subscribers chunk ↔
      ∃ collection, after.collection? id = some collection ∧ chunk ∈ collection.all)
    (kept : ∀ id collection, after.collection? id = some collection →
      before.Listed collection ∧ before.Fresh collection) : after.Sound where
  wellFormed := sound.wellFormed.of_shape shapes
  listed id collection found := (kept id collection found).1.of_shape shapes
  subscribed
  fresh id collection found := by
    obtain ⟨listed, fresh⟩ := kept id collection found
    refine ⟨fresh.code_of_list, ?_, ?_⟩
    · intro clean
      rw [sound.wellFormed.flattenAll_of_shape listed.roots shapes]
      exact fresh.lists clean
    · intro clean
      rw [fresh.hash clean]
      exact (joinedHash_congr fun chunk _ => digests chunk).symm

/-- One collection gets other content over the same visited chunks. -/
theorem Sound.modifyCollection (sound : graph.Sound) (id : CollectionId) {change : ChunkCollection → ChunkCollection}
    (all : ∀ collection, (change collection).all = collection.all)
    (kept : ∀ collection, graph.collection? id = some collection →
      graph.Listed (change collection) ∧ graph.Fresh (change collection)) :
    (graph.modifyCollection id change).Sound := by
  refine sound.of_collections (fun _ => rfl) (fun _ => rfl)
    (Mirrored.of_unmoved sound.subscribed (unmoved_modifyCollection id all)) ?_
  intro other collection found
  rw [collection?_modifyCollection] at found
  split at found
  · next here =>
    obtain ⟨old, held, rfl⟩ := Option.map_eq_some_iff.1 found
    exact kept old (here ▸ held)
  · exact ⟨sound.listed other collection found, sound.fresh other collection found⟩

theorem Sound.createCollection (sound : graph.Sound) : graph.createCollection.2.Sound := by
  refine sound.of_collections (fun _ => rfl) (fun _ => rfl) (Mirrored.createCollection sound.subscribed) ?_
  intro id collection found
  rw [collection?_createCollection] at found
  split at found
  · cases found
    exact ⟨⟨by simp, by simp, by simp⟩, ⟨fun _ => rfl, nofun, nofun⟩⟩
  · exact ⟨sound.listed id collection found, sound.fresh id collection found⟩

theorem Sound.removeCollection (sound : graph.Sound) {rest : ChunkGraph} {id : CollectionId}
    {collection : ChunkCollection} (removed : graph.removeCollection id = some (collection, rest)) : rest.Sound := by
  obtain ⟨found, collections, nodes⟩ := removeCollection_cases removed
  apply sound.of_collections
  · intro chunk
    rw [shape?, shape?, nodes]
    cases graph.node? chunk with
    | none => rfl
    | some node => by_cases visited : chunk ∈ collection.all <;> simp [visited, ChunkNode.unsubscribe]
  · intro chunk
    rw [digest?, digest?, nodes]
    cases graph.node? chunk with
    | none => rfl
    | some node => by_cases visited : chunk ∈ collection.all <;> simp [visited, ChunkNode.unsubscribe]
  · exact Mirrored.removeCollection sound.subscribed removed
  · intro other held found'
    rw [collections] at found'
    split at found'
    · simp at found'
    · exact ⟨sound.listed other held found', sound.fresh other held found'⟩

/-! ## Roots -/

theorem Sound.withRoots (sound : graph.Sound) (id : CollectionId) (roots : List ChunkId → List ChunkId)
    (live : ∀ collection, graph.collection? id = some collection →
      ∀ root ∈ roots collection.roots, (graph.node? root).isSome) :
    (graph.modifyCollection id fun collection => collection.withRoots (roots collection.roots)).Sound :=
  sound.modifyCollection id (fun _ => rfl) fun collection found =>
    have listed := sound.listed id collection found
    ⟨⟨live collection found, listed.all, listed.actives⟩, ⟨fun _ => rfl, nofun, nofun⟩⟩

theorem Sound.addRoot (sound : graph.Sound) (id : CollectionId) (root : ChunkId) :
    (graph.addRoot id root).2.Sound := by
  rcases graph.addRoot_cases id root with same | ⟨live, same⟩
  · rwa [same]
  · rw [same]
    apply sound.withRoots id (· ++ [root])
    intro collection found other member
    rcases List.mem_append.1 member with old | new
    · exact (sound.listed id collection found).roots other old
    · rwa [List.mem_singleton.1 new]

theorem Sound.removeRoot (sound : graph.Sound) (id : CollectionId) (root : ChunkId) :
    (graph.removeRoot id root).2.Sound := by
  rcases graph.removeRoot_cases id root with same | same
  · rwa [same]
  · rw [same]
    apply sound.withRoots id (List.filter (· ≠ root))
    intro collection found other member
    exact (sound.listed id collection found).roots other (List.mem_filter.1 member).1

/-! ## Taking a chunk out -/

private theorem filter_ne_of_not_mem {ids : List ChunkId} {id : ChunkId} (absent : id ∉ ids) :
    ids.filter (· ≠ id) = ids := by
  apply List.filter_eq_self.2
  intro other member
  simpa using ne_of_mem_of_not_mem member absent

private theorem detach_of_not_links {node : ChunkNode} {id : ChunkId} (apart : node.links id = false) :
    node.detach id = node := by
  simp only [ChunkNode.links, Bool.or_eq_false_iff, beq_eq_false_iff_ne, List.contains_eq_mem,
    decide_eq_false_iff_not] at apart
  rw [ChunkNode.detach, filter_ne_of_not_mem apart.2, if_neg apart.1]

/-- A collection that has nothing to do with a chunk has nothing to forget. -/
private theorem forget_of_not_mem {collection : ChunkCollection} {id : ChunkId} (roots : id ∉ collection.roots)
    (all : id ∉ collection.all) (actives : id ∉ collection.actives) : collection.forget id = collection := by
  simp only [ChunkCollection.forget, roots, all, or_self, if_false, filter_ne_of_not_mem roots,
    filter_ne_of_not_mem all, filter_ne_of_not_mem actives]

/-- A collection stays right if it visited neither the chunk that is taken out nor one with an edge to it. -/
private theorem Sound.fresh_forget (sound : graph.Sound) {rest : ChunkGraph} (wellFormed : rest.WellFormed)
    {id : ChunkId}
    (nodes : ∀ other, rest.node? other = if other = id then none else (graph.node? other).map (·.detach id))
    {visitor : CollectionId} {collection : ChunkCollection} (found : graph.collection? visitor = some collection)
    (unvisited : visitor ∉ graph.subscribers id)
    (unlinked : ∀ key linked, key ≠ id → graph.node? key = some linked → linked.links id = true →
      visitor ∉ linked.subscribers) : rest.Fresh (collection.forget id) := by
  have visited : ∀ chunk ∈ collection.all, visitor ∈ graph.subscribers chunk := fun chunk member =>
    (sound.subscribed chunk visitor).2 ⟨collection, found, member⟩
  have all : id ∉ collection.all := fun member => unvisited (visited id member)
  by_cases root : id ∈ collection.roots
  · simp only [ChunkCollection.forget, root, true_or, if_true]
    exact ⟨fun _ => rfl, nofun, nofun⟩
  rw [forget_of_not_mem root all fun member => all ((sound.listed visitor collection found).actives id member)]
  have untouched : ∀ chunk ∈ collection.all, rest.node? chunk = graph.node? chunk := by
    intro chunk member
    have apart : chunk ≠ id := ne_of_mem_of_not_mem member all
    rw [nodes, if_neg apart]
    cases linked : graph.node? chunk with
    | none => rfl
    | some node =>
      have links : node.links id = false := by
        by_contra links
        apply unlinked chunk node apart linked (by simpa using links)
        exact subscribers_of_found linked ▸ visited chunk member
      rw [Option.map_some, detach_of_not_links links]
  exact sound.fresh_of_visited wellFormed.acyclic found
    (fun chunk member => shape?_of_nodes_eq (untouched chunk member)) fun chunk member => digest?_of_nodes_eq (untouched chunk member)

theorem Sound.remove (sound : graph.Sound) {rest : ChunkGraph} {id : ChunkId} {chunk : Chunk}
    (removed : graph.remove id = some (chunk, rest)) : rest.Sound := by
  obtain ⟨node, marked, found, rfl, nodes, collections, marked_iff⟩ := remove_cases removed
  have wellFormed : rest.WellFormed := sound.wellFormed.remove nodes
  have live : ∀ other, other ≠ id → (graph.node? other).isSome → (rest.node? other).isSome := by
    intro other apart live
    rwa [nodes, if_neg apart, Option.isSome_map]
  let mark (other : CollectionId) : Mark := if other ∈ marked then .list else .nothing
  have forgotten : ∀ other, rest.collection? other =
      (graph.collection? other).map fun collection => (mark other).apply (collection.forget id) := by
    intro other
    rw [collections]
    congr 1
    funext collection
    simp only [mark]
    split <;> rfl
  refine ⟨wellFormed, ?_, ?_, ?_⟩
  · intro other held found'
    rw [forgotten] at found'
    obtain ⟨collection, held, rfl⟩ := Option.map_eq_some_iff.1 found'
    have listed := sound.listed other collection held
    refine ⟨?_, ?_, ?_⟩
    · intro chunk member
      obtain ⟨member, apart⟩ := ChunkCollection.mem_forget.1.1 (by simpa using member)
      exact live chunk apart (listed.roots chunk member)
    · intro chunk member
      obtain ⟨member, apart⟩ := ChunkCollection.mem_forget.2.1.1 (by simpa using member)
      exact live chunk apart (listed.all chunk member)
    · intro chunk member
      obtain ⟨member, apart⟩ := ChunkCollection.mem_forget.2.2.1 (by simpa using member)
      simpa using ChunkCollection.mem_forget.2.1.2 ⟨listed.actives chunk member, apart⟩
  · exact Mirrored.remove sound.subscribed removed
  · intro other held found'
    rw [forgotten] at found'
    obtain ⟨collection, held, rfl⟩ := Option.map_eq_some_iff.1 found'
    by_cases isMarked : other ∈ marked
    · simp only [mark, isMarked, if_true]
      exact ⟨fun _ => rfl, nofun, nofun⟩
    simp only [mark, isMarked, if_false, Mark.apply]
    apply sound.fresh_forget wellFormed nodes held
    · intro visitor
      exact isMarked ((marked_iff other).2 (.inl (subscribers_of_found found ▸ visitor)))
    · intro key linked apart foundKey links member
      exact isMarked ((marked_iff other).2 (.inr ⟨key, linked, apart, foundKey, links, member⟩))

end ShaderWeave.ChunkGraph
