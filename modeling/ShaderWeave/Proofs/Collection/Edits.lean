import ShaderWeave.Proofs.Collection.Sound

/-! # Edits keep the bookkeeping sound

Edits of the edges or of the state of one chunk mark its subscribers, and a chunk that nothing leads to yet has none.
What removes a chunk or a collection, or edits the roots of a collection, mends the lists that named it.
-/

namespace ShaderWeave.ChunkGraph

variable {graph before after : ChunkGraph}

/-! ## One chunk -/

theorem shape?_modifyNode_of_ne (graph : ChunkGraph) {id other : ChunkId} (change : ChunkNode → ChunkNode)
    (distinct : other ≠ id) : (graph.modifyNode id change).shape? other = graph.shape? other :=
  shape?_of_nodes_eq (by rw [node?_modifyNode, if_neg distinct])

theorem digest?_of_nodes_eq {id : ChunkId} (same : after.node? id = before.node? id) :
    after.digest? id = before.digest? id := by
  rw [digest?, digest?, same]

/-- Some edges of a chunk change, and its subscribers are marked. -/
theorem Sound.relink (sound : graph.Sound) {id : ChunkId} {change : ChunkNode → ChunkNode}
    (wellFormed : (graph.modifyNode id change).WellFormed)
    (subscribers : ∀ node, (change node).subscribers = node.subscribers)
    (digests : ∀ node, (change node).caps = node.caps ∧ (change node).chunk = node.chunk) :
    ((graph.modifyNode id change).invalidateList id).Sound := by
  refine sound.of_marks (wellFormed.of_shape fun _ => rfl)
    (fun other => if other ∈ graph.subscribers id then .list else .nothing) ?_ ?_
    (fun chunk => graph.subscribers_modifyNode id chunk subscribers) ?_
    fun chunk changed => absurd ?_ changed
  · intro other
    rw [invalidateList, collection?_markLists, graph.subscribers_modifyNode id id subscribers, collection?_modifyNode]
    congr 1
    funext collection
    split <;> rfl
  · intro chunk live
    rw [node?_invalidateList, isSome_node?_modifyNode]
    exact live
  · intro chunk changed other member
    have here : chunk = id := by
      by_contra other
      exact changed (graph.shape?_modifyNode_of_ne change other)
    rw [if_pos (here ▸ member)]
  · simp only [digest?, node?_invalidateList, node?_modifyNode]
    split
    · cases graph.node? chunk <;> simp [digests]
    · rfl

/-- Chunks may have other states, and other values to upload. -/
structure Alike (before after : ChunkGraph) : Prop where
  collections : ∀ id, after.collection? id = before.collection? id
  shapes : ∀ chunk, after.shape? chunk = before.shape? chunk
  subscribers : ∀ chunk, after.subscribers chunk = before.subscribers chunk

theorem Alike.trans {middle : ChunkGraph} (first : Alike before middle) (second : Alike middle after) :
    Alike before after where
  collections id := (second.collections id).trans (first.collections id)
  shapes chunk := (second.shapes chunk).trans (first.shapes chunk)
  subscribers chunk := (second.subscribers chunk).trans (first.subscribers chunk)

theorem alike_modifyNode (id : ChunkId) {change : ChunkNode → ChunkNode}
    (shapes : ∀ node, (change node).children = node.children ∧ (change node).proxy = node.proxy)
    (subscribers : ∀ node, (change node).subscribers = node.subscribers) :
    Alike graph (graph.modifyNode id change) where
  collections _ := rfl
  shapes other := by
    simp only [shape?, node?_modifyNode]
    split
    · cases graph.node? other <;> simp [shapes]
    · rfl
  subscribers other := graph.subscribers_modifyNode id other subscribers

theorem alike_setChunk (id : ChunkId) (chunk : Chunk) : Alike graph (graph.setChunk id chunk) :=
  alike_modifyNode id (fun _ => ⟨rfl, rfl⟩) fun _ => rfl

theorem digest?_setChunk_of_ne {id other : ChunkId} (chunk : Chunk) (apart : other ≠ id) :
    (graph.setChunk id chunk).digest? other = graph.digest? other :=
  digest?_of_nodes_eq (by rw [setChunk, node?_modifyNode, if_neg apart])

theorem alike_pending (id : ChunkId) (pending : Bool) :
    Alike graph (graph.modifyNode id fun node => { node with pending }) :=
  alike_modifyNode id (fun _ => ⟨rfl, rfl⟩) fun _ => rfl

theorem digest?_pending (id other : ChunkId) (pending : Bool) :
    (graph.modifyNode id fun node => { node with pending }).digest? other = graph.digest? other := by
  simp only [digest?, node?_modifyNode]
  split <;> cases graph.node? other <;> rfl

/-- No hash changes. -/
theorem Sound.of_alike (sound : before.Sound) (alike : Alike before after)
    (digests : ∀ chunk, after.digest? chunk = before.digest? chunk) : after.Sound := by
  refine sound.of_marks (sound.wellFormed.of_shape alike.shapes) (fun _ => .nothing) ?_
    ?_ alike.subscribers (fun chunk changed => absurd (alike.shapes chunk) changed)
    fun chunk changed => absurd (digests chunk) changed
  · intro id
    rw [alike.collections]
    cases before.collection? id <;> rfl
  · intro chunk live
    rwa [← isSome_shape?, alike.shapes, isSome_shape?]

/-- The hash of one chunk may change, and its subscribers are marked. -/
theorem Sound.recode (sound : before.Sound) (alike : Alike before after) (id : ChunkId)
    (digests : ∀ chunk, chunk ≠ id → after.digest? chunk = before.digest? chunk) : (after.invalidateCode id).Sound := by
  refine sound.of_marks (sound.wellFormed.of_shape alike.shapes)
    (fun other => if other ∈ before.subscribers id then .code else .nothing) ?_ ?_
    alike.subscribers (fun chunk changed => absurd (alike.shapes chunk) changed) ?_
  · intro other
    rw [invalidateCode, collection?_markCodes, alike.subscribers, alike.collections]
    congr 1
    funext collection
    split <;> rfl
  · intro chunk live
    rwa [node?_invalidateCode, ← isSome_shape?, alike.shapes, isSome_shape?]
  · intro chunk changed other member
    have here : chunk = id := by
      by_contra apart
      exact changed (digests chunk apart)
    rw [if_pos (here ▸ member)]
    simp

/-- The state of a chunk changes, and its subscribers are marked. -/
theorem Sound.rewrite (sound : graph.Sound) (id : ChunkId) (chunk : Chunk) :
    ((graph.setChunk id chunk).invalidateCode id).Sound :=
  sound.recode (alike_setChunk id chunk) id fun _ apart => digest?_setChunk_of_ne chunk apart

/-- Whether values wait for their upload does not matter. -/
theorem Sound.pending (sound : graph.Sound) (id : ChunkId) (pending : Bool) :
    (graph.modifyNode id fun node => { node with pending }).Sound :=
  sound.of_alike (alike_pending id pending) fun other => digest?_pending id other pending

/-! ## Inserting chunks -/

/-- A new chunk has no subscribers, and no collection visited it. -/
private theorem Sound.of_new (sound : before.Sound) (wellFormed : after.WellFormed) {id : ChunkId} {node : ChunkNode}
    (fresh : before.node? id = none) (new : node.subscribers = [])
    (nodes : ∀ other, after.node? other = if other = id then some node else before.node? other)
    (collections : ∀ other, after.collection? other = before.collection? other) : after.Sound := by
  have old : ∀ other, other ≠ id → after.node? other = before.node? other := fun other distinct => by
    rw [nodes, if_neg distinct]
  apply sound.of_marks wellFormed (fun _ => .nothing)
  · intro other
    rw [collections]
    cases before.collection? other <;> rfl
  · intro other live
    rw [nodes]
    split <;> simp [live]
  · intro other
    by_cases here : other = id
    · simp [subscribers, here, nodes, fresh, new]
    · exact subscribers_of_nodes_eq (old other here)
  · intro other changed list member
    have here : other = id := by
      by_contra distinct
      exact changed (shape?_of_nodes_eq (old other distinct))
    simp [subscribers, here, fresh] at member
  · intro other changed list member
    have here : other = id := by
      by_contra distinct
      exact changed (digest?_of_nodes_eq (old other distinct))
    simp [subscribers, here, fresh] at member

theorem Sound.insert (sound : graph.Sound) (chunk : Chunk) : (graph.insert chunk).2.Sound :=
  sound.of_new (sound.wellFormed.insert chunk) (graph.node?_insert_key chunk) rfl (graph.node?_insert chunk)
    fun _ => rfl

theorem Sound.createProxy (sound : graph.Sound) (target : ChunkId) : (graph.createProxy target).2.Sound := by
  rcases graph.createProxy_cases target with same | ⟨live, same⟩
  · rwa [same]
  · have nodes : ∀ other, ((graph.insert .group).2.modifyNode (graph.insert .group).1 fun node =>
        { node with proxy := some target }).node? other =
          if other = (graph.insert .group).1 then some { ChunkNode.ofChunk .group with proxy := some target }
          else graph.node? other := by
      intro other
      rw [node?_modifyNode, node?_insert]
      split <;> rfl
    rw [same]
    exact sound.of_new (sound.wellFormed.createProxy live) (graph.node?_insert_key .group) rfl nodes fun _ => rfl

/-! ## Editing edges -/

theorem Sound.addChild (sound : graph.Sound) (parent child : ChunkId) : (graph.addChild parent child).2.Sound := by
  rcases graph.addChild_cases parent child with same | ⟨node, found, live, new, apart, same⟩
  · rwa [same]
  · rw [same]
    exact sound.relink (sound.wellFormed.addChild found live new apart) (fun _ => rfl) fun _ => ⟨rfl, rfl⟩

theorem Sound.removeChild (sound : graph.Sound) (parent child : ChunkId) :
    (graph.removeChild parent child).2.Sound := by
  rcases graph.removeChild_cases parent child with same | ⟨node, found, same⟩
  · rwa [same]
  · rw [same]
    exact sound.relink (sound.wellFormed.removeChild found child) (fun _ => rfl) fun _ => ⟨rfl, rfl⟩

theorem Sound.setProxy (sound : graph.Sound) (chunk : ChunkId) (target : Option ChunkId) :
    (graph.setProxy chunk target).2.Sound := by
  rcases graph.setProxy_cases chunk target with same | ⟨node, found, live, apart, same⟩
  · rwa [same]
  · rw [same]
    exact sound.relink (sound.wellFormed.setProxy found target live apart) (fun _ => rfl) fun _ => ⟨rfl, rfl⟩

end ShaderWeave.ChunkGraph
