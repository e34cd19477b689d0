import ShaderWeave.Proofs.Graph.WellFormed

/-! # Subscriptions

A chunk keeps the collections that are subscribed to it, and a collection keeps the chunks that it visited last. The two
are kept in different places and change at different times, and always say the same. Only what makes, takes out or
flattens a collection, or takes out a chunk, changes either of them.
-/

namespace ShaderWeave

theorem ChunkNode.mem_subscribe {node : ChunkNode} {id other : CollectionId} :
    other ∈ (node.subscribe id).subscribers ↔ other ∈ node.subscribers ∨ other = id := by
  unfold subscribe
  split
  · next known => exact ⟨.inl, fun member => member.elim (fun member => member) fun same => same ▸ known⟩
  · simp

theorem ChunkNode.mem_unsubscribe {node : ChunkNode} {id other : CollectionId} :
    other ∈ (node.unsubscribe id).subscribers ↔ other ∈ node.subscribers ∧ other ≠ id := by
  simp [unsubscribe]

theorem ChunkNode.nodup_subscribe {node : ChunkNode} (once : node.subscribers.Nodup) (id : CollectionId) :
    (node.subscribe id).subscribers.Nodup := by
  unfold subscribe
  split
  · exact once
  · next new => exact once.append (List.nodup_singleton id) (by simpa using new)

/-- What a collection keeps when a chunk is taken out. -/
theorem ChunkCollection.mem_forget {collection : ChunkCollection} {id other : ChunkId} :
    (other ∈ (collection.forget id).roots ↔ other ∈ collection.roots ∧ other ≠ id) ∧
      (other ∈ (collection.forget id).all ↔ other ∈ collection.all ∧ other ≠ id) ∧
      (other ∈ (collection.forget id).actives ↔ other ∈ collection.actives ∧ other ≠ id) := by
  unfold forget
  split <;> simp [invalidateList, List.mem_filter]

namespace ChunkGraph

variable {graph before middle after : ChunkGraph}

theorem mem_subscribers_iff {chunk : ChunkId} {id : CollectionId} :
    id ∈ graph.subscribers chunk ↔ ∃ node, graph.node? chunk = some node ∧ id ∈ node.subscribers := by
  cases found : graph.node? chunk <;> simp [subscribers, found]

theorem subscribers_of_found {chunk : ChunkId} {node : ChunkNode} (found : graph.node? chunk = some node) :
    graph.subscribers chunk = node.subscribers := by
  simp [subscribers, found]

theorem subscribers_of_gone {chunk : ChunkId} (gone : graph.node? chunk = none) : graph.subscribers chunk = [] := by
  simp [subscribers, gone]

theorem subscribers_of_nodes_eq {id : ChunkId} (same : after.node? id = before.node? id) :
    after.subscribers id = before.subscribers id := by
  rw [subscribers, subscribers, same]

theorem subscribers_modifyNode (graph : ChunkGraph) (id other : ChunkId) {change : ChunkNode → ChunkNode}
    (kept : ∀ node, (change node).subscribers = node.subscribers) :
    (graph.modifyNode id change).subscribers other = graph.subscribers other := by
  by_cases here : other = id
  · subst here
    cases found : graph.node? other <;> simp [subscribers, found, kept]
  · exact subscribers_of_nodes_eq (by rw [node?_modifyNode, if_neg here])

/-! ## What moves no subscription -/

/-- Subscribers and visits stay. -/
structure Unmoved (before after : ChunkGraph) : Prop where
  subscribers : ∀ chunk, after.subscribers chunk = before.subscribers chunk
  visits : ∀ id, (after.collection? id).map (·.all) = (before.collection? id).map (·.all)

theorem Unmoved.refl (graph : ChunkGraph) : Unmoved graph graph := ⟨fun _ => rfl, fun _ => rfl⟩

theorem Unmoved.trans (first : Unmoved before middle) (second : Unmoved middle after) : Unmoved before after :=
  ⟨fun chunk => (second.subscribers chunk).trans (first.subscribers chunk),
    fun id => (second.visits id).trans (first.visits id)⟩

theorem unmoved_modifyNode (id : ChunkId) {change : ChunkNode → ChunkNode}
    (kept : ∀ node, (change node).subscribers = node.subscribers) : Unmoved graph (graph.modifyNode id change) :=
  ⟨fun chunk => graph.subscribers_modifyNode id chunk kept, fun _ => rfl⟩

theorem unmoved_modifyCollection (id : CollectionId) {change : ChunkCollection → ChunkCollection}
    (kept : ∀ collection, (change collection).all = collection.all) :
    Unmoved graph (graph.modifyCollection id change) := by
  refine ⟨fun _ => rfl, fun other => ?_⟩
  rw [collection?_modifyCollection]
  split
  · cases graph.collection? other <;> simp [kept]
  · rfl

theorem unmoved_markLists (ids : List CollectionId) : Unmoved graph (graph.markLists ids) := by
  refine ⟨fun _ => rfl, fun id => ?_⟩
  rw [collection?_markLists]
  cases graph.collection? id with
  | none => rfl
  | some collection =>
    rw [Option.map_some, Option.map_some, Option.map_some]
    split <;> rfl

theorem unmoved_markCodes (ids : List CollectionId) : Unmoved graph (graph.markCodes ids) := by
  refine ⟨fun _ => rfl, fun id => ?_⟩
  rw [collection?_markCodes]
  cases graph.collection? id with
  | none => rfl
  | some collection =>
    rw [Option.map_some, Option.map_some, Option.map_some]
    split <;> rfl

/-- A new chunk has no subscribers, like the key that it gets. -/
theorem unmoved_insert (chunk : Chunk) : Unmoved graph (graph.insert chunk).2 := by
  refine ⟨fun other => ?_, fun _ => rfl⟩
  by_cases here : other = (graph.insert chunk).1
  · rw [here, subscribers_of_gone (graph.node?_insert_key chunk)]
    simp [subscribers, node?_insert, ChunkNode.ofChunk]
  · exact subscribers_of_nodes_eq (by rw [node?_insert, if_neg here])

/-! ## Both sides agree -/

/-- The subscribers of a chunk are the live collections that visited it. -/
def Mirrored (graph : ChunkGraph) : Prop :=
  ∀ chunk id, id ∈ graph.subscribers chunk ↔
    ∃ collection, graph.collection? id = some collection ∧ chunk ∈ collection.all

theorem mirrored_empty : empty.Mirrored := by
  intro chunk id
  simp [subscribers]

theorem Mirrored.of_unmoved (mirrored : before.Mirrored) (unmoved : Unmoved before after) : after.Mirrored := by
  intro chunk id
  have visited : ∀ graph : ChunkGraph, (∃ collection, graph.collection? id = some collection ∧ chunk ∈ collection.all) ↔
      ∃ all, (graph.collection? id).map (·.all) = some all ∧ chunk ∈ all := by
    simp
  rw [unmoved.subscribers, mirrored, visited before, visited after, unmoved.visits]

theorem Mirrored.visited_iff (mirrored : graph.Mirrored) {id : CollectionId} {collection : ChunkCollection}
    (found : graph.collection? id = some collection) (chunk : ChunkId) :
    id ∈ graph.subscribers chunk ↔ chunk ∈ collection.all := by
  simp [mirrored chunk id, found]

/-- A new collection visited nothing. -/
theorem Mirrored.createCollection (mirrored : graph.Mirrored) : graph.createCollection.2.Mirrored := by
  intro chunk id
  have same : graph.createCollection.2.subscribers chunk = graph.subscribers chunk := rfl
  rw [same, mirrored, collection?_createCollection]
  split
  · next new => simp [new, collection?_createCollection_key]
  · rfl

theorem Mirrored.removeCollection (mirrored : graph.Mirrored) {rest : ChunkGraph} {id : CollectionId}
    {collection : ChunkCollection} (removed : graph.removeCollection id = some (collection, rest)) : rest.Mirrored := by
  obtain ⟨found, collections, nodes⟩ := removeCollection_cases removed
  intro chunk other
  have subscribed : other ∈ rest.subscribers chunk ↔ other ≠ id ∧ other ∈ graph.subscribers chunk := by
    have visited_iff := mirrored.visited_iff found chunk
    simp only [mem_subscribers_iff, nodes] at visited_iff ⊢
    cases live : graph.node? chunk with
    | none => simp
    | some node =>
      simp only [live, Option.some.injEq, exists_eq_left', Option.map_some] at visited_iff ⊢
      by_cases visited : chunk ∈ collection.all
      · simp [visited, ChunkNode.mem_unsubscribe, and_comm]
      · simp only [visited, if_false]
        refine ⟨fun member => ⟨?_, member⟩, And.right⟩
        rintro rfl
        exact visited (visited_iff.1 member)
  rw [subscribed, mirrored, collections]
  by_cases here : other = id <;> simp [here]

theorem Mirrored.remove (mirrored : graph.Mirrored) {rest : ChunkGraph} {id : ChunkId} {chunk : Chunk}
    (removed : graph.remove id = some (chunk, rest)) : rest.Mirrored := by
  obtain ⟨node, marked, found, rfl, nodes, collections, -⟩ := remove_cases removed
  intro other visitor
  have subscribed : visitor ∈ rest.subscribers other ↔ visitor ∈ graph.subscribers other ∧ other ≠ id := by
    simp only [mem_subscribers_iff, nodes]
    by_cases here : other = id
    · simp [here]
    · simp [here, ChunkNode.detach]
  have kept : ∀ collection : ChunkCollection,
      (if visitor ∈ marked then (collection.forget id).invalidateList else collection.forget id).all =
        (collection.forget id).all := by
    intro collection
    split <;> rfl
  rw [subscribed, mirrored, collections]
  simp only [Option.map_eq_some_iff, exists_exists_and_eq_and, kept, ChunkCollection.mem_forget.2.1, ← and_assoc,
    exists_and_right]

/-- The collection is subscribed to what it visits now, and to nothing that it visited only before. -/
theorem Mirrored.rebuild (mirrored : graph.Mirrored) {id : CollectionId} {collection : ChunkCollection}
    (found : graph.collection? id = some collection) : (graph.rebuild id collection).Mirrored := by
  intro chunk other
  have subscribed : other ∈ (graph.rebuild id collection).subscribers chunk ↔
      if other = id then chunk ∈ (graph.flattenAll collection.roots).all else other ∈ graph.subscribers chunk := by
    have visited_iff := mirrored.visited_iff found chunk
    simp only [mem_subscribers_iff, node?_rebuild] at visited_iff ⊢
    cases live : graph.node? chunk with
    | none =>
      have gone : chunk ∉ (graph.flattenAll collection.roots).all := fun member => by
        simpa [live] using live_of_mem_flattenAll member
      simp [gone]
    | some node =>
      simp only [live, Option.some.injEq, exists_eq_left', Option.map_some] at visited_iff ⊢
      by_cases now : chunk ∈ (graph.flattenAll collection.roots).all
      · by_cases here : other = id <;> simp [now, here, ChunkNode.mem_subscribe]
      · by_cases before : chunk ∈ collection.all
        · by_cases here : other = id <;> simp [now, before, here, ChunkNode.mem_unsubscribe]
        · by_cases here : other = id
          · simp [now, before, here, visited_iff]
          · simp [now, before, here]
  rw [subscribed, collection?_rebuild]
  split
  · next here => simp [here, found]
  · rw [mirrored]

/-! ## No subscription is kept twice -/

def SubscribedOnce (graph : ChunkGraph) : Prop := ∀ chunk, (graph.subscribers chunk).Nodup

theorem subscribedOnce_empty : empty.SubscribedOnce := by
  intro chunk
  simp [subscribers]

theorem SubscribedOnce.of_unmoved (once : before.SubscribedOnce) (unmoved : Unmoved before after) :
    after.SubscribedOnce := by
  intro chunk
  rw [unmoved.subscribers]
  exact once chunk

/-- Chunks stay or go, and their subscriptions are mended in a way that repeats none. -/
theorem SubscribedOnce.of_nodes (once : before.SubscribedOnce) (change : ChunkId → ChunkNode → ChunkNode)
    (kept : ∀ chunk node, node.subscribers.Nodup → (change chunk node).subscribers.Nodup)
    (nodes : ∀ chunk, after.node? chunk = none ∨ after.node? chunk = (before.node? chunk).map (change chunk)) :
    after.SubscribedOnce := by
  intro chunk
  rcases nodes chunk with gone | mended
  · rw [subscribers_of_gone gone]
    exact List.nodup_nil
  · cases found : before.node? chunk with
    | none =>
      rw [subscribers_of_gone (by rw [mended, found]; rfl)]
      exact List.nodup_nil
    | some node =>
      rw [subscribers_of_found (by rw [mended, found]; rfl)]
      exact kept chunk node (subscribers_of_found found ▸ once chunk)

theorem SubscribedOnce.removeCollection (once : graph.SubscribedOnce) {rest : ChunkGraph} {id : CollectionId}
    {collection : ChunkCollection} (removed : graph.removeCollection id = some (collection, rest)) :
    rest.SubscribedOnce := by
  obtain ⟨-, -, nodes⟩ := removeCollection_cases removed
  refine once.of_nodes _ (fun chunk node once => ?_) fun chunk => .inr (nodes chunk)
  split
  · exact once.filter _
  · exact once

theorem SubscribedOnce.remove (once : graph.SubscribedOnce) {rest : ChunkGraph} {id : ChunkId} {chunk : Chunk}
    (removed : graph.remove id = some (chunk, rest)) : rest.SubscribedOnce := by
  obtain ⟨-, -, -, -, nodes, -⟩ := remove_cases removed
  refine once.of_nodes (fun _ => (·.detach id)) (fun _ _ once => once) fun other => ?_
  rw [nodes]
  split
  · exact .inl rfl
  · exact .inr rfl

theorem SubscribedOnce.rebuild (once : graph.SubscribedOnce) (id : CollectionId) (collection : ChunkCollection) :
    (graph.rebuild id collection).SubscribedOnce := by
  refine once.of_nodes _ (fun chunk node once => ?_) fun chunk => .inr (graph.node?_rebuild id collection chunk)
  split
  · exact node.nodup_subscribe once id
  · split
    · exact once.filter _
    · exact once

end ChunkGraph

end ShaderWeave
