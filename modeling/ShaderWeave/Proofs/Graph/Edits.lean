import ShaderWeave.Collection
import ShaderWeave.Proofs.Arena

/-! # What edits do to a graph

A graph is observed through its live nodes and its live collections. Each primitive edit has one equation for either
view; what removes something also tells what was there.
-/

namespace ShaderWeave

namespace ChunkGraph

variable (graph : ChunkGraph)

/-! ## Nodes -/

@[simp] theorem node?_empty (id : ChunkId) : empty.node? id = none := Arena.get?_empty id

@[simp] theorem node?_modifyNode (id other : ChunkId) (change : ChunkNode → ChunkNode) :
    (graph.modifyNode id change).node? other =
      if other = id then (graph.node? other).map change else graph.node? other :=
  graph.nodes.get?_modify id other change

@[simp] theorem node?_markLists (ids : List CollectionId) (id : ChunkId) :
    (graph.markLists ids).node? id = graph.node? id := rfl

@[simp] theorem node?_invalidateList (id other : ChunkId) :
    (graph.invalidateList id).node? other = graph.node? other := rfl

@[simp] theorem node?_invalidateCode (id other : ChunkId) :
    (graph.invalidateCode id).node? other = graph.node? other := rfl

@[simp] theorem node?_createCollection (id : ChunkId) : graph.createCollection.2.node? id = graph.node? id := rfl

theorem node?_insert (chunk : Chunk) (id : ChunkId) :
    (graph.insert chunk).2.node? id =
      if id = (graph.insert chunk).1 then some (.ofChunk chunk) else graph.node? id := by
  by_cases new : id = (graph.insert chunk).1
  · subst new
    rw [if_pos rfl]
    exact graph.nodes.get?_insert_self (.ofChunk chunk)
  · rw [if_neg new]
    exact graph.nodes.get?_insert_of_ne (.ofChunk chunk) new

/-- The key of a new chunk names nothing before. -/
theorem node?_insert_key (chunk : Chunk) : graph.node? (graph.insert chunk).1 = none :=
  graph.nodes.get?_insert_key (.ofChunk chunk)

theorem node?_rebuild (id : CollectionId) (collection : ChunkCollection) (other : ChunkId) :
    (graph.rebuild id collection).node? other = (graph.node? other).map fun node =>
      if other ∈ (graph.flattenAll collection.roots).all then node.subscribe id
      else if other ∈ collection.all then node.unsubscribe id
      else node := by
  simp only [rebuild, node?, Arena.get?_mapEntries]

/-! ## Collections -/

@[simp] theorem collection?_empty (id : CollectionId) : empty.collection? id = none := Arena.get?_empty id

@[simp] theorem collection?_modifyNode (id : ChunkId) (change : ChunkNode → ChunkNode) (other : CollectionId) :
    (graph.modifyNode id change).collection? other = graph.collection? other := rfl

theorem collection?_markLists (ids : List CollectionId) (id : CollectionId) :
    (graph.markLists ids).collection? id =
      (graph.collection? id).map fun collection => if id ∈ ids then collection.invalidateList else collection := by
  simp only [markLists, collection?, Arena.get?_mapEntries]

theorem collection?_markCodes (ids : List CollectionId) (id : CollectionId) :
    (graph.markCodes ids).collection? id =
      (graph.collection? id).map fun collection => if id ∈ ids then collection.invalidateCode else collection := by
  simp only [markCodes, collection?, Arena.get?_mapEntries]

theorem collection?_modifyCollection (id : CollectionId) (change : ChunkCollection → ChunkCollection)
    (other : CollectionId) :
    (graph.modifyCollection id change).collection? other =
      if other = id then (graph.collection? other).map change else graph.collection? other :=
  graph.collections.get?_modify id other change

theorem collection?_createCollection (id : CollectionId) :
    graph.createCollection.2.collection? id =
      if id = graph.createCollection.1 then some {} else graph.collection? id := by
  by_cases new : id = graph.createCollection.1
  · subst new
    rw [if_pos rfl]
    exact graph.collections.get?_insert_self {}
  · rw [if_neg new]
    exact graph.collections.get?_insert_of_ne {} new

theorem collection?_createCollection_key : graph.collection? graph.createCollection.1 = none :=
  graph.collections.get?_insert_key {}

/-- A new collection gets a live chunk as its root. -/
theorem addRoot_createCollection {root : ChunkId} {node : ChunkNode} (live : graph.node? root = some node) :
    (graph.createCollection.2.addRoot graph.createCollection.1 root).2.nodes = graph.nodes ∧
      (graph.createCollection.2.addRoot graph.createCollection.1 root).2.collection? graph.createCollection.1 =
        some (({} : ChunkCollection).withRoots [root]) := by
  have known : graph.createCollection.2.collection? graph.createCollection.1 = some {} := by
    rw [collection?_createCollection, if_pos rfl]
  have added : (graph.createCollection.2.addRoot graph.createCollection.1 root).2 =
      graph.createCollection.2.modifyCollection graph.createCollection.1 fun content =>
        content.withRoots (content.roots ++ [root]) := by
    rw [addRoot, node?_createCollection, live, known]
    rfl
  rw [added]
  refine ⟨rfl, ?_⟩
  rw [collection?_modifyCollection, if_pos rfl, known]
  rfl

theorem collection?_rebuild (id : CollectionId) (collection : ChunkCollection) (other : CollectionId) :
    (graph.rebuild id collection).collection? other =
      if other = id then (graph.collection? other).map fun _ =>
        { collection with
          all := (graph.flattenAll collection.roots).all
          actives := (graph.flattenAll collection.roots).actives
          listDirty := false
          codeDirty := true }
      else graph.collection? other :=
  graph.collections.get?_modify id other _

/-! ## Edits that may fail -/

/-- The only chunk that changes is the parent, and only if the new edge closes no cycle. -/
theorem addChild_cases (parent child : ChunkId) :
    (graph.addChild parent child).2 = graph ∨
      ∃ node, graph.node? parent = some node ∧ (graph.node? child).isSome ∧ child ∉ node.children ∧
        graph.reaches child parent = false ∧
        (graph.addChild parent child).2 =
          (graph.modifyNode parent fun node => { node with children := node.children ++ [child] }).invalidateList
            parent := by
  unfold addChild
  split
  · exact .inl rfl
  · exact .inl rfl
  · next _ node live found =>
    split
    · exact .inl rfl
    · next new =>
      split
      · exact .inl rfl
      · next apart => exact .inr ⟨node, found, by simp [live], new, by simpa using apart, rfl⟩

theorem removeChild_cases (parent child : ChunkId) :
    (graph.removeChild parent child).2 = graph ∨
      ∃ node, graph.node? parent = some node ∧
        (graph.removeChild parent child).2 =
          (graph.modifyNode parent fun node => { node with children := node.children.erase child }).invalidateList
            parent := by
  unfold removeChild
  split
  · exact .inl rfl
  · next node found => exact .inr ⟨node, found, rfl⟩

theorem setProxy_cases (chunk : ChunkId) (target : Option ChunkId) :
    (graph.setProxy chunk target).2 = graph ∨
      ∃ node, graph.node? chunk = some node ∧ (∀ goal, target = some goal → (graph.node? goal).isSome) ∧
        (∀ goal, target = some goal → graph.reaches goal chunk = false) ∧
        (graph.setProxy chunk target).2 =
          (graph.modifyNode chunk fun node => { node with proxy := target }).invalidateList chunk := by
  unfold setProxy
  split
  · exact .inl rfl
  · next node found =>
    split
    · exact .inl rfl
    · cases target with
      | none => exact .inr ⟨node, found, by simp, by simp, rfl⟩
      | some goal =>
        dsimp only
        split
        · exact .inl rfl
        · next live =>
          split
          · exact .inl rfl
          · next apart =>
            have alive : graph.contains goal = true := by simpa using live
            refine .inr ⟨node, found, ?_, by simpa using apart, rfl⟩
            rintro _ ⟨⟩
            exact alive

theorem createProxy_cases (target : ChunkId) :
    (graph.createProxy target).2 = graph ∨
      (graph.node? target).isSome ∧
        (graph.createProxy target).2 =
          (graph.insert .group).2.modifyNode (graph.insert .group).1 fun node => { node with proxy := some target } := by
  unfold createProxy
  split
  · exact .inl rfl
  · next found => exact .inr ⟨by simp [found], rfl⟩

theorem addRoot_cases (id : CollectionId) (root : ChunkId) :
    (graph.addRoot id root).2 = graph ∨
      (graph.node? root).isSome ∧
        (graph.addRoot id root).2 =
          graph.modifyCollection id fun collection => collection.withRoots (collection.roots ++ [root]) := by
  unfold addRoot
  split
  · exact .inl rfl
  · exact .inl rfl
  · next live _ =>
    split
    · exact .inl rfl
    · exact .inr ⟨by simp [live], rfl⟩

theorem removeRoot_cases (id : CollectionId) (root : ChunkId) :
    (graph.removeRoot id root).2 = graph ∨
      (graph.removeRoot id root).2 =
        graph.modifyCollection id fun collection => collection.withRoots (collection.roots.filter (· ≠ root)) := by
  unfold removeRoot
  split
  · exact .inl rfl
  · split
    · exact .inr rfl
    · exact .inl rfl

/-! ## Removal -/

variable {graph}

theorem removeCollection_cases {rest : ChunkGraph} {id : CollectionId} {collection : ChunkCollection}
    (removed : graph.removeCollection id = some (collection, rest)) :
    graph.collection? id = some collection ∧
      (∀ other, rest.collection? other = if other = id then none else graph.collection? other) ∧
      ∀ chunk, rest.node? chunk =
        (graph.node? chunk).map fun node => if chunk ∈ collection.all then node.unsubscribe id else node := by
  unfold removeCollection at removed
  split at removed
  · simp at removed
  · next gone collections taken =>
    simp only [Option.some.injEq, Prod.mk.injEq] at removed
    obtain ⟨rfl, rfl⟩ := removed
    obtain ⟨found, others⟩ := Arena.get?_of_remove taken
    exact ⟨found, others, fun chunk => Arena.get?_mapEntries ..⟩

/-- Removing a chunk detaches what is left from it. Beside the collections that had the chunk, those are marked that
visited a chunk which loses an edge. -/
theorem remove_cases {rest : ChunkGraph} {id : ChunkId} {chunk : Chunk}
    (removed : graph.remove id = some (chunk, rest)) :
    ∃ (node : ChunkNode) (marked : List CollectionId), graph.node? id = some node ∧ chunk = node.chunk ∧
      (∀ other, rest.node? other = if other = id then none else (graph.node? other).map (·.detach id)) ∧
      (∀ other, rest.collection? other = (graph.collection? other).map fun collection =>
        if other ∈ marked then (collection.forget id).invalidateList else collection.forget id) ∧
      ∀ other, other ∈ marked ↔ other ∈ node.subscribers ∨
        ∃ key linked, key ≠ id ∧ graph.node? key = some linked ∧ linked.links id = true ∧
          other ∈ linked.subscribers := by
  unfold remove at removed
  split at removed
  · simp at removed
  · next node nodes taken =>
    simp only [Option.some.injEq, Prod.mk.injEq] at removed
    obtain ⟨rfl, rfl⟩ := removed
    obtain ⟨found, others⟩ := Arena.get?_of_remove taken
    refine ⟨node, node.subscribers ++
      (nodes.entries.filter fun entry => entry.2.links id).flatMap fun entry => entry.2.subscribers,
      found, rfl, ?_, ?_, ?_⟩
    · intro other
      rw [node?_markLists, node?, Arena.get?_mapEntries, others other]
      split <;> rfl
    · intro other
      rw [collection?_markLists]
      simp only [collection?, Arena.get?_mapEntries, Option.map_map]
      rfl
    · intro other
      simp only [List.mem_append, List.mem_flatMap, List.mem_filter, Prod.exists, Arena.mem_entries_iff, others]
      refine or_congr_right ⟨?_, ?_⟩
      · rintro ⟨key, linked, ⟨held, links⟩, member⟩
        split at held
        · simp at held
        · next other => exact ⟨key, linked, other, held, links, member⟩
      · rintro ⟨key, linked, apart, held, links, member⟩
        exact ⟨key, linked, ⟨by rw [if_neg apart]; exact held, links⟩, member⟩

theorem remove_eq_none_iff {id : ChunkId} : graph.remove id = none ↔ graph.node? id = none := by
  rw [node?, ← Arena.remove_eq_none_iff]
  unfold remove
  split <;> simp_all

end ChunkGraph

end ShaderWeave
