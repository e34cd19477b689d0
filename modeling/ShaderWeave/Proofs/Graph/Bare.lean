import ShaderWeave.Proofs.Graph.WellFormed

/-! # Graphs without bookkeeping

Edits read chunks, edges and roots. Subscriptions, marks, pending values and whatever a refresh stored are
bookkeeping: graphs that agree on the rest still agree after the same edit, and a refresh changes nothing else.
-/

namespace ShaderWeave

def ChunkNode.bare (node : ChunkNode) : ChunkNode := { node with subscribers := [], pending := true }

def ChunkCollection.bare (collection : ChunkCollection) : ChunkCollection := { roots := collection.roots }

namespace ChunkGraph

/-- The graph as if no collection had ever been refreshed. -/
def bare (graph : ChunkGraph) : ChunkGraph where
  nodes := graph.nodes.mapEntries fun _ node => node.bare
  collections := graph.collections.mapEntries fun _ collection => collection.bare

variable {graph first second : ChunkGraph}

@[simp] theorem node?_bare (id : ChunkId) : graph.bare.node? id = (graph.node? id).map (·.bare) :=
  Arena.get?_mapEntries ..

@[simp] theorem collection?_bare (id : CollectionId) :
    graph.bare.collection? id = (graph.collection? id).map (·.bare) :=
  Arena.get?_mapEntries ..

theorem bare_bare : graph.bare.bare = graph.bare := by
  simp only [bare, Arena.mapEntries_mapEntries]
  rfl

/-! ## What edits and answers read -/

theorem shape?_bare (id : ChunkId) : graph.bare.shape? id = graph.shape? id := by
  rw [shape?, shape?, node?_bare, Option.map_map]
  rfl

theorem node?_of_bare (same : first.bare = second.bare) (id : ChunkId) :
    (first.node? id).map (·.bare) = (second.node? id).map (·.bare) := by
  rw [← node?_bare, same, node?_bare]

theorem shape?_of_bare (same : first.bare = second.bare) (id : ChunkId) : first.shape? id = second.shape? id := by
  rw [← shape?_bare, same, shape?_bare]

theorem edge_bare : graph.bare.Edge = graph.Edge := by
  funext source target
  rw [edge_iff_shape, edge_iff_shape]
  simp only [shape?_bare]

theorem reaches_bare (root needle : ChunkId) : graph.bare.reaches root needle = graph.reaches root needle := by
  rw [Bool.eq_iff_iff, reaches_iff, reaches_iff, edge_bare]

theorem contains_bare (id : ChunkId) : graph.bare.contains id = graph.contains id := by
  change (graph.bare.node? id).isSome = (graph.node? id).isSome
  rw [node?_bare, Option.isSome_map]

theorem nodesOf_bare (actives : List ChunkId) :
    graph.bare.nodesOf actives = (graph.nodesOf actives).map ChunkNode.bare := by
  simp only [nodesOf, List.map_filterMap, node?_bare]

theorem joinedHash_bare (actives : List ChunkId) : graph.bare.joinedHash actives = graph.joinedHash actives := by
  rw [joinedHash, joinedHash, nodesOf_bare, List.filter_map, List.map_map]
  rfl

theorem generateAll_bare (stamp : String) (actives : List ChunkId) :
    graph.bare.generateAll stamp actives = graph.generateAll stamp actives := by
  rw [generateAll, generateAll, nodesOf_bare, List.filter_map, List.foldlM_map]
  rfl

/-! ## Bookkeeping -/

theorem bare_markLists (ids : List CollectionId) : (graph.markLists ids).bare = graph.bare := by
  simp only [bare, markLists, Arena.mapEntries_mapEntries]
  congr 2
  funext id collection
  split <;> rfl

theorem bare_markCodes (ids : List CollectionId) : (graph.markCodes ids).bare = graph.bare := by
  simp only [bare, markCodes, Arena.mapEntries_mapEntries]
  congr 2
  funext id collection
  split <;> rfl

theorem bare_invalidateList (id : ChunkId) : (graph.invalidateList id).bare = graph.bare := bare_markLists _

theorem bare_invalidateCode (id : ChunkId) : (graph.invalidateCode id).bare = graph.bare := bare_markCodes _

theorem bare_modifyNode_of_same (id : ChunkId) {change : ChunkNode → ChunkNode}
    (same : ∀ node, (change node).bare = node.bare) : (graph.modifyNode id change).bare = graph.bare := by
  simp only [bare, modifyNode, Arena.modify, Arena.mapEntries_mapEntries]
  congr 2
  funext other node
  split
  · exact same node
  · rfl

theorem bare_modifyCollection_of_same (id : CollectionId) {change : ChunkCollection → ChunkCollection}
    (same : ∀ collection, (change collection).roots = collection.roots) :
    (graph.modifyCollection id change).bare = graph.bare := by
  simp only [bare, modifyCollection, Arena.modify, Arena.mapEntries_mapEntries]
  congr 2
  funext other collection
  split
  · exact congrArg (fun roots => ({ roots := roots } : ChunkCollection)) (same collection)
  · rfl

private theorem bare_unsubscribe_ite (visited : Prop) [Decidable visited] (node : ChunkNode) (id : CollectionId) :
    (if visited then node.unsubscribe id else node).bare = node.bare := by
  split <;> rfl

theorem bare_rebuild {id : CollectionId} {collection : ChunkCollection}
    (found : graph.collection? id = some collection) : (graph.rebuild id collection).bare = graph.bare := by
  simp only [bare, rebuild, Arena.set, Arena.modify, Arena.mapEntries_mapEntries]
  congr 1
  · congr 1
    funext key node
    split
    · unfold ChunkNode.subscribe
      split <;> rfl
    · exact bare_unsubscribe_ite ..
  · apply Arena.mapEntries_congr
    intro other stored held
    split
    · next here =>
      cases found.symm.trans (here ▸ held)
      rfl
    · rfl

/-! ## Edits -/

theorem bare_modifyNode (id : ChunkId) {change : ChunkNode → ChunkNode}
    (commutes : ∀ node, (change node).bare = (change node.bare).bare) :
    (graph.modifyNode id change).bare = (graph.bare.modifyNode id change).bare := by
  simp only [bare, modifyNode, Arena.modify, Arena.mapEntries_mapEntries]
  congr 2
  funext other node
  split
  · exact commutes node
  · rfl

theorem bare_modifyCollection (id : CollectionId) {change : ChunkCollection → ChunkCollection}
    (commutes : ∀ collection, (change collection).bare = (change collection.bare).bare) :
    (graph.modifyCollection id change).bare = (graph.bare.modifyCollection id change).bare := by
  simp only [bare, modifyCollection, Arena.modify, Arena.mapEntries_mapEntries]
  congr 2
  funext other collection
  split
  · exact commutes collection
  · rfl

theorem insert_bare (chunk : Chunk) :
    graph.bare.insert chunk = ((graph.insert chunk).1, (graph.insert chunk).2.bare) := by
  have nodes := graph.nodes.insert_mapEntries ChunkNode.bare (.ofChunk chunk)
  have same : (ChunkNode.ofChunk chunk).bare = ChunkNode.ofChunk chunk := rfl
  rw [same] at nodes
  simp only [insert, bare, nodes]

theorem createCollection_bare :
    graph.bare.createCollection = (graph.createCollection.1, graph.createCollection.2.bare) := by
  have collections := graph.collections.insert_mapEntries ChunkCollection.bare {}
  have same : ({} : ChunkCollection).bare = {} := rfl
  rw [same] at collections
  simp only [createCollection, bare, collections]

theorem bare_addChild (parent child : ChunkId) :
    (graph.addChild parent child).2.bare = (graph.bare.addChild parent child).2.bare := by
  unfold addChild
  simp only [node?_bare, reaches_bare]
  cases graph.node? child with
  | none => exact bare_bare.symm
  | some _ =>
    cases graph.node? parent with
    | none => exact bare_bare.symm
    | some node =>
      simp only [Option.map_some, ChunkNode.bare]
      split
      · exact bare_bare.symm
      · split
        · exact bare_bare.symm
        · rw [bare_invalidateList, bare_invalidateList]
          exact bare_modifyNode parent fun _ => rfl

theorem bare_removeChild (parent child : ChunkId) :
    (graph.removeChild parent child).2.bare = (graph.bare.removeChild parent child).2.bare := by
  unfold removeChild
  simp only [node?_bare]
  cases graph.node? parent with
  | none => exact bare_bare.symm
  | some node =>
    simp only [Option.map_some]
    rw [bare_invalidateList, bare_invalidateList]
    exact bare_modifyNode parent fun _ => rfl

theorem bare_setProxy (chunk : ChunkId) (target : Option ChunkId) :
    (graph.setProxy chunk target).2.bare = (graph.bare.setProxy chunk target).2.bare := by
  have linked : ((graph.modifyNode chunk fun node => { node with proxy := target }).invalidateList chunk).bare =
      ((graph.bare.modifyNode chunk fun node => { node with proxy := target }).invalidateList chunk).bare := by
    rw [bare_invalidateList, bare_invalidateList]
    exact bare_modifyNode chunk fun _ => rfl
  unfold setProxy
  simp only [node?_bare, contains_bare, reaches_bare]
  cases graph.node? chunk with
  | none => exact bare_bare.symm
  | some node =>
    simp only [Option.map_some, ChunkNode.bare]
    split
    · exact bare_bare.symm
    · cases target with
      | none => exact linked
      | some goal =>
        dsimp only
        split
        · exact bare_bare.symm
        · split
          · exact bare_bare.symm
          · exact linked

theorem bare_createProxy (target : ChunkId) :
    (graph.createProxy target).2.bare = (graph.bare.createProxy target).2.bare := by
  unfold createProxy
  simp only [node?_bare]
  cases graph.node? target with
  | none => exact bare_bare.symm
  | some _ =>
    simp only [Option.map_some, insert_bare]
    exact bare_modifyNode _ fun _ => rfl

theorem bare_addRoot (id : CollectionId) (root : ChunkId) :
    (graph.addRoot id root).2.bare = (graph.bare.addRoot id root).2.bare := by
  unfold addRoot
  simp only [node?_bare, collection?_bare]
  cases graph.node? root with
  | none => exact bare_bare.symm
  | some _ =>
    cases graph.collection? id with
    | none => exact bare_bare.symm
    | some collection =>
      simp only [Option.map_some, ChunkCollection.bare]
      split
      · exact bare_bare.symm
      · exact bare_modifyCollection id fun _ => rfl

theorem bare_removeRoot (id : CollectionId) (root : ChunkId) :
    (graph.removeRoot id root).2.bare = (graph.bare.removeRoot id root).2.bare := by
  unfold removeRoot
  simp only [collection?_bare]
  cases graph.collection? id with
  | none => exact bare_bare.symm
  | some collection =>
    simp only [Option.map_some, ChunkCollection.bare]
    split
    · exact bare_modifyCollection id fun _ => rfl
    · exact bare_bare.symm

private theorem bare_forget (collection : ChunkCollection) (id : ChunkId) :
    (collection.forget id).bare = collection.bare.forget id := by
  unfold ChunkCollection.forget
  split <;> split <;> rfl

theorem bare_remove (id : ChunkId) :
    (graph.bare.remove id).map (·.2.bare) = (graph.remove id).map (·.2.bare) := by
  unfold remove
  have nodes : graph.bare.nodes.remove id =
      (graph.nodes.remove id).map fun taken => (taken.1.bare, taken.2.mapEntries fun _ node => node.bare) :=
    graph.nodes.remove_mapEntries (fun _ node => node.bare) id
  rw [nodes]
  cases graph.nodes.remove id with
  | none => rfl
  | some taken =>
    simp only [Option.map_some, bare_markLists]
    simp only [bare, Arena.mapEntries_mapEntries, bare_forget]
    rfl

theorem bare_removeCollection (id : CollectionId) :
    (graph.bare.removeCollection id).map (·.2.bare) = (graph.removeCollection id).map (·.2.bare) := by
  unfold removeCollection
  have collections : graph.bare.collections.remove id = (graph.collections.remove id).map fun taken =>
      (taken.1.bare, taken.2.mapEntries fun _ collection => collection.bare) :=
    graph.collections.remove_mapEntries (fun _ collection => collection.bare) id
  rw [collections]
  cases graph.collections.remove id with
  | none => rfl
  | some taken =>
    simp only [Option.map_some, bare, Arena.mapEntries_mapEntries, bare_unsubscribe_ite]
    rfl

end ChunkGraph

end ShaderWeave
