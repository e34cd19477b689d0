import ShaderWeave.Proofs.Collection.Listing

/-! # Stored hashes along runs

A state may change without a mark, and then a stored hash is that of an earlier state. It still tells something: what
a chunk takes part in is read once, so a hash that is stored without a mark is empty if no active chunk has code.
-/

namespace ShaderWeave

namespace ChunkGraph

variable {graph before middle after : ChunkGraph}

/-- A chunk with code is there. -/
def Codes (graph : ChunkGraph) (id : ChunkId) : Prop :=
  ∃ node, graph.node? id = some node ∧ node.caps.code = true

/-- A hash that is not empty comes from a chunk with code. -/
theorem exists_codes_of_joinedHash {actives : List ChunkId} (filled : graph.joinedHash actives ≠ "") :
    ∃ id ∈ actives, graph.Codes id := by
  obtain ⟨node, member⟩ : ∃ node, node ∈ (graph.nodesOf actives).filter (·.caps.code) := by
    apply List.exists_mem_of_ne_nil
    intro none
    exact filled (by rw [joinedHash, none]; rfl)
  obtain ⟨listed, code⟩ := List.mem_filter.1 member
  obtain ⟨id, active, found⟩ := List.mem_filterMap.1 listed
  exact ⟨id, active, node, found, code⟩

/-! ## What most steps retain -/

/-- Chunks with code stay, and a collection without a mark is as it was. -/
structure Retains (before after : ChunkGraph) : Prop where
  codes : ∀ id, before.Codes id → after.Codes id
  stored : ∀ id collection, after.collection? id = some collection → collection.codeDirty = false →
    before.collection? id = some collection

theorem Retains.refl (graph : ChunkGraph) : Retains graph graph := ⟨fun _ => id, fun _ _ found _ => found⟩

theorem Retains.trans (first : Retains before middle) (second : Retains middle after) : Retains before after where
  codes id codes := second.codes id (first.codes id codes)
  stored id collection found clean := first.stored id collection (second.stored id collection found clean) clean

/-- Chunks with code stay if nodes change in other ways only. -/
private theorem codes_of_nodes (change : ChunkId → ChunkNode → ChunkNode)
    (caps : ∀ id node, (change id node).caps = node.caps)
    (nodes : ∀ id, after.node? id = (before.node? id).map (change id)) (id : ChunkId) (codes : before.Codes id) :
    after.Codes id := by
  obtain ⟨node, found, code⟩ := codes
  exact ⟨change id node, by rw [nodes, found]; rfl, by rw [caps, code]⟩

/-- A collection is marked or left alone. -/
private theorem stored_of_marks {id : CollectionId} {collection : ChunkCollection}
    {change : ChunkCollection → ChunkCollection} {marks : Prop} [Decidable marks]
    (marked : ∀ collection, (change collection).codeDirty = true)
    (found : ((before.collection? id).map fun collection => if marks then change collection else collection) =
      some collection) (clean : collection.codeDirty = false) : before.collection? id = some collection := by
  obtain ⟨old, held, rfl⟩ := Option.map_eq_some_iff.1 found
  split at clean
  · cases (marked old).symm.trans clean
  · next spared => rw [held, if_neg spared]

theorem retains_modifyNode (id : ChunkId) {change : ChunkNode → ChunkNode}
    (caps : ∀ node, (change node).caps = node.caps) : Retains graph (graph.modifyNode id change) where
  codes := codes_of_nodes (fun other node => if other = id then change node else node)
    (fun other node => by split <;> simp [caps]) fun other => by
      rw [node?_modifyNode]
      split
      · rfl
      · exact Option.map_id'.symm
  stored _ _ found _ := found

theorem retains_setChunk (id : ChunkId) (chunk : Chunk) : Retains graph (graph.setChunk id chunk) :=
  retains_modifyNode id fun _ => rfl

theorem retains_markLists (ids : List CollectionId) : Retains graph (graph.markLists ids) where
  codes _ codes := codes
  stored id _ found := stored_of_marks (fun _ => rfl) (collection?_markLists graph ids id ▸ found)

theorem retains_markCodes (ids : List CollectionId) : Retains graph (graph.markCodes ids) where
  codes _ codes := codes
  stored id _ found := stored_of_marks (fun _ => rfl) (collection?_markCodes graph ids id ▸ found)

theorem retains_relink (id : ChunkId) {change : ChunkNode → ChunkNode} (caps : ∀ node, (change node).caps = node.caps) :
    Retains graph ((graph.modifyNode id change).invalidateList id) :=
  (retains_modifyNode id caps).trans (retains_markLists _)

theorem retains_insert (chunk : Chunk) : Retains graph (graph.insert chunk).2 where
  codes id codes := by
    obtain ⟨node, found, code⟩ := codes
    have apart : id ≠ (graph.insert chunk).1 := by
      rintro rfl
      rw [node?_insert_key] at found
      cases found
    exact ⟨node, by rw [node?_insert, if_neg apart, found], code⟩
  stored _ _ found _ := found

theorem retains_addChild (parent child : ChunkId) : Retains graph (graph.addChild parent child).2 := by
  rcases graph.addChild_cases parent child with same | ⟨node, -, -, -, -, same⟩
  · rw [same]
    exact .refl graph
  · rw [same]
    exact retains_relink parent fun _ => rfl

theorem retains_modifyCollection (id : CollectionId) {change : ChunkCollection → ChunkCollection}
    (marked : ∀ collection, (change collection).codeDirty = true) :
    Retains graph (graph.modifyCollection id change) where
  codes _ codes := codes
  stored other collection found clean := by
    rw [collection?_modifyCollection] at found
    split at found
    · obtain ⟨old, -, rfl⟩ := Option.map_eq_some_iff.1 found
      cases (marked old).symm.trans clean
    · exact found

theorem retains_createCollection : Retains graph graph.createCollection.2 where
  codes _ codes := codes
  stored id collection found clean := by
    rw [collection?_createCollection] at found
    split at found
    · cases found
      cases clean
    · exact found

theorem retains_removeCollection {rest : ChunkGraph} {id : CollectionId} {collection : ChunkCollection}
    (removed : graph.removeCollection id = some (collection, rest)) : Retains graph rest := by
  obtain ⟨-, collections, nodes⟩ := removeCollection_cases removed
  refine ⟨codes_of_nodes _ (fun chunk node => ?_) nodes, fun other held found _ => ?_⟩
  · split <;> rfl
  · rw [collections] at found
    split at found
    · cases found
    · exact found

theorem retains_rebuild (id : CollectionId) (collection : ChunkCollection) :
    Retains graph (graph.rebuild id collection) where
  codes := by
    refine codes_of_nodes _ (fun other node => ?_) (node?_rebuild graph id collection)
    split
    · unfold ChunkNode.subscribe
      split <;> rfl
    · split <;> rfl
  stored other held found clean := by
    rw [collection?_rebuild] at found
    split at found
    · obtain ⟨-, -, rfl⟩ := Option.map_eq_some_iff.1 found
      cases clean
    · exact found

end ChunkGraph

open ChunkGraph

theorem LightModel.Touched.retains {before graph : ChunkGraph} (touched : Touched before graph) :
    Retains before graph := by
  induction touched with
  | refl => exact .refl before
  | setChunk id chunk _ ih => exact ih.trans (retains_setChunk id chunk)
  | markPending id _ ih => exact ih.trans (retains_modifyNode id fun _ => rfl)
  | invalidateCode id _ ih => exact ih.trans (retains_markCodes _)

theorem LightModel.retains_new (graph : ChunkGraph) (settings : LightModelSettings) :
    Retains graph (LightModel.new graph settings).2 :=
  new_keeps .refl .trans (fun _ chunk => retains_insert chunk) (fun _ parent child => retains_addChild parent child)
    graph settings

namespace ChunkGraph

variable {graph before after : ChunkGraph}

/-! ## Hashes without code -/

/-- A hash that is neither marked nor empty comes from code. -/
def Backed (graph : ChunkGraph) : Prop :=
  ∀ id collection, graph.collection? id = some collection → collection.codeDirty = false → collection.hash ≠ "" →
    ∃ chunk ∈ collection.actives, graph.Codes chunk

theorem Backed.of_retains (backed : before.Backed) (retains : Retains before after) : after.Backed := by
  intro id collection found clean filled
  obtain ⟨chunk, active, codes⟩ := backed id collection (retains.stored id collection found clean) clean filled
  exact ⟨chunk, active, retains.codes chunk codes⟩

theorem Backed.settled (graph : ChunkGraph) (id : ChunkId) (backed : graph.Backed) :
    (graph.modifyNode id fun node => { node with pending := false }).Backed :=
  backed.of_retains (retains_modifyNode id fun _ => rfl)

/-- The active chunks are among those that were visited. -/
theorem Tidy.actives_subset (tidy : graph.Tidy) {id : CollectionId} {collection : ChunkCollection}
    (found : graph.collection? id = some collection) : ∀ chunk ∈ collection.actives, chunk ∈ collection.all := by
  have found' : graph.unhashed.collection? id = some collection.unhashed := by rw [collection?_unhashed, found]; rfl
  exact (Sound.listed tidy id _ found').actives

/-- A collection that had the chunk is marked, so the code of one without a mark is that of other chunks. -/
theorem Backed.remove (backed : graph.Backed) (tidy : graph.Tidy) {rest : ChunkGraph} {id : ChunkId} {chunk : Chunk}
    (removed : graph.remove id = some (chunk, rest)) : rest.Backed := by
  obtain ⟨_, marked, -, -, nodes, collections, -⟩ := remove_cases removed
  intro visitor collection found clean filled
  rw [collections] at found
  obtain ⟨old, held, rfl⟩ := Option.map_eq_some_iff.1 found
  split at clean
  · cases clean
  next spared =>
  rw [if_neg spared] at filled ⊢
  unfold ChunkCollection.forget at clean filled ⊢
  split at clean
  · cases clean
  next unknown =>
  rw [if_neg unknown] at filled ⊢
  obtain ⟨active, member, node, stored, code⟩ := backed visitor old held clean filled
  have apart : active ≠ id := by
    rintro rfl
    exact unknown (.inr (tidy.actives_subset held active member))
  refine ⟨active, by simpa [apart] using member, node.detach id, ?_, code⟩
  rw [nodes, if_neg apart, stored]
  rfl

theorem Backed.refresh (backed : graph.Backed) (id : CollectionId) : (graph.refresh id).2.Backed := by
  cases found : graph.collection? id with
  | none => rwa [refresh_of_gone found]
  | some collection =>
    rcases refresh_cases found with ⟨-, same⟩ | ⟨listed, stored, -, -, same⟩
    · rwa [same]
    have half : (graph.relist id collection).Backed := by
      unfold relist
      split
      · exact backed.of_retains (retains_rebuild id collection)
      · exact backed
    rw [same]
    intro other held found' clean filled
    rw [collection?_modifyCollection] at found'
    split at found'
    · next here =>
      subst here
      rw [stored] at found'
      cases found'
      exact exists_codes_of_joinedHash filled
    · exact half other held found' clean filled

theorem Effect.backed {op : GraphOp} (effect : graph.Effect op after) (backed : graph.Backed) (tidy : graph.Tidy) :
    after.Backed := by
  cases effect with
  | nothing => exact backed
  | insert chunk => exact backed.of_retains (retains_insert chunk)
  | remove removed => exact backed.remove tidy removed
  | relink id => exact backed.of_retains (retains_relink id fun _ => rfl)
  | createProxy target => exact backed.of_retains ((retains_insert .group).trans (retains_modifyNode _ fun _ => rfl))
  | createCollection => exact backed.of_retains retains_createCollection
  | removeCollection removed => exact backed.of_retains (retains_removeCollection removed)
  | reroot id => exact backed.of_retains (retains_modifyCollection id fun _ => rfl)
  | rewrite id chunk => exact backed.of_retains ((retains_setChunk id chunk).trans (retains_markCodes _))
  | markPending id => exact backed.of_retains (retains_modifyNode id fun _ => rfl)
  | setup id declares => exact setup_keeps Backed Backed.settled backed id declares
  | query id query => exact ask_keeps Backed Backed.settled (backed.refresh id) query

theorem Backed.handle (backed : graph.Backed) (tidy : graph.Tidy) (event : GraphEvent) :
    (graph.handle event).Backed := by
  cases event with
  | op op => exact (graph.effect_step op).backed backed tidy
  | setChunk id chunk => exact backed.of_retains (retains_setChunk id chunk)
  | invalidateList id => exact backed.of_retains (retains_markLists _)
  | invalidateCode id => exact backed.of_retains (retains_markCodes _)
  | newModel settings => exact backed.of_retains (LightModel.retains_new graph settings)
  | operate model op => exact backed.of_retains (model.touched_step graph op).retains

theorem Backed.history (events : List GraphEvent) : (history events).Backed := by
  suffices ∀ graph : ChunkGraph, graph.Backed → graph.Tidy → (events.foldl ChunkGraph.handle graph).Backed from
    this _ (fun id collection found => by simp at found) Sound.empty.tidy
  induction events with
  | nil => exact fun _ backed _ => backed
  | cons event rest ih => exact fun _ backed tidy => ih _ (backed.handle tidy event) (tidy.handle event)

/-! ## Refreshed hashes -/

/-- A refreshed collection lists the chunks that are active now. It has the hash of this moment, or was not marked and
stays as it is. -/
theorem Tidy.exists_refreshed (tidy : graph.Tidy) {id : CollectionId} {collection : ChunkCollection}
    (found : graph.collection? id = some collection) :
    ∃ fresh, graph.refreshed id = (.ok fresh, (graph.refresh id).2) ∧
      fresh.actives = (graph.flattenAll collection.roots).actives ∧
      (fresh.hash = graph.joinedHash fresh.actives ∨ collection.codeDirty = false ∧ fresh = collection) := by
  obtain ⟨live, lists⟩ := tidy.lists found
  obtain ⟨changed, answer⟩ := refresh_of_live found
  obtain ⟨fresh, stored, listed, -⟩ := exists_clean_refresh found
  refine ⟨fresh, by rw [refreshed, answer]; simp only [stored], ?_, ?_⟩
  · have bare : (graph.refresh id).2.bare = graph.bare := bare_refresh id
    have roots : fresh.roots = collection.roots := by
      have same := roots_of_bare bare id
      rw [stored, found] at same
      exact Option.some.inj same
    have flattened := ((tidy.refresh id).lists stored).2 listed
    rw [roots, tidy.wellFormed.flattenAll_of_shape live (shape?_of_bare bare)] at flattened
    rw [flattened]
  · rcases refresh_cases found with ⟨clean, same⟩ | ⟨half, held, -, -, same⟩
    · rw [same, found] at stored
      exact .inr ⟨clean.2, (Option.some.inj stored).symm⟩
    · have bare : (graph.relist id collection).bare = graph.bare := by
        unfold relist
        split
        · exact bare_rebuild found
        · rfl
      rw [same, collection?_modifyCollection, if_pos rfl, held] at stored
      cases stored
      exact .inl (joinedHash_of_bare bare _)

end ChunkGraph

end ShaderWeave
