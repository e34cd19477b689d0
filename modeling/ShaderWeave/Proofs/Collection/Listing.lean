import Mathlib.Data.List.Permutation
import ShaderWeave.Proofs.Graph.Walks
import ShaderWeave.Proofs.Lighting.Subscriptions

/-! # Lists along runs

States may change without a mark, so a stored hash may be out of date. Lists read no states: whatever happens to a
graph, the bookkeeping is sound as soon as the stored hashes are left out, and a refresh lists what is reached from
the roots.
-/

namespace ShaderWeave

/-- The collection as if it had never been hashed. -/
def ChunkCollection.unhashed (collection : ChunkCollection) : ChunkCollection :=
  { collection with codeDirty := true, hash := "" }

namespace ChunkGraph

def unhashed (graph : ChunkGraph) : ChunkGraph :=
  { graph with collections := graph.collections.mapEntries fun _ collection => collection.unhashed }

variable {graph before after : ChunkGraph}

theorem collection?_unhashed (id : CollectionId) :
    graph.unhashed.collection? id = (graph.collection? id).map (·.unhashed) :=
  Arena.get?_mapEntries ..

theorem unhashed_unhashed : graph.unhashed.unhashed = graph.unhashed := by
  simp only [unhashed, Arena.mapEntries_mapEntries]
  rfl

/-! ## Edits of graphs without hashes -/

private theorem unhashed_mapCollections {change : CollectionId → ChunkCollection → ChunkCollection}
    (commutes : ∀ id collection, (change id collection).unhashed = change id collection.unhashed) :
    { graph with collections := graph.collections.mapEntries change }.unhashed =
      { graph.unhashed with collections := graph.unhashed.collections.mapEntries change } := by
  simp only [unhashed, Arena.mapEntries_mapEntries, commutes]

private theorem unhashed_mapCollections_of_same {change : CollectionId → ChunkCollection → ChunkCollection}
    (same : ∀ id collection, (change id collection).unhashed = collection.unhashed) :
    { graph with collections := graph.collections.mapEntries change }.unhashed = graph.unhashed := by
  simp only [unhashed, Arena.mapEntries_mapEntries, same]

theorem unhashed_markLists (ids : List CollectionId) : (graph.markLists ids).unhashed = graph.unhashed.markLists ids :=
  unhashed_mapCollections fun _ _ => by split <;> rfl

theorem unhashed_markCodes (ids : List CollectionId) : (graph.markCodes ids).unhashed = graph.unhashed :=
  unhashed_mapCollections_of_same fun _ _ => by split <;> rfl

theorem unhashed_modifyCollection (id : CollectionId) {change : ChunkCollection → ChunkCollection}
    (commutes : ∀ collection, (change collection).unhashed = change collection.unhashed) :
    (graph.modifyCollection id change).unhashed = graph.unhashed.modifyCollection id change :=
  unhashed_mapCollections fun _ collection => by
    split
    · exact commutes collection
    · rfl

theorem unhashed_modifyCollection_of_same (id : CollectionId) {change : ChunkCollection → ChunkCollection}
    (same : ∀ collection, (change collection).unhashed = collection.unhashed) :
    (graph.modifyCollection id change).unhashed = graph.unhashed :=
  unhashed_mapCollections_of_same fun _ collection => by
    split
    · exact same collection
    · rfl

theorem unhashed_createCollection : graph.createCollection.2.unhashed = graph.unhashed.createCollection.2 := by
  have inserted := graph.collections.insert_mapEntries ChunkCollection.unhashed {}
  have same : ({} : ChunkCollection).unhashed = {} := rfl
  rw [same] at inserted
  simp only [createCollection, unhashed, inserted]

theorem unhashed_remove {rest : ChunkGraph} {id : ChunkId} {chunk : Chunk}
    (removed : graph.remove id = some (chunk, rest)) : graph.unhashed.remove id = some (chunk, rest.unhashed) := by
  unfold remove at removed ⊢
  have nodes : graph.unhashed.nodes = graph.nodes := rfl
  rw [nodes]
  split at removed
  · simp at removed
  · next node others taken =>
    simp only [Option.some.injEq, Prod.mk.injEq] at removed
    obtain ⟨rfl, rfl⟩ := removed
    have forgotten : ∀ collection : ChunkCollection, (collection.forget id).unhashed = collection.unhashed.forget id := by
      intro collection
      unfold ChunkCollection.forget
      split <;> split <;> first | rfl | contradiction
    simp only [unhashed_markLists]
    simp only [unhashed, Arena.mapEntries_mapEntries, forgotten]

theorem unhashed_removeCollection {rest : ChunkGraph} {id : CollectionId} {collection : ChunkCollection}
    (removed : graph.removeCollection id = some (collection, rest)) :
    graph.unhashed.removeCollection id = some (collection.unhashed, rest.unhashed) := by
  unfold removeCollection at removed ⊢
  have taken : graph.unhashed.collections.remove id = (graph.collections.remove id).map fun taken =>
      (taken.1.unhashed, taken.2.mapEntries fun _ collection => collection.unhashed) :=
    graph.collections.remove_mapEntries (fun _ collection => collection.unhashed) id
  rw [taken]
  split at removed
  · simp at removed
  · next gone collections found =>
    simp only [Option.some.injEq, Prod.mk.injEq] at removed
    obtain ⟨rfl, rfl⟩ := removed
    rw [found]
    rfl

theorem flattenFrom_unhashed (depth : Nat) (id : ChunkId) :
    graph.unhashed.flattenFrom depth id = graph.flattenFrom depth id := by
  induction depth generalizing id with
  | zero => rfl
  | succ depth ih =>
    have node : graph.unhashed.node? id = graph.node? id := rfl
    simp only [flattenFrom, node, ih]

theorem flattenAll_unhashed (roots : List ChunkId) : graph.unhashed.flattenAll roots = graph.flattenAll roots := by
  have flatten : graph.unhashed.flatten = graph.flatten := funext (flattenFrom_unhashed graph.size)
  rw [flattenAll, flattenAll, flatten]

theorem unhashed_rebuild (id : CollectionId) (collection : ChunkCollection) :
    (graph.rebuild id collection).unhashed = graph.unhashed.rebuild id collection.unhashed := by
  simp only [rebuild, flattenAll_unhashed]
  simp only [unhashed, Arena.set, Arena.modify, Arena.mapEntries_mapEntries]
  congr 2
  funext other stored
  split <;> rfl

/-! ## Tidy graphs -/

/-- The bookkeeping is sound, stored hashes aside. -/
def Tidy (graph : ChunkGraph) : Prop := graph.unhashed.Sound

theorem Tidy.wellFormed (tidy : graph.Tidy) : graph.WellFormed := Sound.wellFormed tidy |>.of_shape fun _ => rfl

theorem Sound.tidy (sound : graph.Sound) : graph.Tidy := by
  refine sound.of_collections (fun _ => rfl) (fun _ => rfl) (Mirrored.of_unmoved sound.subscribed ⟨fun _ => rfl, ?_⟩) ?_
  · intro id
    rw [collection?_unhashed, Option.map_map]
    rfl
  · intro id collection found
    rw [collection?_unhashed] at found
    obtain ⟨old, held, rfl⟩ := Option.map_eq_some_iff.1 found
    have listed := sound.listed id old held
    exact ⟨⟨listed.roots, listed.all, listed.actives⟩, ⟨fun _ => rfl, (sound.fresh id old held).lists, nofun⟩⟩

theorem Tidy.of_unhashed (tidy : before.Tidy) (same : after.unhashed = before.unhashed) : after.Tidy := by
  rwa [Tidy, same]

/-- A clean list is the one that a rebuild would give. -/
theorem Tidy.lists (tidy : graph.Tidy) {id : CollectionId} {collection : ChunkCollection}
    (found : graph.collection? id = some collection) :
    (∀ root ∈ collection.roots, (graph.node? root).isSome) ∧
      (collection.listDirty = false →
        graph.flattenAll collection.roots = ⟨collection.all, collection.actives⟩) := by
  have found' : graph.unhashed.collection? id = some collection.unhashed := by rw [collection?_unhashed, found]; rfl
  refine ⟨(Sound.listed tidy id _ found').roots, fun clean => ?_⟩
  rw [← flattenAll_unhashed]
  exact (Sound.fresh tidy id _ found').lists clean

/-! ## Steps -/

theorem Tidy.relink (tidy : graph.Tidy) {id : ChunkId} {change : ChunkNode → ChunkNode}
    (wellFormed : (graph.modifyNode id change).WellFormed)
    (subscribers : ∀ node, (change node).subscribers = node.subscribers)
    (digests : ∀ node, (change node).caps = node.caps ∧ (change node).chunk = node.chunk) :
    ((graph.modifyNode id change).invalidateList id).Tidy := by
  rw [Tidy, invalidateList, unhashed_markLists]
  exact Sound.relink tidy (wellFormed.of_shape fun _ => rfl) subscribers digests

theorem Tidy.addChild (tidy : graph.Tidy) (parent child : ChunkId) : (graph.addChild parent child).2.Tidy := by
  rcases graph.addChild_cases parent child with same | ⟨node, found, live, new, apart, same⟩
  · rwa [same]
  · rw [same]
    exact tidy.relink (tidy.wellFormed.addChild found live new apart) (fun _ => rfl) fun _ => ⟨rfl, rfl⟩

theorem Tidy.removeChild (tidy : graph.Tidy) (parent child : ChunkId) : (graph.removeChild parent child).2.Tidy := by
  rcases graph.removeChild_cases parent child with same | ⟨node, found, same⟩
  · rwa [same]
  · rw [same]
    exact tidy.relink (tidy.wellFormed.removeChild found child) (fun _ => rfl) fun _ => ⟨rfl, rfl⟩

theorem Tidy.setProxy (tidy : graph.Tidy) (chunk : ChunkId) (target : Option ChunkId) :
    (graph.setProxy chunk target).2.Tidy := by
  rcases graph.setProxy_cases chunk target with same | ⟨node, found, live, apart, same⟩
  · rwa [same]
  · rw [same]
    exact tidy.relink (tidy.wellFormed.setProxy found target live apart) (fun _ => rfl) fun _ => ⟨rfl, rfl⟩

theorem Tidy.insert (tidy : graph.Tidy) (chunk : Chunk) : (graph.insert chunk).2.Tidy := Sound.insert tidy chunk

theorem Tidy.createProxy (tidy : graph.Tidy) (target : ChunkId) : (graph.createProxy target).2.Tidy := by
  have commutes : (graph.createProxy target).2.unhashed = (graph.unhashed.createProxy target).2 := by
    have node : graph.unhashed.node? target = graph.node? target := rfl
    simp only [ChunkGraph.createProxy, node]
    cases graph.node? target <;> rfl
  rw [Tidy, commutes]
  exact Sound.createProxy tidy target

theorem Tidy.withRoots (tidy : graph.Tidy) (id : CollectionId) (roots : List ChunkId → List ChunkId)
    (live : ∀ old, (∀ root ∈ old, (graph.node? root).isSome) → ∀ root ∈ roots old, (graph.node? root).isSome) :
    (graph.modifyCollection id fun collection => collection.withRoots (roots collection.roots)).Tidy := by
  let change (collection : ChunkCollection) : ChunkCollection := collection.withRoots (roots collection.roots)
  have commutes : (graph.modifyCollection id change).unhashed = graph.unhashed.modifyCollection id change :=
    unhashed_modifyCollection id fun _ => rfl
  rw [Tidy, commutes]
  exact Sound.withRoots tidy id roots fun collection found =>
    live collection.roots (Sound.listed tidy id collection found).roots

theorem Tidy.addRoot (tidy : graph.Tidy) (id : CollectionId) (root : ChunkId) : (graph.addRoot id root).2.Tidy := by
  rcases graph.addRoot_cases id root with same | ⟨live, same⟩
  · rwa [same]
  · rw [same]
    refine tidy.withRoots id (· ++ [root]) fun old lives other member => ?_
    rcases List.mem_append.1 member with before | new
    · exact lives other before
    · rwa [List.mem_singleton.1 new]

theorem Tidy.removeRoot (tidy : graph.Tidy) (id : CollectionId) (root : ChunkId) :
    (graph.removeRoot id root).2.Tidy := by
  rcases graph.removeRoot_cases id root with same | same
  · rwa [same]
  · rw [same]
    exact tidy.withRoots id (List.filter (· ≠ root)) fun old lives other member =>
      lives other (List.mem_filter.1 member).1

theorem Tidy.pending (tidy : graph.Tidy) (id : ChunkId) (pending : Bool) :
    (graph.modifyNode id fun node => { node with pending }).Tidy :=
  Sound.pending tidy id pending

theorem Tidy.invalidateCode (tidy : graph.Tidy) (id : ChunkId) : (graph.invalidateCode id).Tidy :=
  tidy.of_unhashed (unhashed_markCodes _)

theorem Tidy.setChunk (tidy : graph.Tidy) (id : ChunkId) (chunk : Chunk) : (graph.setChunk id chunk).Tidy := by
  refine (Sound.rewrite tidy id chunk).tidy.of_unhashed ?_
  rw [ChunkGraph.invalidateCode, unhashed_markCodes]
  exact unhashed_unhashed.symm

/-- More marks than needed do no harm. -/
theorem Sound.markLists (sound : graph.Sound) (ids : List CollectionId) : (graph.markLists ids).Sound := by
  refine sound.of_marks (sound.wellFormed.of_shape fun _ => rfl) (fun id => if id ∈ ids then .list else .nothing) ?_
    (fun _ live => live) (fun _ => rfl) (fun _ changed => absurd rfl changed) fun _ changed => absurd rfl changed
  intro id
  rw [collection?_markLists]
  congr 1
  funext collection
  split <;> rfl

theorem Tidy.invalidateList (tidy : graph.Tidy) (id : ChunkId) : (graph.invalidateList id).Tidy := by
  rw [Tidy, ChunkGraph.invalidateList, unhashed_markLists]
  exact Sound.markLists tidy _

theorem Tidy.refresh (tidy : graph.Tidy) (id : CollectionId) : (graph.refresh id).2.Tidy := by
  apply graph.refresh_keeps Tidy id tidy
  · intro collection found
    have found' : graph.unhashed.collection? id = some collection.unhashed := by
      rw [collection?_unhashed, found]
      rfl
    rw [Tidy, unhashed_rebuild]
    exact Sound.rebuild tidy found'
  · intro half hash listed
    exact listed.of_unhashed (unhashed_modifyCollection_of_same id fun _ => rfl)

theorem Tidy.step (tidy : graph.Tidy) (op : GraphOp) : (graph.step op).Tidy := by
  cases op with
  | insert chunk => exact tidy.insert chunk
  | remove id =>
    rw [ChunkGraph.step]
    cases removed : graph.remove id with
    | none => exact tidy
    | some taken => exact Sound.remove tidy (unhashed_remove removed)
  | addChild parent child => exact tidy.addChild parent child
  | removeChild parent child => exact tidy.removeChild parent child
  | setProxy chunk target => exact tidy.setProxy chunk target
  | createProxy target => exact tidy.createProxy target
  | createCollection =>
    rw [ChunkGraph.step, Tidy, unhashed_createCollection]
    exact Sound.createCollection tidy
  | removeCollection id =>
    rw [ChunkGraph.step]
    cases removed : graph.removeCollection id with
    | none => exact tidy
    | some taken => exact Sound.removeCollection tidy (unhashed_removeCollection removed)
  | addRoot id root => exact tidy.addRoot id root
  | removeRoot id root => exact tidy.removeRoot id root
  | rewrite id chunk => exact (tidy.setChunk id chunk).invalidateCode id
  | markPending id => exact tidy.pending id true
  | setup id declares => exact setup_keeps Tidy (fun _ id tidy => tidy.pending id false) tidy id declares
  | query id query => exact ask_keeps Tidy (fun _ id tidy => tidy.pending id false) (tidy.refresh id) query

end ChunkGraph

open ChunkGraph

theorem LightModel.Touched.tidy {before graph : ChunkGraph} (touched : Touched before graph) (tidy : before.Tidy) :
    graph.Tidy := by
  induction touched with
  | refl => exact tidy
  | setChunk id chunk _ ih => exact ih.setChunk id chunk
  | markPending id _ ih => exact ih.pending id true
  | invalidateCode id _ ih => exact ih.invalidateCode id

theorem LightModel.tidy_new {graph : ChunkGraph} (tidy : graph.Tidy) (settings : LightModelSettings) :
    (LightModel.new graph settings).2.Tidy := by
  let keeps (first second : ChunkGraph) : Prop := first.Tidy → second.Tidy
  have refl (graph : ChunkGraph) : keeps graph graph := id
  have trans {first second third : ChunkGraph} (before : keeps first second) (after : keeps second third) :
      keeps first third := after ∘ before
  exact new_keeps refl trans (fun _ chunk tidy => tidy.insert chunk)
    (fun _ parent child tidy => tidy.addChild parent child) graph settings tidy

namespace ChunkGraph

variable {graph : ChunkGraph}

theorem Tidy.handle (tidy : graph.Tidy) (event : GraphEvent) : (graph.handle event).Tidy := by
  cases event with
  | op op => exact tidy.step op
  | setChunk id chunk => exact tidy.setChunk id chunk
  | invalidateList id => exact tidy.invalidateList id
  | invalidateCode id => exact tidy.invalidateCode id
  | newModel settings => exact LightModel.tidy_new tidy settings
  | operate model op => exact (model.touched_step graph op).tidy tidy

theorem Tidy.history (events : List GraphEvent) : (history events).Tidy := by
  suffices ∀ graph : ChunkGraph, graph.Tidy → (events.foldl ChunkGraph.handle graph).Tidy from
    this _ Sound.empty.tidy
  induction events with
  | nil => exact fun _ tidy => tidy
  | cons event rest ih => exact fun _ tidy => ih _ (tidy.handle event)

/-! ## Refreshed lists -/

theorem refresh_eq_ok {id : CollectionId} {collection : ChunkCollection}
    (found : graph.collection? id = some collection) : ∃ changed, (graph.refresh id).1 = .ok changed := by
  obtain ⟨changed, answered⟩ := refresh_of_live found
  exact ⟨changed, congrArg Prod.fst answered⟩

/-- Along every run, refreshing a live collection gives an answer and moves no edge and no root. The collection then
lists what is reached from its roots, in the order of emission. -/
theorem refresh_emits (events : List GraphEvent) (id : CollectionId) (collection : ChunkCollection)
    (found : (history events).collection? id = some collection) :
    let after := ((history events).refresh id).2
    (∃ changed, ((history events).refresh id).1 = .ok changed) ∧
      (∀ chunk, after.shape? chunk = (history events).shape? chunk) ∧
      ∃ fresh, after.collection? id = some fresh ∧ fresh.roots = collection.roots ∧
        after.Emits collection.roots fresh.all fresh.actives := by
  intro after
  have tidy : after.Tidy := (Tidy.history events).refresh id
  obtain ⟨fresh, found', clean, -⟩ := exists_clean_refresh found
  have bare : after.bare = (history events).bare := bare_refresh id
  have roots : fresh.roots = collection.roots := by
    have same := roots_of_bare bare id
    rw [found, found'] at same
    exact Option.some.inj same
  obtain ⟨live, lists⟩ := tidy.lists found'
  refine ⟨refresh_eq_ok found, shape?_of_bare bare, fresh, found', roots, ?_⟩
  have emits := tidy.wellFormed.emits live
  rwa [lists clean, roots] at emits

/-- Two chunks share a child. A proxy of the first and the second itself are roots. -/
def sharing : List GraphEvent :=
  [.op (.insert .group), .op (.insert .group), .op (.insert .group), .op (.addChild ⟨1, 1⟩ ⟨3, 1⟩),
    .op (.addChild ⟨2, 1⟩ ⟨3, 1⟩), .op (.createProxy ⟨1, 1⟩), .op .createCollection, .op (.addRoot ⟨1, 1⟩ ⟨4, 1⟩),
    .op (.addRoot ⟨1, 1⟩ ⟨2, 1⟩)]

theorem refresh_emits_sharing :
    ((history sharing).refresh ⟨1, 1⟩).2.Emits [⟨4, 1⟩, ⟨2, 1⟩] [⟨4, 1⟩, ⟨1, 1⟩, ⟨3, 1⟩, ⟨2, 1⟩]
      [⟨3, 1⟩, ⟨1, 1⟩, ⟨2, 1⟩] := by
  have found : (history sharing).collection? ⟨1, 1⟩ = some (({} : ChunkCollection).withRoots [⟨4, 1⟩, ⟨2, 1⟩]) := by
    cbv
  have stored : ((history sharing).refresh ⟨1, 1⟩).2.collection? ⟨1, 1⟩ =
      some ⟨[⟨4, 1⟩, ⟨2, 1⟩], [⟨4, 1⟩, ⟨1, 1⟩, ⟨3, 1⟩, ⟨2, 1⟩], [⟨3, 1⟩, ⟨1, 1⟩, ⟨2, 1⟩], false, false, ""⟩ := by
    cbv
  obtain ⟨-, -, fresh, found', -, emits⟩ := refresh_emits sharing ⟨1, 1⟩ _ found
  cases stored.symm.trans found'
  exact emits

end ChunkGraph

end ShaderWeave
