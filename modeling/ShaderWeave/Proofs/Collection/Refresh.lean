import ShaderWeave.Proofs.Collection.Upkeep
import ShaderWeave.Proofs.Graph.Bare

/-! # Refreshing

If the bookkeeping is sound, a refresh leaves a collection as if its lists and its hash had been made anew, whatever
was marked before, and changes nothing else but subscriptions.
-/

namespace ShaderWeave.ChunkGraph

variable {graph before after : ChunkGraph}

/-- A collection whose lists and hash were made this moment. -/
def upToDate (graph : ChunkGraph) (collection : ChunkCollection) : ChunkCollection :=
  let lists := graph.flattenAll collection.roots
  { roots := collection.roots
    all := lists.all
    actives := lists.actives
    listDirty := false
    codeDirty := false
    hash := graph.joinedHash lists.actives }

/-! ## Lists -/

theorem digest?_of_bare (same : after.bare = before.bare) (id : ChunkId) : after.digest? id = before.digest? id := by
  have digests :=
    congrArg (Option.map fun node : ChunkNode => (node.caps.code, node.chunk.hash)) (node?_of_bare same id)
  rw [Option.map_map, Option.map_map] at digests
  exact digests

theorem Sound.rebuild (sound : graph.Sound) {id : CollectionId} {collection : ChunkCollection}
    (found : graph.collection? id = some collection) : (graph.rebuild id collection).Sound := by
  have bare : (graph.rebuild id collection).bare = graph.bare := bare_rebuild found
  refine sound.of_collections (shape?_of_bare bare) (digest?_of_bare bare) (Mirrored.rebuild sound.subscribed found)
    fun other held found' => ?_
  rw [collection?_rebuild] at found'
  split at found'
  · next here =>
    subst here
    rw [found] at found'
    cases found'
    refine ⟨⟨(sound.listed other collection found).roots, fun chunk => live_of_mem_flattenAll,
      fun chunk => actives_subset_flattenAll⟩, ⟨nofun, fun _ => rfl, nofun⟩⟩
  · exact ⟨sound.listed other held found', sound.fresh other held found'⟩

/-- The roots of a collection are no bookkeeping. -/
theorem roots_of_bare (same : after.bare = before.bare) (id : CollectionId) :
    (after.collection? id).map (·.roots) = (before.collection? id).map (·.roots) := by
  have bare : after.bare.collection? id = before.bare.collection? id := by rw [same]
  rw [collection?_bare, collection?_bare] at bare
  have roots := congrArg (Option.map ChunkCollection.roots) bare
  rw [Option.map_map, Option.map_map] at roots
  exact roots

/-! ## Refreshing a collection -/

/-- The first half of a refresh, which makes the lists anew if they are marked. -/
def relist (graph : ChunkGraph) (id : CollectionId) (collection : ChunkCollection) : ChunkGraph :=
  if collection.listDirty then graph.rebuild id collection else graph

theorem collection?_relist {id : CollectionId} {collection : ChunkCollection}
    (found : graph.collection? id = some collection) :
    ∃ listed, (graph.relist id collection).collection? id = some listed ∧ listed.roots = collection.roots ∧
      listed.listDirty = false := by
  unfold relist
  split
  · rw [collection?_rebuild, if_pos rfl, found]
    exact ⟨_, rfl, rfl, rfl⟩
  · next clean => exact ⟨collection, found, rfl, by simpa using clean⟩

theorem refresh_of_gone {id : CollectionId} (gone : graph.collection? id = none) :
    graph.refresh id = (.error (.collectionNotFound id), graph) := by
  simp [refresh, gone]

/-- A collection without marks stays as it is. Another gets its lists, if they are marked, and then its hash. -/
theorem refresh_cases {id : CollectionId} {collection : ChunkCollection}
    (found : graph.collection? id = some collection) :
    (collection.listDirty = false ∧ collection.codeDirty = false) ∧ graph.refresh id = (.ok false, graph) ∨
      ∃ listed, (graph.relist id collection).collection? id = some listed ∧ listed.roots = collection.roots ∧
        listed.listDirty = false ∧
        graph.refresh id = (.ok (listed.hash != (graph.relist id collection).joinedHash listed.actives),
          (graph.relist id collection).modifyCollection id
            ({ · with codeDirty := false, hash := (graph.relist id collection).joinedHash listed.actives })) := by
  by_cases clean : collection.listDirty = false ∧ collection.codeDirty = false
  · exact .inl ⟨clean, by simp [refresh, found, clean]⟩
  · obtain ⟨listed, stored, roots, unmarked⟩ := collection?_relist found
    have marked : (!collection.listDirty && !collection.codeDirty) = false := by simpa using clean
    refine .inr ⟨listed, stored, roots, unmarked, ?_⟩
    rw [relist] at stored ⊢
    simp only [refresh, found, marked, Bool.false_eq_true, if_false, stored]

/-- What new lists and a new hash keep, a refresh keeps. -/
theorem refresh_keeps (graph : ChunkGraph) (keeps : ChunkGraph → Prop) (id : CollectionId) (start : keeps graph)
    (rebuild : ∀ collection, graph.collection? id = some collection → keeps (graph.rebuild id collection))
    (rehash : ∀ half hash, keeps half → keeps (half.modifyCollection id ({ · with codeDirty := false, hash }))) :
    keeps (graph.refresh id).2 := by
  cases found : graph.collection? id with
  | none => rwa [refresh_of_gone found]
  | some collection =>
    rcases refresh_cases found with ⟨-, same⟩ | ⟨listed, -, -, -, same⟩
    · rwa [same]
    · rw [same]
      apply rehash
      unfold relist
      split
      · exact rebuild collection found
      · exact start

theorem bare_refresh (id : CollectionId) : (graph.refresh id).2.bare = graph.bare := by
  apply graph.refresh_keeps (fun after => after.bare = graph.bare) id rfl
  · intro collection found
    exact bare_rebuild found
  · intro half hash same
    rw [← same]
    exact bare_modifyCollection_of_same id fun _ => rfl

theorem collection?_refresh_of_ne {id other : CollectionId} (apart : other ≠ id) :
    (graph.refresh id).2.collection? other = graph.collection? other := by
  apply graph.refresh_keeps (fun after => after.collection? other = graph.collection? other) id rfl
  · intro collection _
    rw [collection?_rebuild, if_neg apart]
  · intro half hash same
    rw [collection?_modifyCollection, if_neg apart, same]

/-- A refresh takes the marks of a live collection away. -/
theorem exists_clean_refresh {id : CollectionId} {collection : ChunkCollection}
    (found : graph.collection? id = some collection) :
    ∃ fresh, (graph.refresh id).2.collection? id = some fresh ∧ fresh.listDirty = false ∧ fresh.codeDirty = false := by
  rcases refresh_cases found with ⟨clean, same⟩ | ⟨listed, stored, -, unmarked, same⟩
  · rw [same]
    exact ⟨collection, found, clean⟩
  · rw [same, collection?_modifyCollection, if_pos rfl, stored]
    exact ⟨_, rfl, unmarked, rfl⟩

/-- A live collection is refreshed whatever state it is in. -/
theorem refresh_of_live {id : CollectionId} {collection : ChunkCollection}
    (found : graph.collection? id = some collection) :
    ∃ changed, graph.refresh id = (.ok changed, (graph.refresh id).2) := by
  rcases refresh_cases found with ⟨-, same⟩ | ⟨listed, -, -, -, same⟩
  · rw [same]
    exact ⟨false, rfl⟩
  · rw [same]
    exact ⟨_, rfl⟩

theorem refresh_of_clean {id : CollectionId} {collection : ChunkCollection}
    (found : graph.collection? id = some collection) (listed : collection.listDirty = false)
    (hashed : collection.codeDirty = false) : graph.refresh id = (.ok false, graph) := by
  simp [refresh, found, listed, hashed]

/-- A collection without marks answers with the hash that it has. -/
theorem collectionHash_of_clean {id : CollectionId} {collection : ChunkCollection}
    (found : graph.collection? id = some collection) (listed : collection.listDirty = false)
    (hashed : collection.codeDirty = false) : graph.collectionHash id = (.ok collection.hash, graph) := by
  simp only [collectionHash, refreshed, refresh_of_clean found listed hashed, found]
  rfl

/-! ## Refreshing several collections -/

def refreshAll (graph : ChunkGraph) (ids : List CollectionId) : ChunkGraph :=
  ids.foldl (fun graph id => (graph.refresh id).2) graph

theorem bare_refreshAll (ids : List CollectionId) : (graph.refreshAll ids).bare = graph.bare := by
  induction ids generalizing graph with
  | nil => rfl
  | cons id rest ih => exact ih.trans (bare_refresh id)

/-- A live collection has no marks after all refreshes, if it is one of those that were refreshed or had none before. -/
theorem exists_clean_refreshAll {ids : List CollectionId} {id : CollectionId} {collection : ChunkCollection}
    (found : graph.collection? id = some collection)
    (refreshed : id ∈ ids ∨ collection.listDirty = false ∧ collection.codeDirty = false) :
    ∃ fresh, (graph.refreshAll ids).collection? id = some fresh ∧ fresh.listDirty = false ∧ fresh.codeDirty = false := by
  induction ids generalizing graph collection with
  | nil => exact ⟨collection, found, refreshed.resolve_left (by simp)⟩
  | cons first rest ih =>
    by_cases here : id = first
    · subst here
      obtain ⟨fresh, found', clean⟩ := exists_clean_refresh found
      exact ih found' (.inr clean)
    · exact ih ((collection?_refresh_of_ne here).trans found) (refreshed.imp_left fun member => by simpa [here] using member)

/-! ## Sound refreshes -/

/-- What is not marked stays as it is, or else the hash is made anew. -/
theorem Sound.upToDate_of_listed (sound : graph.Sound) {id : CollectionId} {collection : ChunkCollection}
    (found : graph.collection? id = some collection) (listed : collection.listDirty = false) :
    graph.upToDate collection =
      { collection with codeDirty := false, hash := graph.joinedHash collection.actives } := by
  simp only [upToDate, (sound.fresh id collection found).lists listed, listed]

theorem Sound.upToDate_of_clean (sound : graph.Sound) {id : CollectionId} {collection : ChunkCollection}
    (found : graph.collection? id = some collection) (listed : collection.listDirty = false)
    (hashed : collection.codeDirty = false) : graph.upToDate collection = collection := by
  rw [sound.upToDate_of_listed found listed, ← (sound.fresh id collection found).hash hashed, ← hashed]

theorem joinedHash_of_bare (same : after.bare = before.bare) (actives : List ChunkId) :
    after.joinedHash actives = before.joinedHash actives := by
  rw [← joinedHash_bare, same, joinedHash_bare]

/-- Bookkeeping does not show in a collection that is up to date. -/
theorem Sound.upToDate_of_bare (sound : before.Sound) (same : after.bare = before.bare) {id : CollectionId}
    {collection : ChunkCollection} (found : before.collection? id = some collection) :
    after.upToDate collection = before.upToDate collection := by
  have lists := sound.wellFormed.flattenAll_of_shape (sound.listed id collection found).roots (shape?_of_bare same)
  simp only [upToDate, lists, joinedHash_of_bare same]

/-- A new hash for a collection that needs no new lists. -/
private theorem Sound.rehash (sound : graph.Sound) {id : CollectionId} {collection : ChunkCollection}
    (found : graph.collection? id = some collection) (listed : collection.listDirty = false) :
    (graph.modifyCollection id
      ({ · with codeDirty := false, hash := graph.joinedHash collection.actives })).Sound := by
  refine sound.modifyCollection id (fun _ => rfl) ?_
  intro other held
  cases found.symm.trans held
  obtain ⟨roots, all, actives⟩ := sound.listed id collection found
  have lists := (sound.fresh id collection found).lists listed
  refine ⟨⟨roots, all, actives⟩, ⟨?_, fun _ => lists, fun _ => rfl⟩⟩
  intro marked
  simp [listed] at marked

/-- The first half of a refresh gets the lists right. -/
private theorem Sound.relist (sound : graph.Sound) {id : CollectionId} {collection : ChunkCollection}
    (found : graph.collection? id = some collection) :
    (graph.relist id collection).Sound ∧ (graph.relist id collection).bare = graph.bare ∧
      ∀ other, other ≠ id → (graph.relist id collection).collection? other = graph.collection? other := by
  unfold ChunkGraph.relist
  split
  · refine ⟨sound.rebuild found, bare_rebuild found, ?_⟩
    intro other apart
    rw [collection?_rebuild, if_neg apart]
  · exact ⟨sound, rfl, fun _ _ => rfl⟩

/-- A refresh of a live collection gives an answer, and leaves the collection up to date. -/
theorem Sound.refresh_of_found (sound : graph.Sound) {id : CollectionId} {collection : ChunkCollection}
    (found : graph.collection? id = some collection) :
    (∃ changed, (graph.refresh id).1 = .ok changed) ∧ (graph.refresh id).2.Sound ∧
      ∀ other, (graph.refresh id).2.collection? other =
        if other = id then some (graph.upToDate collection) else graph.collection? other := by
  rcases refresh_cases found with ⟨clean, same⟩ | ⟨listed, stored, roots, unmarked, same⟩
  · rw [same]
    refine ⟨⟨false, rfl⟩, sound, ?_⟩
    intro other
    split
    · next here => rw [here, found, sound.upToDate_of_clean found clean.1 clean.2]
    · rfl
  obtain ⟨halfSound, bare, others⟩ := sound.relist found
  rw [same]
  refine ⟨⟨_, rfl⟩, halfSound.rehash stored unmarked, ?_⟩
  intro other
  rw [collection?_modifyCollection]
  split
  · next here =>
    have upToDate : (graph.relist id collection).upToDate listed = graph.upToDate collection := by
      rw [← sound.upToDate_of_bare bare found]
      simp only [ChunkGraph.upToDate, roots]
    rw [here, stored, Option.map_some, ← upToDate, halfSound.upToDate_of_listed stored unmarked]
  · next apart => exact others other apart

theorem Sound.refresh (sound : graph.Sound) (id : CollectionId) : (graph.refresh id).2.Sound := by
  cases found : graph.collection? id with
  | none => rwa [refresh_of_gone found]
  | some collection => exact (sound.refresh_of_found found).2.1

/-! ## Answers -/

theorem snd_refreshed (id : CollectionId) : (graph.refreshed id).2 = (graph.refresh id).2 := by
  unfold refreshed
  split
  · next refreshed => rw [refreshed]
  · next refreshed =>
    rw [refreshed]
    split <;> rfl

theorem refreshed_of_gone {id : CollectionId} (gone : graph.collection? id = none) :
    graph.refreshed id = (.error (.collectionNotFound id), graph) := by
  rw [refreshed, refresh_of_gone gone]

/-- Refreshing again changes nothing, marked or not. -/
theorem refreshed_again (graph : ChunkGraph) (id : CollectionId) :
    (graph.refresh id).2.refreshed id = graph.refreshed id := by
  cases found : graph.collection? id with
  | none => rw [refresh_of_gone found]
  | some collection =>
    obtain ⟨changed, answer⟩ := refresh_of_live found
    obtain ⟨fresh, stored, listed, hashed⟩ := exists_clean_refresh found
    rw [refreshed, refresh_of_clean stored listed hashed, refreshed, answer]

theorem collectionGenerate_again (graph : ChunkGraph) (id : CollectionId) :
    (graph.refresh id).2.collectionGenerate id = graph.collectionGenerate id := by
  rw [collectionGenerate, collectionGenerate, refreshed_again]

/-- Only an unknown collection has no hash. -/
theorem fst_collectionHash_eq_error_iff {id : CollectionId} {cause : AssemblyError} :
    (graph.collectionHash id).1 = .error cause ↔ graph.collection? id = none ∧ cause = .collectionNotFound id := by
  cases found : graph.collection? id with
  | none =>
    rw [collectionHash, refreshed_of_gone found]
    simp [Except.map, eq_comm]
  | some collection =>
    obtain ⟨changed, answer⟩ := refresh_of_live found
    obtain ⟨fresh, stored, -⟩ := exists_clean_refresh found
    rw [collectionHash, refreshed, answer]
    simp [stored, Except.map]

theorem Sound.refreshed_eq (sound : graph.Sound) {id : CollectionId} {collection : ChunkCollection}
    (found : graph.collection? id = some collection) :
    graph.refreshed id = (.ok (graph.upToDate collection), (graph.refresh id).2) := by
  obtain ⟨⟨changed, answer⟩, -, collections⟩ := sound.refresh_of_found found
  have found' := collections id
  rw [if_pos rfl] at found'
  have split : graph.refresh id = (.ok changed, (graph.refresh id).2) := Prod.ext answer rfl
  rw [refreshed, split]
  simp only [found']

theorem generateAll_of_bare (same : after.bare = before.bare) (stamp : String) (actives : List ChunkId) :
    after.generateAll stamp actives = before.generateAll stamp actives := by
  rw [← generateAll_bare, same, generateAll_bare]

theorem Sound.collectionHash_eq (sound : graph.Sound) {id : CollectionId} {collection : ChunkCollection}
    (found : graph.collection? id = some collection) :
    graph.collectionHash id = (.ok (graph.upToDate collection).hash, (graph.refresh id).2) := by
  rw [collectionHash, sound.refreshed_eq found]
  rfl

theorem Sound.collectionActives_eq (sound : graph.Sound) {id : CollectionId} {collection : ChunkCollection}
    (found : graph.collection? id = some collection) :
    graph.collectionActives id = (.ok (graph.upToDate collection).actives, (graph.refresh id).2) := by
  rw [collectionActives, sound.refreshed_eq found]
  rfl

theorem Sound.collectionGenerate_eq (sound : graph.Sound) {id : CollectionId} {collection : ChunkCollection}
    (found : graph.collection? id = some collection) :
    graph.collectionGenerate id =
      (graph.generateAll (graph.upToDate collection).hash (graph.upToDate collection).actives,
        (graph.refresh id).2) := by
  rw [collectionGenerate, sound.refreshed_eq found]
  exact Prod.ext (generateAll_of_bare (bare_refresh id) ..) rfl

/-! ## Setup -/

/-- A failed setup has no chunks to upload. -/
theorem snd_collectionSetup (id : CollectionId) (declares : String → Bool) :
    ∃ actives, (graph.collectionSetup id declares).2 = ((graph.refresh id).2.uploadsOfAll declares actives).2 := by
  rw [← snd_refreshed]
  unfold collectionSetup
  split
  · next failed =>
    rw [failed]
    exact ⟨[], rfl⟩
  · next answered =>
    rw [answered]
    exact ⟨_, rfl⟩

section

variable (keeps : ChunkGraph → Prop)
  (settled : ∀ graph id, keeps graph → keeps (graph.modifyNode id fun node => { node with pending := false }))
include settled

/-- What is kept when the values of a chunk no longer wait, an upload keeps. -/
theorem uploadsOf_keeps (start : keeps graph) (id : ChunkId) (declares : String → Bool) :
    keeps (graph.uploadsOf id declares).2 := by
  unfold uploadsOf
  split
  · exact start
  · split
    · exact settled graph id start
    · exact start

theorem uploadsOfAll_keeps (start : keeps graph) (declares : String → Bool) (actives : List ChunkId) :
    keeps (graph.uploadsOfAll declares actives).2 := by
  induction actives generalizing graph with
  | nil => exact start
  | cons id rest ih => exact ih (uploadsOf_keeps keeps settled start id declares)

theorem setup_keeps (start : keeps graph) (id : ChunkId) (declares : String → Bool) :
    keeps (graph.setup id declares).2 := by
  unfold setup
  split
  · exact start
  · exact uploadsOf_keeps keeps settled start _ declares

end

/-- Whether its values wait is no part of a bare chunk. -/
theorem bare_settled (graph : ChunkGraph) (id : ChunkId) :
    (graph.modifyNode id fun node => { node with pending := false }).bare = graph.bare :=
  bare_modifyNode_of_same id fun _ => rfl

theorem bare_uploadsOf (id : ChunkId) (declares : String → Bool) :
    (graph.uploadsOf id declares).2.bare = graph.bare :=
  uploadsOf_keeps (fun after => after.bare = graph.bare) (fun before chunk => (bare_settled before chunk).trans) rfl id
    declares

/-- What the nodes of some chunks upload if they take part in setup. -/
def uploadsBelow (graph : ChunkGraph) (declares : String → Bool) (actives : List ChunkId) : List UniformCall :=
  (graph.nodesOf actives).flatMap fun node => if node.caps.setup then node.chunk.uploads declares else []

theorem uploadsBelow_of_bare {before after : ChunkGraph} (same : after.bare = before.bare) (declares : String → Bool)
    (actives : List ChunkId) : after.uploadsBelow declares actives = before.uploadsBelow declares actives := by
  have bare : ∀ graph : ChunkGraph, graph.bare.uploadsBelow declares actives = graph.uploadsBelow declares actives := by
    intro graph
    rw [uploadsBelow, nodesOf_bare, List.flatMap_map]
    rfl
  rw [← bare after, same, bare before]

theorem fst_uploadsOfAll (declares : String → Bool) (actives : List ChunkId) :
    (graph.uploadsOfAll declares actives).1 = graph.uploadsBelow declares actives := by
  induction actives generalizing graph with
  | nil => rfl
  | cons id rest ih =>
    have later := (@ih (graph.uploadsOf id declares).2).trans
      (uploadsBelow_of_bare (bare_uploadsOf id declares) declares rest)
    rw [uploadsOfAll]
    dsimp only
    rw [later]
    unfold uploadsOf
    cases found : graph.node? id with
    | none => simp [uploadsBelow, nodesOf, found]
    | some node => by_cases setup : node.caps.setup <;> simp [uploadsBelow, nodesOf, found, setup]

theorem Sound.collectionSetup_eq (sound : graph.Sound) {id : CollectionId} {collection : ChunkCollection}
    (found : graph.collection? id = some collection) (declares : String → Bool) :
    (graph.collectionSetup id declares).1 =
      .ok (graph.uploadsBelow declares (graph.flattenAll collection.roots).actives) := by
  rw [collectionSetup, sound.refreshed_eq found]
  dsimp only
  rw [fst_uploadsOfAll, uploadsBelow_of_bare (bare_refresh id)]
  rfl

end ShaderWeave.ChunkGraph
