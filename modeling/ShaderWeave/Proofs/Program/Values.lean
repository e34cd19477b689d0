import ShaderWeave.Proofs.Lighting.Repeats
import ShaderWeave.Proofs.Lighting.Roots

/-! # Changes of values

Lights move, turn and fade from one update to the next. As long as no light changes the form of its shadow map, or begins or
ceases to cast shadows, an update writes values only: collections stay up to date, and programs are found in the cache.
-/

namespace ShaderWeave

open ChunkGraph

namespace LightModel

/-- The models that are made, and operated on in graphs to which anything may happen. -/
inductive Made : LightModel → Prop where
  | new {graph : ChunkGraph} {settings : LightModelSettings} {model : LightModel} :
      (new graph settings).1 = .ok model → Made model
  | step {model : LightModel} (graph : ChunkGraph) (op : Op) : Made model → Made (model.step graph op).1

variable {model revalued : LightModel}

theorem Made.distinct (made : model.Made) : model.chunks.inOrder.Nodup := by
  induction made with
  | @new graph settings model made =>
    obtain ⟨model', -, -, made', -, -, -, -, nodup, -⟩ := new_spec graph settings
    obtain rfl : model' = model := Except.ok.inj (made'.symm.trans made)
    exact nodup.of_cons
  | step graph op _ ih =>
    rw [chunks_step]
    exact ih

/-- **Changes of values recompile nothing.** After an update that came to its end, the chunks of the model stay as they are
while other things happen to the graph, and some collections are refreshed. If lights then get other values, which are no
part of the code, another update marks no collection and changes neither slots nor the hash of the pool. So the collections
that were refreshed have no marks and the hash that they had, and a cache that still has the program that was given for one
of them gives it again. -/
theorem update_of_values (made : model.Made) {before updated graph : ChunkGraph}
    (ended : model.update before = (.ok (), updated))
    (same : ∀ id ∈ model.chunks.inOrder, graph.chunk? id = updated.chunk? id) (values : Revalued model revalued)
    (ids : List CollectionId) :
    let refreshed := graph.refreshAll ids
    ∃ after, revalued.update refreshed = (.ok (), after) ∧ Still model.chunks refreshed after ∧
      ∀ id ∈ ids, ∀ old, graph.collection? id = some old →
        ∃ collection, refreshed.collection? id = some collection ∧ after.collection? id = some collection ∧
          collection.listDirty = false ∧ collection.codeDirty = false ∧
          refreshed.collectionHash id = (.ok collection.hash, refreshed) ∧
          after.collectionHash id = (.ok collection.hash, after) ∧
          ∀ (P : Type) (template : Template) (cache : ProgramCache) (ledger : ProgramLedger P) (backend : Backend P)
            (program : ProgramId),
            let answer := cache.compileCollection ledger backend template refreshed id
            let key := Request.key (template, collection.hash)
            answer.1 = .ok program → answer.2.1.get? key = some program ∧
              ∀ (later : ProgramCache) (ledger : ProgramLedger P) (backend : Backend P), later.get? key = some program →
                later.compileCollection ledger backend template after id =
                  (.ok program, later.countHit, ledger.retain program, after) := by
  intro refreshed
  have kept : ∀ id ∈ model.chunks.inOrder, refreshed.chunk? id = updated.chunk? id := fun id member =>
    (chunk?_of_bare (bare_refreshAll ids) id).trans (same id member)
  obtain ⟨after, again, still⟩ := update_again made.distinct ended kept values.chunks values.sameTraits
  refine ⟨after, again, still, fun id member old live => ?_⟩
  obtain ⟨collection, found, listed, hashed⟩ := exists_clean_refreshAll live (.inl member)
  have found' : after.collection? id = some collection := by
    rw [collection?, still.collections]
    exact found
  have hash := collectionHash_of_clean found listed hashed
  have hash' := collectionHash_of_clean found' listed hashed
  refine ⟨collection, found, found', listed, hashed, hash, hash', ?_⟩
  intro P template cache ledger backend program answer key given
  have asked : ProgramCache.collectionKey? template refreshed id = some key := by
    rw [ProgramCache.collectionKey?, hash]
    rfl
  have asked' : ProgramCache.collectionKey? template after id = some key := by
    rw [ProgramCache.collectionKey?, hash']
    rfl
  have served := cache.served_compileCollection ledger backend template refreshed id
  rw [asked] at served
  refine ⟨served.get?_eq given, fun later ledger backend cached => ?_⟩
  rw [ProgramCache.compileCollection_of_get? asked' cached ledger backend, hash']

/-- A model with a light that casts shadows, and a collection of its root. The light gets another color. -/
theorem update_of_recolored_light :
    ∃ (model revalued : LightModel) (before updated graph after : ChunkGraph) (id : LightId) (light : Light)
        (collection : CollectionId) (content fresh : ChunkCollection),
      model.Made ∧ model.update before = (.ok (), updated) ∧
      (∀ id ∈ model.chunks.inOrder, graph.chunk? id = updated.chunk? id) ∧ Revalued model revalued ∧
      model.light? id = some light ∧ light.castShadows = true ∧ light.color = .ones ∧
      revalued.light? id = some { light with color := .zero } ∧
      graph.collection? collection = some content ∧ content.roots = [model.chunks.root] ∧
      revalued.update (graph.refreshAll [collection]) = (.ok (), after) ∧
      Still model.chunks (graph.refreshAll [collection]) after ∧ after.collection? collection = some fresh ∧
      fresh.listDirty = false ∧ fresh.codeDirty = false := by
  obtain ⟨bare, new, intact, -⟩ := new_intact .empty {}
  let light := (Light.directional .backward).withShadow {}
  let id := (bare.lights.insert light).1
  let lit := bare.step (LightModel.new .empty {}).2 (.addLight light)
  let model := lit.1
  have made : model.Made := .step _ (.addLight light) (.new new)
  have found : model.light? id = some light := by
    have lights : model.lights = (bare.lights.insert light).2 := by
      simp only [model, lit, LightModel.step, LightModel.addLight]
      split <;> rfl
    rw [light?, lights]
    exact bare.lights.get?_insert_self light
  have reached : Reached _ model lit.2 := .addLight light (.new new)
  obtain ⟨updated, ended, -⟩ := reached.kept.update
  have stepped : Framed (LightModel.new .empty {}).2 lit.2 := bare.framed_step _ (.addLight light)
  have updates : Framed lit.2 updated := by
    have framed := model.framed_update lit.2
    rwa [ended] at framed
  have chunks : model.chunks = bare.chunks := bare.chunks_step _ (.addLight light)
  obtain ⟨root, live, -⟩ := (intact.framed (stepped.trans updates)).root
  rw [← chunks] at live
  let collection := updated.createCollection.1
  let graph := (updated.createCollection.2.addRoot collection model.chunks.root).2
  obtain ⟨nodes, rooted⟩ := updated.addRoot_createCollection live
  have same : ∀ id ∈ model.chunks.inOrder, graph.chunk? id = updated.chunk? id := fun id _ => by
    rw [chunk?, chunk?, node?, node?, nodes]
  let change : Light → Light := fun light => { light with color := .zero }
  have values : Revalued model (model.modifyLight id change) := .modify id change .refl fun _ _ => ⟨rfl, rfl, rfl⟩
  have changed : (model.modifyLight id change).light? id = some { light with color := .zero } := by
    rw [light?, modifyLight, Arena.get?_modify, if_pos rfl]
    exact congrArg (Option.map change) found
  obtain ⟨after, again, still, collections⟩ := update_of_values made ended same values [collection]
  obtain ⟨fresh, -, fresh', listed, hashed, -⟩ := collections collection (List.mem_singleton_self _) _ rooted
  exact ⟨model, model.modifyLight id change, lit.2, updated, graph, after, id, light, collection, _, fresh, made, ended, same,
    values, found, rfl, rfl, changed, rooted, rfl, again, still, fresh', listed, hashed⟩

end LightModel

end ShaderWeave
