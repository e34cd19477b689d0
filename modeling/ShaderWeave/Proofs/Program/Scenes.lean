import ShaderWeave.Proofs.Lighting.Roots
import ShaderWeave.Proofs.Lighting.Runs
import ShaderWeave.Proofs.Program.Sessions

/-! # Scenes

Along a session the root of a model takes part in nothing and the chunks of the model go on having code, whatever
happens in their graph. So a collection with the root of a model for its only root asks for code of models, as
long as the root leads to the chunks of the model.

The simplest session with a model is a scene: the model is made, goes through some operations, and its root then
becomes the root of a collection.
-/

namespace ShaderWeave

variable {P : Type}

namespace Session

/-- All active chunks of a collection that have code belong to models. -/
def OfModels (session : Session P) (graph : Nat) (collection : CollectionId) : Prop :=
  ∀ found, (session.graphs graph).collection? collection = some found →
    ∀ id ∈ ((session.graphs graph).flattenAll found.roots).actives, ∀ node,
      (session.graphs graph).node? id = some node → node.caps.code = true → session.Belongs graph id

variable {session : Session (Noted P)} {graph : Nat} {collection : CollectionId}

theorem Invariant.lightCode (invariant : session.Invariant) (models : session.OfModels graph collection)
    {found : ChunkCollection} (live : (session.graphs graph).collection? collection = some found) :
    ∀ chunk ∈ (session.graphs graph).codeBelow found.roots, chunk.LightCode := by
  have allowed : session.Allows (.compile (Backend.refusing ⟨0⟩ "" : Backend P).noting flat graph collection) := models
  exact invariant.light allowed found live

/-! ## What models take part in -/

theorem Alters.persists {op : SessionOp P} {number : Nat} {after : ChunkGraph} (alters : session.Alters op number after)
    (sound : (session.graphs number).Sound) : (session.graphs number).Persists after := by
  cases alters with
  | same => exact .refl _
  | edit => exact ChunkGraph.persists_step _ _
  | newModel => exact LightModel.persists_new _ _
  | operate => exact (LightModel.framed_step _ _ _).persists
  | ask => exact ChunkGraph.persists_of_bare (ProgramCache.compileCollection_graph sound ..).2

/-- No graph of a session forgets what the chunks under its keys take part in. -/
theorem Tended.persists (tended : session.Tended) (op : SessionOp P) (number : Nat) :
    (session.graphs number).Persists ((session.step op.noting).graphs number) :=
  (session.alters_step op number).persists (tended.graphs number)

/-- The sessions that runs by a rule lead to, with the texts of all programs noted. -/
inductive Ruled (rule : Session (Noted P) → SessionOp P → Prop) : Session (Noted P) → Prop where
  | start (context : ContextId) (settings : CacheSettings) : Ruled rule (.start context settings)
  | step {session : Session (Noted P)} (op : SessionOp P) : Ruled rule session → rule session op →
      Ruled rule (session.step op.noting)

theorem Ruled.mono {rule weaker : Session (Noted P) → SessionOp P → Prop} (ruled : Ruled rule session)
    (implies : ∀ session op, rule session op → weaker session op) : Ruled weaker session := by
  induction ruled with
  | start context settings => exact .start context settings
  | step op _ allowed ih => exact ih.step op (implies _ op allowed)

/-- What a session becomes by a rule, as long as nobody operates the model at a position. -/
inductive Meanwhile (rule : Session (Noted P) → SessionOp P → Prop) (position : Nat) (before : Session (Noted P)) :
    Session (Noted P) → Prop where
  | refl : Meanwhile rule position before before
  | step {session : Session (Noted P)} (op : SessionOp P) : Meanwhile rule position before session → rule session op →
      (∀ graph change, op ≠ .operate position graph change) → Meanwhile rule position before (session.step op.noting)

theorem Meanwhile.ruled {rule : Session (Noted P) → SessionOp P → Prop} {position : Nat} {before : Session (Noted P)}
    (meanwhile : Meanwhile rule position before session) (ruled : Ruled rule before) : Ruled rule session := by
  induction meanwhile with
  | refl => exact ruled
  | step op _ allowed _ ih => exact ih.step op allowed

theorem Meanwhile.mono {rule weaker : Session (Noted P) → SessionOp P → Prop} {position : Nat} {before : Session (Noted P)}
    (meanwhile : Meanwhile rule position before session) (implies : ∀ session op, rule session op → weaker session op) :
    Meanwhile weaker position before session := by
  induction meanwhile with
  | refl => exact .refl
  | step op _ allowed rests ih => exact ih.step op (implies _ op allowed) rests

theorem Reached.ruled (reached : session.Reached) : Ruled (fun session op => session.Allows op.noting) session := by
  induction reached with
  | start context settings => exact .start context settings
  | step op _ allowed ih => exact ih.step op allowed

theorem Ruled.reached (ruled : Ruled (fun session op => session.Allows op.noting) session) : session.Reached := by
  induction ruled with
  | start context settings => exact .start context settings
  | step op _ allowed ih => exact ih.step op allowed

theorem Ruled.tended (ruled : Ruled Spares session) : session.Tended := by
  induction ruled with
  | start context settings => exact .start context settings
  | step op _ spared ih => exact ih.step spared

/-- Every model of a session was made in some graph, and its graph forgot nothing since then. -/
theorem Ruled.exists_new (ruled : Ruled Spares session) {home : Nat} {model : LightModel}
    (member : (home, model) ∈ session.models) :
    ∃ graph settings made, (LightModel.new graph settings).1 = .ok made ∧ model.chunks = made.chunks ∧
      (LightModel.new graph settings).2.Persists (session.graphs home) := by
  induction ruled generalizing model with
  | start context settings => cases member
  | @step session op before _ ih =>
    rcases mem_models_step member with ⟨old, known, chunks⟩ | ⟨settings, rfl, made⟩
    · obtain ⟨graph, settings, first, made, same, persists⟩ := ih known
      exact ⟨graph, settings, first, made, chunks.trans same, persists.trans (before.tended.persists op home)⟩
    · exact ⟨session.graphs home, settings, model, made, rfl, session.graphs_newModel home settings ▸ .refl _⟩

/-- Along every session, the root of a model takes part in nothing, and its chunks have code. -/
theorem Ruled.capped (ruled : Ruled Spares session) {home : Nat} {model : LightModel}
    (member : (home, model) ∈ session.models) : model.chunks.Capped (session.graphs home) := by
  obtain ⟨graph, settings, first, made, chunks, persists⟩ := ruled.exists_new member
  obtain ⟨new, made', -, capped⟩ := LightModel.new_intact graph settings
  obtain rfl : new = first := Except.ok.inj (made'.symm.trans made)
  rw [chunks]
  exact capped.persists persists

/-- Along every session, the pool and the buckets of a model have values to upload. -/
theorem Ruled.uploading (ruled : Ruled Spares session) {home : Nat} {model : LightModel}
    (member : (home, model) ∈ session.models) : model.chunks.Uploading (session.graphs home) := by
  obtain ⟨graph, settings, first, made, chunks, persists⟩ := ruled.exists_new member
  rw [chunks]
  exact (LightModel.new_uploading made).persists persists

theorem Reached.capped (reached : session.Reached) {home : Nat} {model : LightModel}
    (member : (home, model) ∈ session.models) : model.chunks.Capped (session.graphs home) :=
  (reached.ruled.mono fun _ _ => spares_of_allows).capped member

/-- A collection whose only root is that of a model asks for code of models. -/
theorem Reached.ofModels (reached : session.Reached) {model : LightModel} (member : (graph, model) ∈ session.models)
    (intact : model.chunks.Intact (session.graphs graph)) {found : ChunkCollection}
    (live : (session.graphs graph).collection? collection = some found) (roots : found.roots = [model.chunks.root]) :
    session.OfModels graph collection := by
  intro other held id active node isNode code
  obtain rfl : other = found := Option.some.inj (held.symm.trans live)
  rw [roots, intact.actives (reached.invariant.graphs graph).wellFormed] at active
  rcases List.mem_append.1 active with below | root
  · exact ⟨(graph, model), member, rfl, below⟩
  · obtain rfl := List.mem_singleton.1 root
    rw [(reached.capped member).root.caps node isNode] at code
    cases code

/-! ## Scenes -/

end Session

/-- A model and its graph after some operations. -/
def LightModel.run (model : LightModel) (graph : ChunkGraph) (ops : List LightModel.Op) : LightModel × ChunkGraph :=
  ops.foldl (fun (model, graph) op => model.step graph op) (model, graph)

theorem LightModel.run_concat (model : LightModel) (graph : ChunkGraph) (ops : List LightModel.Op) (op : LightModel.Op) :
    model.run graph (ops ++ [op]) = (model.run graph ops).1.step (model.run graph ops).2 op :=
  List.foldl_concat ..

theorem LightModel.chunks_run (model : LightModel) (graph : ChunkGraph) (ops : List LightModel.Op) :
    (model.run graph ops).1.chunks = model.chunks := by
  induction ops generalizing model graph with
  | nil => rfl
  | cons op rest ih => exact (ih _ _).trans (model.chunks_step graph op)

theorem LightModel.framed_run (model : LightModel) (graph : ChunkGraph) (ops : List LightModel.Op) :
    graph.Framed (model.run graph ops).2 := by
  induction ops generalizing model graph with
  | nil => exact .refl graph
  | cons op rest ih => exact (model.framed_step graph op).trans (ih _ _)

namespace Session

variable {rule : Session (Noted P) → SessionOp P → Prop} {ops : List LightModel.Op}

/-- A rule by which a model may be made and go through some operations, and collections may get roots. -/
structure Stages (rule : Session (Noted P) → SessionOp P → Prop) (ops : List LightModel.Op) : Prop where
  newModel : ∀ session settings, rule session (.newModel 0 settings)
  operate : ∀ session model, session.models = [(0, model)] → ∀ op ∈ ops, rule session (.operate 0 0 op)
  createCollection : ∀ session, rule session (.edit 0 .createCollection)
  addRoot : ∀ session collection root, rule session (.edit 0 (.addRoot collection root))

private theorem exists_operated {model : LightModel} {session : Session (Noted P)} (ruled : Ruled rule session)
    (operate : ∀ session model, session.models = [(0, model)] → ∀ op ∈ ops, rule session (.operate 0 0 op))
    (models : session.models = [(0, model)]) :
    ∃ after : Session (Noted P), Ruled rule after ∧ after.asked = session.asked ∧
      after.models = [(0, (model.run (session.graphs 0) ops).1)] ∧
      after.graphs 0 = (model.run (session.graphs 0) ops).2 := by
  induction ops generalizing model session with
  | nil => exact ⟨session, ruled, rfl, models, rfl⟩
  | cons op rest ih =>
    have next : session.step (SessionOp.operate 0 0 op).noting =
        { session.setGraph 0 (model.step (session.graphs 0) op).2 with
          models := [(0, (model.step (session.graphs 0) op).1)] } := by
      simp only [SessionOp.noting, step, models]
      rfl
    obtain ⟨after, done, asked, models', graph⟩ :=
      ih (ruled.step (.operate 0 0 op) (operate session model models op (List.mem_cons_self ..)))
        (fun session model models other member => operate session model models other (List.mem_cons_of_mem _ member))
        (show (session.step (SessionOp.operate 0 0 op).noting).models = [(0, (model.step (session.graphs 0) op).1)] by
          rw [next])
    have here : (session.step (SessionOp.operate 0 0 op).noting).graphs 0 = (model.step (session.graphs 0) op).2 := by
      rw [next]
      rfl
    refine ⟨after, done, ?_, ?_, ?_⟩
    · rw [asked, next]
      rfl
    · rw [models', here]
      rfl
    · rw [graph, here]
      rfl

/-- A session with one model and a collection of its root. Nothing was asked for yet. -/
structure Scene (session : Session (Noted P)) (model : LightModel) (collection : CollectionId)
    (found : ChunkCollection) : Prop where
  reached : session.Reached
  asked : session.asked = []
  models : session.models = [(0, model)]
  intact : model.chunks.Intact (session.graphs 0)
  live : (session.graphs 0).collection? collection = some found
  roots : found.roots = [model.chunks.root]

theorem Scene.ofModels {model : LightModel} {found : ChunkCollection} (scene : Scene session model collection found) :
    session.OfModels 0 collection :=
  scene.reached.ofModels (scene.models ▸ List.mem_singleton_self _) scene.intact scene.live scene.roots

theorem Scene.codeBelow {model : LightModel} {found : ChunkCollection} (scene : Scene session model collection found) :
    (session.graphs 0).codeBelow found.roots = model.chunks.inOrder.filterMap (session.graphs 0).chunk? := by
  rw [scene.roots]
  have capped := scene.reached.capped (scene.models ▸ List.mem_singleton_self _)
  exact scene.intact.codeBelow capped (scene.reached.invariant.graphs 0).wellFormed

theorem Scene.hash_eq {model : LightModel} {found : ChunkCollection} (scene : Scene session model collection found) :
    ((session.graphs 0).collectionHash collection).1 =
      .ok (Chunk.joinedHash ((session.graphs 0).codeBelow found.roots)) := by
  rw [(scene.reached.invariant.graphs 0).collectionHash_eq scene.live, ChunkGraph.hash_upToDate]

theorem Scene.generate_eq {model : LightModel} {found : ChunkCollection}
    (scene : Scene session model collection found) :
    ((session.graphs 0).collectionGenerate collection).1 =
      Chunk.render ((session.graphs 0).codeBelow found.roots) := by
  rw [(scene.reached.invariant.graphs 0).collectionGenerate_eq scene.live, ChunkGraph.generateAll_upToDate]

/-- Every model can be made and go through some operations, by every rule that lets it. -/
theorem exists_ruled_model (settings : LightModelSettings) (stages : Stages rule ops) :
    ∃ model, (LightModel.new .empty settings).1 = .ok model ∧ model.chunks.Intact (LightModel.new .empty settings).2 ∧
      ∃ session : Session (Noted P), Ruled rule session ∧ session.asked = [] ∧
        session.models = [(0, (model.run (LightModel.new .empty settings).2 ops).1)] ∧
        session.graphs 0 = (model.run (LightModel.new .empty settings).2 ops).2 := by
  obtain ⟨model, made, intact, -⟩ := LightModel.new_intact .empty settings
  refine ⟨model, made, intact, ?_⟩
  let fresh : Session (Noted P) := .start ⟨0⟩ {}
  have modelled : fresh.step (SessionOp.newModel 0 settings).noting =
      { fresh.setGraph 0 (LightModel.new .empty settings).2 with models := [(0, model)] } := by
    simp only [SessionOp.noting, step, fresh, start, made]
    rfl
  have here : (fresh.step (SessionOp.newModel 0 settings).noting).graphs 0 = (LightModel.new .empty settings).2 := by
    rw [modelled]
    rfl
  obtain ⟨operated, ruled, asked, models, graph⟩ := exists_operated
    (.step (.newModel 0 settings) (.start ⟨0⟩ {}) (stages.newModel fresh settings)) stages.operate
    (show (fresh.step (SessionOp.newModel 0 settings).noting).models = [(0, model)] by rw [modelled])
  rw [here] at models graph
  exact ⟨operated, ruled, asked.trans (congrArg Session.asked modelled), models, graph⟩

/-- A collection of the root of a model can be made, and nothing else changes. -/
theorem exists_rooted {before : Session (Noted P)} {model : LightModel} (intact : model.chunks.Intact (before.graphs 0))
    (createCollection : ∀ session, rule session (.edit 0 .createCollection))
    (addRoot : ∀ session collection root, rule session (.edit 0 (.addRoot collection root))) (position : Nat) :
    ∃ (session : Session (Noted P)) (collection : CollectionId), Meanwhile rule position before session ∧
      session.asked = before.asked ∧ session.models = before.models ∧
      (session.graphs 0).nodes = (before.graphs 0).nodes ∧
      (session.graphs 0).collection? collection = some (({} : ChunkCollection).withRoots [model.chunks.root]) := by
  let gathered := (before.graphs 0).createCollection
  let session := (before.step (SessionOp.edit 0 .createCollection).noting).step
    (SessionOp.edit 0 (.addRoot gathered.1 model.chunks.root)).noting
  have rooted : session.graphs 0 = (gathered.2.addRoot gathered.1 model.chunks.root).2 := by
    simp only [session, SessionOp.noting, step, setGraph, Function.update_self, ChunkGraph.step, gathered]
  obtain ⟨root, found, -, -⟩ := intact.root
  obtain ⟨nodes, live⟩ := (before.graphs 0).addRoot_createCollection found
  refine ⟨session, gathered.1, ?_, rfl, rfl, rooted ▸ nodes, rooted ▸ live⟩
  exact .step (.edit 0 (.addRoot gathered.1 model.chunks.root))
    (.step (.edit 0 .createCollection) .refl (createCollection before) (by simp)) (addRoot _ _ _) (by simp)

/-- Every model can be staged, after any operations, by every rule that lets it. -/
theorem exists_ruled_scene (settings : LightModelSettings) (stages : Stages rule ops) :
    ∃ model, (LightModel.new .empty settings).1 = .ok model ∧
      ∃ (session : Session (Noted P)) (collection : CollectionId) (found : ChunkCollection),
        Scene session (model.run (LightModel.new .empty settings).2 ops).1 collection found ∧ Ruled rule session ∧
          (session.graphs 0).nodes = (model.run (LightModel.new .empty settings).2 ops).2.nodes := by
  let both := fun (session : Session (Noted P)) op => session.Allows op.noting ∧ rule session op
  have staged : Stages both ops := ⟨fun session settings => ⟨trivial, stages.newModel session settings⟩,
    fun session model models op member => ⟨trivial, stages.operate session model models op member⟩,
    fun session => ⟨trivial, stages.createCollection session⟩,
    fun session collection root => ⟨trivial, stages.addRoot session collection root⟩⟩
  obtain ⟨model, made, intact, operated, ruled, asked, models, graph⟩ := exists_ruled_model settings staged
  refine ⟨model, made, ?_⟩
  have chunks := model.chunks_run (LightModel.new .empty settings).2 ops
  have intact' : (model.run (LightModel.new .empty settings).2 ops).1.chunks.Intact (operated.graphs 0) := by
    rw [chunks, graph]
    exact intact.framed (model.framed_run (LightModel.new .empty settings).2 ops)
  obtain ⟨session, collection, meanwhile, asked', models', nodes, live⟩ :=
    exists_rooted intact' staged.createCollection staged.addRoot 0
  have ruled' := meanwhile.ruled ruled
  refine ⟨session, collection, _, ⟨(ruled'.mono fun _ _ allowed => allowed.1).reached, asked'.trans asked,
    models'.trans models, intact'.of_nodes nodes, live, rfl⟩, ruled'.mono fun _ _ allowed => allowed.2, ?_⟩
  exact nodes.trans (congrArg ChunkGraph.nodes graph)

private theorem stages_of_anything (ops : List LightModel.Op) :
    Stages (fun (_ : Session (Noted P)) (_ : SessionOp P) => True) ops := ⟨by simp, by simp, by simp, by simp⟩

theorem exists_scene (P : Type) (settings : LightModelSettings) (ops : List LightModel.Op) :
    ∃ model, (LightModel.new .empty settings).1 = .ok model ∧
      ∃ (session : Session (Noted P)) (collection : CollectionId) (found : ChunkCollection),
        Scene session (model.run (LightModel.new .empty settings).2 ops).1 collection found ∧
          (session.graphs 0).nodes = (model.run (LightModel.new .empty settings).2 ops).2.nodes := by
  obtain ⟨model, made, session, collection, found, scene, -, nodes⟩ :=
    exists_ruled_scene settings (stages_of_anything (P := P) ops)
  exact ⟨model, made, session, collection, found, scene, nodes⟩

end Session

/-- The code of a new model in an empty graph, after some operations. -/
def LightModel.codeAfter (settings : LightModelSettings) (ops : List LightModel.Op) : List Chunk :=
  match assemble .empty settings with
  | (.ok model, graph) => model.chunks.inOrder.filterMap (model.run graph ops).2.chunk?
  | (.error _, _) => []

/-- The code of a model in a graph with the same nodes. -/
theorem LightModel.codeAfter_eq {settings : LightModelSettings} {model : LightModel}
    (made : (LightModel.new .empty settings).1 = .ok model) {ops : List LightModel.Op} {graph : ChunkGraph}
    (nodes : graph.nodes = (model.run (LightModel.new .empty settings).2 ops).2.nodes) :
    model.chunks.inOrder.filterMap graph.chunk? = LightModel.codeAfter settings ops := by
  rw [LightModel.new_eq_assemble] at made nodes
  have assembled : LightModel.assemble .empty settings = (.ok model, (LightModel.assemble .empty settings).2) :=
    Prod.ext made rfl
  rw [LightModel.codeAfter, assembled]
  apply List.filterMap_congr
  intro id _
  rw [ChunkGraph.chunk?, ChunkGraph.node?, nodes]
  rfl

namespace Session

theorem exists_ruled_scene_of_code {rule : Session (Noted P) → SessionOp P → Prop} (settings : LightModelSettings)
    {ops : List LightModel.Op} (stages : Stages rule ops) :
    ∃ (session : Session (Noted P)) (model : LightModel) (collection : CollectionId) (found : ChunkCollection),
      Scene session model collection found ∧ Ruled rule session ∧
        (session.graphs 0).codeBelow found.roots = LightModel.codeAfter settings ops := by
  obtain ⟨model, made, session, collection, found, scene, ruled, nodes⟩ := exists_ruled_scene settings stages
  refine ⟨session, _, collection, found, scene, ruled, ?_⟩
  rw [scene.codeBelow, LightModel.chunks_run]
  exact LightModel.codeAfter_eq made nodes

theorem exists_scene_of_code (P : Type) (settings : LightModelSettings) (ops : List LightModel.Op) :
    ∃ (session : Session (Noted P)) (model : LightModel) (collection : CollectionId) (found : ChunkCollection),
      Scene session model collection found ∧
        (session.graphs 0).codeBelow found.roots = LightModel.codeAfter settings ops := by
  obtain ⟨session, model, collection, found, scene, -, code⟩ :=
    exists_ruled_scene_of_code settings (stages_of_anything (P := P) ops)
  exact ⟨session, model, collection, found, scene, code⟩

end Session

end ShaderWeave
