import Mathlib.Logic.Function.Basic
import ShaderWeave.Proofs.Program.Cache

/-! # Sessions

A session has one program cache, and any number of graphs and of light models in them. Whatever the order of edits,
operations of models, requests and evictions, a request is answered by a program with the texts that its template
gives with the code of this moment.
-/

namespace ShaderWeave

variable {P : Type}

/-- Graphs are numbered, and a model stands beside the number of the graph that it was made in. -/
structure Session (P : Type) where
  graphs : Nat → ChunkGraph
  models : List (Nat × LightModel)
  cache : ProgramCache
  ledger : ProgramLedger P
  /-- What programs were asked for so far. -/
  asked : List Request

inductive SessionOp (P : Type) where
  | edit (graph : Nat) (op : GraphOp)
  | newModel (graph : Nat) (settings : LightModelSettings)
  /-- An operation of the model at a position, on any of the graphs. -/
  | operate (position graph : Nat) (op : LightModel.Op)
  | compile (backend : Backend P) (template : Template) (graph : Nat) (collection : CollectionId)
  | release (program : ProgramId)
  | purge
  | clear
  /-- Somebody else takes a reference. -/
  | retain (program : ProgramId)
  /-- Somebody else drops a reference. -/
  | drop (program : ProgramId)

/-- The operation, with texts noted. -/
def SessionOp.noting : SessionOp P → SessionOp (Noted P)
  | .edit graph op => .edit graph op
  | .newModel graph settings => .newModel graph settings
  | .operate position graph op => .operate position graph op
  | .compile backend template graph collection => .compile backend.noting template graph collection
  | .release program => .release program
  | .purge => .purge
  | .clear => .clear
  | .retain program => .retain program
  | .drop program => .drop program

namespace Session

def start (context : ContextId) (settings : CacheSettings) : Session P where
  graphs _ := .empty
  models := []
  cache := .new context settings
  ledger := {}
  asked := []

def setGraph (session : Session P) (number : Nat) (graph : ChunkGraph) : Session P :=
  { session with graphs := Function.update session.graphs number graph }

/-- The answer of the cache to a request, with what it leaves. -/
def answer (session : Session P) (backend : Backend P) (template : Template) (graph : Nat) (collection : CollectionId) :
    Outcome (ProgramCache × ProgramLedger P × ChunkGraph) ProgramId :=
  session.cache.compileCollection session.ledger backend template (session.graphs graph) collection

/-- The session after an operation, which may have failed. -/
def step (session : Session P) : SessionOp P → Session P
  | .edit graph op => session.setGraph graph ((session.graphs graph).step op)
  | .newModel graph settings =>
    let made := LightModel.new (session.graphs graph) settings
    let session := session.setGraph graph made.2
    match made.1 with
    | .ok model => { session with models := session.models ++ [(graph, model)] }
    | .error _ => session
  | .operate position graph op =>
    match session.models[position]? with
    | none => session
    | some (home, model) =>
      let (model, after) := model.step (session.graphs graph) op
      { session.setGraph graph after with models := session.models.set position (home, model) }
  | .compile backend template graph collection =>
    let (_, cache, ledger, after) := session.answer backend template graph collection
    { session.setGraph graph after with
      cache
      ledger
      asked := session.asked ++ Request.ofCollection template (session.graphs graph) collection }
  | .release program =>
    let (_, cache, ledger) := session.cache.release session.ledger program
    { session with cache, ledger }
  | .purge =>
    let (_, cache, ledger) := session.cache.purge session.ledger
    { session with cache, ledger }
  | .clear =>
    let (cache, ledger) := session.cache.clear session.ledger
    { session with cache, ledger }
  | .retain program => { session with ledger := session.ledger.retain program }
  | .drop program => { session with ledger := session.ledger.release program }

/-- Whether the key of a chunk is one that a model of its graph was given for its code. -/
def Belongs (session : Session P) (graph : Nat) (id : ChunkId) : Prop :=
  ∃ model ∈ session.models, model.1 = graph ∧ id ∈ model.2.chunks.inOrder

/-- Chunks of models are rewritten by the models only, and requests are for code of models. -/
def Allows (session : Session P) : SessionOp P → Prop
  | .edit graph (.rewrite id _) => ¬ session.Belongs graph id
  | .compile _ _ graph collection =>
    ∀ found, (session.graphs graph).collection? collection = some found →
      ∀ id ∈ ((session.graphs graph).flattenAll found.roots).actives, ∀ node,
        (session.graphs graph).node? id = some node → node.caps.code = true → session.Belongs graph id
  | _ => True

/-- The sessions that runs from a fresh cache and empty graphs lead to, with the texts of all programs noted. -/
inductive Reached : Session (Noted P) → Prop where
  | start (context : ContextId) (settings : CacheSettings) : Reached (.start context settings)
  | step {session : Session (Noted P)} (op : SessionOp P) : Reached session → session.Allows op.noting →
      Reached (session.step op.noting)

/-! ## Notes -/

/-- The session without its notes. -/
def plain (session : Session (Noted P)) : Session P :=
  ⟨session.graphs, session.models, session.cache, session.ledger.plain, session.asked⟩

variable {session : Session (Noted P)}

theorem answer_plain (session : Session (Noted P)) (backend : Backend P) (template : Template) (graph : Nat)
    (collection : CollectionId) :
    session.plain.answer backend template graph collection =
      let noted := session.answer backend.noting template graph collection
      (noted.1, noted.2.1, noted.2.2.1.plain, noted.2.2.2) :=
  session.cache.compileCollection_plain session.ledger backend template (session.graphs graph) collection

/-- A session goes the same way whether texts are noted or not. -/
theorem plain_step (session : Session (Noted P)) (op : SessionOp P) :
    (session.step op.noting).plain = session.plain.step op := by
  cases op with
  | edit graph op => rfl
  | newModel graph settings =>
    simp only [SessionOp.noting, step, plain]
    split <;> rfl
  | operate position graph op =>
    simp only [SessionOp.noting, step, plain]
    split <;> rfl
  | compile backend template graph collection =>
    simp only [SessionOp.noting, step, answer_plain]
    rfl
  | release program =>
    simp only [SessionOp.noting, step, plain, ProgramCache.release_plain]
  | purge => simp only [SessionOp.noting, step, plain, ProgramCache.purge_plain]
  | clear => simp only [SessionOp.noting, step, plain, ProgramCache.clear_plain]
  | retain program => simp only [SessionOp.noting, step, plain, ProgramLedger.plain, ProgramLedger.map_retain]
  | drop program => simp only [SessionOp.noting, step, plain, ProgramLedger.plain, ProgramLedger.map_release]

/-! ## What a session keeps -/

/-- Chunks of models are rewritten by the models only. -/
def Spares (session : Session (Noted P)) : SessionOp P → Prop
  | .edit graph (.rewrite id _) => ¬ session.Belongs graph id
  | _ => True

/-- What an operation does to one of the graphs. -/
inductive Alters (session : Session (Noted P)) (op : SessionOp P) (number : Nat) : ChunkGraph → Prop where
  | same : Alters session op number (session.graphs number)
  | edit {change : GraphOp} (edits : op = .edit number change) :
      Alters session op number ((session.graphs number).step change)
  | newModel {settings : LightModelSettings} (makes : op = .newModel number settings) :
      Alters session op number (LightModel.new (session.graphs number) settings).2
  | operate {position home : Nat} {model : LightModel} {change : LightModel.Op}
      (operates : op = .operate position number change) (found : session.models[position]? = some (home, model)) :
      Alters session op number (model.step (session.graphs number) change).2
  | ask {backend : Backend P} {template : Template} {collection : CollectionId}
      (asks : op = .compile backend template number collection) :
      Alters session op number (session.answer backend.noting template number collection).2.2.2

/-- One graph takes the place of another, and the rest stay. -/
private theorem alters_update {op : SessionOp P} {graph : Nat} {after : ChunkGraph}
    (alters : session.Alters op graph after) (number : Nat) :
    session.Alters op number (Function.update session.graphs graph after number) := by
  by_cases here : number = graph
  · subst here
    rwa [Function.update_self]
  · rw [Function.update_of_ne here]
    exact .same

theorem alters_step (session : Session (Noted P)) (op : SessionOp P) (number : Nat) :
    session.Alters op number ((session.step op.noting).graphs number) := by
  cases op with
  | edit graph change => exact alters_update (.edit rfl) number
  | newModel graph settings =>
    simp only [SessionOp.noting, Session.step]
    split <;> exact alters_update (.newModel rfl) number
  | operate position graph change =>
    simp only [SessionOp.noting, Session.step]
    split
    · exact .same
    · next found => exact alters_update (.operate rfl found) number
  | compile backend template graph collection => exact alters_update (.ask rfl) number
  | _ => exact .same

/-- A model is new, or it was there before with the same chunks. -/
theorem mem_models_step {op : SessionOp P} {home : Nat} {model : LightModel}
    (member : (home, model) ∈ (session.step op.noting).models) :
    (∃ old, (home, old) ∈ session.models ∧ model.chunks = old.chunks) ∨
      ∃ settings, op = .newModel home settings ∧ (LightModel.new (session.graphs home) settings).1 = .ok model := by
  cases op with
  | newModel graph settings =>
    simp only [SessionOp.noting, step] at member
    split at member
    · next made =>
      rcases List.mem_append.1 member with old | new
      · exact .inl ⟨model, old, rfl⟩
      · cases List.mem_singleton.1 new
        exact .inr ⟨settings, rfl, made⟩
    · exact .inl ⟨model, member, rfl⟩
  | operate position graph op =>
    simp only [SessionOp.noting, step] at member
    split at member
    · exact .inl ⟨model, member, rfl⟩
    · next number old found =>
      rcases List.mem_or_eq_of_mem_set member with kept | new
      · exact .inl ⟨model, kept, rfl⟩
      · cases new
        exact .inl ⟨old, List.mem_of_getElem? found, old.chunks_step _ op⟩
  | _ => exact .inl ⟨model, member, rfl⟩

theorem graphs_newModel (session : Session (Noted P)) (graph : Nat) (settings : LightModelSettings) :
    (session.step (SessionOp.newModel graph settings).noting).graphs graph =
      (LightModel.new (session.graphs graph) settings).2 := by
  simp only [SessionOp.noting, Session.step]
  split <;> exact Function.update_self ..

/-- Bookkeeping is sound, and models have their keys. -/
structure Tended (session : Session (Noted P)) : Prop where
  graphs : ∀ number, (session.graphs number).Sound
  keys : ∀ graph id, session.Belongs graph id → (session.graphs graph).LightKey id

theorem Tended.start (context : ContextId) (settings : CacheSettings) :
    (start context settings : Session (Noted P)).Tended where
  graphs _ := .empty
  keys graph id belongs := by
    obtain ⟨model, member, -⟩ := belongs
    cases member

theorem Alters.sound {op : SessionOp P} {number : Nat} {after : ChunkGraph} (alters : session.Alters op number after)
    (sound : (session.graphs number).Sound) : after.Sound := by
  cases alters with
  | same => exact sound
  | edit => exact sound.step _
  | newModel => exact (LightModel.upholds_new _ _).sound sound
  | operate => exact (LightModel.upholds_step _ _ _).sound sound
  | ask => exact (ProgramCache.compileCollection_graph sound ..).1

/-- A key of a model stays one as long as nobody else rewrites the chunk. -/
theorem Alters.lightKey {op : SessionOp P} {number : Nat} {after : ChunkGraph} (alters : session.Alters op number after)
    (tended : session.Tended) (spared : session.Spares op) {id : ChunkId} (belongs : session.Belongs number id) :
    after.LightKey id := by
  have key := tended.keys number id belongs
  cases alters with
  | same => exact key
  | edit edits =>
    refine key.spared (ChunkGraph.spares_step ?_)
    rintro chunk rfl
    subst edits
    exact spared belongs
  | newModel => exact (LightModel.upholds_new _ _).keys id key
  | operate => exact (LightModel.upholds_step _ _ _).keys id key
  | ask => exact key.spared (.of_bare (ProgramCache.compileCollection_graph (tended.graphs number) ..).2)

theorem Tended.step (tended : session.Tended) {op : SessionOp P} (spared : session.Spares op) :
    (session.step op.noting).Tended := by
  refine ⟨fun number => (session.alters_step op number).sound (tended.graphs number), ?_⟩
  rintro home id ⟨model, member, rfl, isChunk⟩
  rcases mem_models_step member with ⟨old, known, chunks⟩ | ⟨settings, rfl, made⟩
  · rw [chunks] at isChunk
    exact (session.alters_step op model.1).lightKey tended spared ⟨_, known, rfl, isChunk⟩
  · rw [graphs_newModel]
    exact LightModel.lightKey_new made isChunk

/-- Besides, each program of the cache was made for a request. -/
structure Invariant (session : Session (Noted P)) : Prop extends session.Tended where
  answers : ∀ entry ∈ session.cache.entries, ProgramCache.Answers session.asked session.ledger entry

theorem Invariant.start (context : ContextId) (settings : CacheSettings) :
    (start context settings : Session (Noted P)).Invariant where
  toTended := .start context settings
  answers entry member := by cases member

/-- The code that a request is for is that of light models. -/
theorem Invariant.light (invariant : session.Invariant) {backend : Backend P} {template : Template} {graph : Nat}
    {collection : CollectionId} (allowed : session.Allows (.compile backend.noting template graph collection)) :
    ∀ found, (session.graphs graph).collection? collection = some found →
      ∀ chunk ∈ (session.graphs graph).codeBelow found.roots, chunk.LightCode := by
  intro found live chunk member
  obtain ⟨node, isNode, rfl⟩ := List.mem_map.1 member
  obtain ⟨isActive, code⟩ := List.mem_filter.1 isNode
  obtain ⟨id, active, held⟩ := List.mem_filterMap.1 isActive
  apply (invariant.keys graph id (allowed found live id active node held code)).light node.chunk
  rw [ChunkGraph.chunk?, held]
  rfl

/-- The cache loses programs. -/
private theorem Invariant.answers_of_cache (invariant : session.Invariant) {cache : ProgramCache}
    {ledger : ProgramLedger (Noted P)} (entries : cache.entries ⊆ session.cache.entries)
    (programs : ∀ id, ledger.program? id = session.ledger.program? id) :
    ∀ entry ∈ cache.entries, ProgramCache.Answers session.asked ledger entry := fun entry member =>
  (invariant.answers entry (entries member)).later (List.Subset.refl _) fun id _ held => (programs id).trans held

theorem spares_of_allows {op : SessionOp P} (allowed : session.Allows op.noting) : session.Spares op := by
  cases op with
  | edit graph op =>
    cases op with
    | rewrite id chunk => exact allowed
    | _ => trivial
  | _ => trivial

theorem Invariant.step (invariant : session.Invariant) {op : SessionOp P} (allowed : session.Allows op.noting) :
    (session.step op.noting).Invariant := by
  refine ⟨invariant.toTended.step (spares_of_allows allowed), ?_⟩
  cases op with
  | edit graph op => exact invariant.answers
  | newModel graph settings =>
    simp only [SessionOp.noting, Session.step]
    split <;> exact invariant.answers
  | operate position graph op =>
    simp only [SessionOp.noting, Session.step]
    split <;> exact invariant.answers
  | compile backend template graph collection =>
    exact ProgramCache.Answers.compileCollection invariant.answers (invariant.graphs graph) (invariant.light allowed) rfl
  | release program =>
    obtain ⟨entries, programs⟩ := session.cache.release_spec session.ledger program
    exact invariant.answers_of_cache entries programs
  | purge =>
    obtain ⟨entries, programs⟩ := session.cache.purge_spec session.ledger
    exact invariant.answers_of_cache entries programs
  | clear => exact invariant.answers_of_cache (List.nil_subset _) fun id => session.ledger.program?_releaseAll _ id
  | retain program =>
    exact invariant.answers_of_cache (List.Subset.refl _) fun id => session.ledger.program?_retain program id
  | drop program =>
    exact invariant.answers_of_cache (List.Subset.refl _) fun id => session.ledger.program?_release program id

theorem Reached.invariant (reached : session.Reached) : session.Invariant := by
  induction reached with
  | start context settings => exact .start context settings
  | step op _ allowed ih => exact ih.step allowed

/-! ## Answers along a run -/

/-- Whether a program is found or made, its texts are those of the template with the code that the active chunks of
the collection have at this moment. -/
theorem compile_agrees (reached : session.Reached) {backend : Backend P} {template : Template} {graph : Nat}
    {collection : CollectionId} (allowed : session.Allows (.compile backend.noting template graph collection))
    (distinct : Request.Distinct (session.step (.compile backend.noting template graph collection)).asked)
    {program : ProgramId} (given : (session.plain.answer backend template graph collection).1 = .ok program) :
    ∃ found slots made, (session.graphs graph).collection? collection = some found ∧
      (session.graphs graph).generateAll
        ((session.graphs graph).joinedHash ((session.graphs graph).flattenAll found.roots).actives)
        ((session.graphs graph).flattenAll found.roots).actives = .ok slots ∧
      (session.step (.compile backend.noting template graph collection)).ledger.program? program = some made ∧
      made.texts = template.resolve slots := by
  rw [answer_plain] at given
  have invariant := reached.invariant
  obtain ⟨found, slots, made, live, code, stored, texts⟩ := ProgramCache.texts_of_compileCollection invariant.answers
    (invariant.graphs graph) (invariant.light allowed) distinct rfl given
  exact ⟨found, slots, made, live, (ChunkGraph.generateAll_upToDate _ found).trans code, stored, texts⟩

/-! ## Asking twice -/

theorem step_compile_graph (session : Session P) (backend : Backend P) (template : Template) (graph : Nat)
    (collection : CollectionId) :
    (session.step (.compile backend template graph collection)).graphs graph =
      (session.answer backend template graph collection).2.2.2 :=
  Function.update_self ..

/-- A request may be made again right away, and is for the same code. -/
theorem Invariant.again (invariant : session.Invariant) {backend : Backend P} {template : Template} {graph : Nat}
    {collection : CollectionId} (allowed : session.Allows (.compile backend.noting template graph collection))
    {found : ChunkCollection} (live : (session.graphs graph).collection? collection = some found) :
    let again := session.step (.compile backend.noting template graph collection)
    again.Allows (.compile backend.noting template graph collection) ∧
      ∃ found', (again.graphs graph).collection? collection = some found' ∧
        (again.graphs graph).codeBelow found'.roots = (session.graphs graph).codeBelow found.roots := by
  intro again
  have sound := invariant.graphs graph
  have bare : (again.graphs graph).bare = (session.graphs graph).bare := by
    rw [step_compile_graph]
    exact (ProgramCache.compileCollection_graph sound session.cache session.ledger backend.noting template collection).2
  obtain ⟨found', live', roots⟩ := Option.map_eq_some_iff.1
    ((ChunkGraph.roots_of_bare bare collection).trans (congrArg (Option.map _) live))
  replace roots : found'.roots = found.roots := roots
  have sameCode : (again.graphs graph).codeBelow found'.roots = (session.graphs graph).codeBelow found.roots := by
    rw [roots]
    exact sound.codeBelow_of_bare bare live
  refine ⟨?_, found', live', sameCode⟩
  intro other isOther id active node held code
  obtain rfl : found' = other := Option.some.inj (live'.symm.trans isOther)
  have lists := sound.wellFormed.flattenAll_of_shape (sound.listed collection found live).roots
    (ChunkGraph.shape?_of_bare bare)
  have nodes := ChunkGraph.node?_of_bare bare id
  rw [held] at nodes
  obtain ⟨old, heldOld, same⟩ := Option.map_eq_some_iff.1 nodes.symm
  have caps : old.bare.caps = node.bare.caps := by rw [same]
  rw [roots, lists] at active
  exact allowed found live id active old heldOld (caps ▸ code : old.bare.caps.code = true)

/-- A collection may have the flag of a new model as its root. -/
private theorem flag_session :
    ∃ (session : Session (Noted Program)) (collection : CollectionId) (found : ChunkCollection),
      session.Reached ∧ session.asked = [] ∧ (session.graphs 0).collection? collection = some found ∧
      (session.graphs 0).codeBelow found.roots = [.flag ⟨"iblShadowing", false⟩] ∧
      ∀ backend template, session.Allows (.compile backend template 0 collection) := by
  obtain ⟨model, filter, depth, made, leaves⟩ := LightModel.new_leaves .empty {}
  have leaf := (List.forall₂_cons.1 (show List.Forall₂ _ (_ :: _) (_ :: _) from leaves)).1
  let flag := model.chunks.iblShadowing
  let graph := (LightModel.new .empty {}).2
  let collection := graph.createCollection.1
  let fresh : Session (Noted Program) := .start ⟨1⟩ {}
  let modelled := fresh.step (.newModel 0 {})
  let session := (modelled.step (.edit 0 .createCollection)).step (.edit 0 (.addRoot collection flag))
  have reached : session.Reached :=
    .step (.edit 0 (.addRoot collection flag))
      (.step (.edit 0 .createCollection) (.step (.newModel 0 {}) (.start ⟨1⟩ {}) trivial) trivial) trivial
  have isModelled : modelled = { fresh.setGraph 0 graph with models := [(0, model)] } := by
    simp only [modelled, Session.step, fresh, start, made]
    rfl
  have models : session.models = [(0, model)] := by
    simp only [session, isModelled]
    rfl
  have asked : session.asked = [] := by
    simp only [session, isModelled]
    rfl
  have known : graph.createCollection.2.collection? collection = some {} := by
    rw [ChunkGraph.collection?_createCollection, if_pos rfl]
  have rooted : session.graphs 0 = graph.createCollection.2.modifyCollection collection fun content =>
      content.withRoots (content.roots ++ [flag]) := by
    have added : session.graphs 0 = (graph.createCollection.2.addRoot collection flag).2 := by
      simp only [session, isModelled]
      rfl
    rw [added, ChunkGraph.addRoot, ChunkGraph.node?_createCollection, leaf, known]
    rfl
  have live : (session.graphs 0).node? flag = some (.ofChunk (.flag ⟨"iblShadowing", false⟩)) := by
    rw [rooted]
    exact leaf
  have found : (session.graphs 0).collection? collection = some (({} : ChunkCollection).withRoots [flag]) := by
    rw [rooted, ChunkGraph.collection?_modifyCollection, if_pos rfl, known]
    rfl
  obtain ⟨actives, code⟩ := (reached.invariant.graphs 0).wellFormed.acyclic.codeBelow_leaf live rfl rfl rfl
  refine ⟨session, collection, _, reached, asked, found, code, ?_⟩
  intro backend template content held id active _ _ _
  obtain rfl := Option.some.inj (found.symm.trans held)
  obtain rfl : id = flag := List.mem_singleton.1 (actives ▸ active)
  exact ⟨(0, model), models ▸ List.mem_singleton_self _, rfl, List.mem_cons_self ..⟩

/-- A template with a place for definitions. -/
def flat : Template := ⟨"flat", "", "#pragma SLOT definitions"⟩

/-- The flag of a new model is asked for twice, and the program that was made for it is found again. -/
theorem compile_finds_flag :
    ∃ (session : Session (Noted Program)) (collection : CollectionId) (program : ProgramId) (made : Noted Program),
      session.Reached ∧ session.asked = [(flat, "iblShadowing0")] ∧
      (session.plain.answer (.recording ⟨1⟩) flat 0 collection).1 = .ok program ∧
      (session.step (.compile (Backend.recording ⟨1⟩).noting flat 0 collection)).ledger.program? program = some made ∧
      made.texts = ("", "const iblShadowing: bool = false;\n") := by
  obtain ⟨session, collection, found, reached, unasked, live, code, allows⟩ := flag_session
  let backend : Backend Program := .recording ⟨1⟩
  let again := session.step (.compile backend.noting flat 0 collection)
  have sound := reached.invariant.graphs 0
  have rendered : Chunk.render ((session.graphs 0).codeBelow found.roots) =
      .ok ((SlotBuffer.stamped "iblShadowing0").add definitionsSlot (Flag.code ⟨"iblShadowing", false⟩)) := by
    rw [code]
    rfl
  obtain ⟨program, given⟩ :=
    @ProgramCache.compileCollection_eq_ok _ _ _ sound _ live _ rendered session.cache session.ledger backend flat _ rfl
  have reached' : again.Reached := .step (.compile backend flat 0 collection) reached (allows backend.noting flat)
  obtain ⟨allowed, found', live', code'⟩ := reached.invariant.again (allows backend.noting flat) live
  have asked : again.asked = [(flat, "iblShadowing0")] := by
    change session.asked ++ Request.ofCollection flat (session.graphs 0) collection = _
    rw [unasked, ProgramCache.ofCollection_of_found sound live, code]
    rfl
  have askedTwice : (again.step (.compile backend.noting flat 0 collection)).asked =
      [(flat, "iblShadowing0"), (flat, "iblShadowing0")] := by
    change again.asked ++ Request.ofCollection flat (again.graphs 0) collection = _
    rw [asked, ProgramCache.ofCollection_of_found (reached'.invariant.graphs 0) live', code', code]
    rfl
  have distinct : Request.Distinct (again.step (.compile backend.noting flat 0 collection)).asked := by
    constructor <;> simp [askedTwice]
  have given' : (again.plain.answer backend flat 0 collection).1 = .ok program := by
    rw [answer_plain]
    exact ProgramCache.compileCollection_again sound rfl given backend
  obtain ⟨other, slots, made, isOther, generated, stored, texts⟩ := compile_agrees reached' allowed distinct given'
  obtain rfl : found' = other := Option.some.inj (live'.symm.trans isOther)
  have rendered' := (ChunkGraph.generateAll_upToDate (again.graphs 0) found').symm.trans generated
  rw [code', rendered] at rendered'
  refine ⟨again, collection, program, made, reached', asked, given', stored, ?_⟩
  rw [texts, ← Except.ok.inj rendered']
  decide +kernel

end Session

end ShaderWeave
