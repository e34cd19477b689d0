import ShaderWeave.Proofs.Program.Scenes

/-! # Models beside each other

A session may have many models, and several of them in one graph. As long as each is operated in its own graph, a model
notices neither the others nor what else happens around it: it is as after a run of its own, or it lost a chunk
for good.
-/

namespace ShaderWeave

namespace LightModel

variable {graph : ChunkGraph} {model : LightModel} {id : ChunkId}

/-- Whether no light gets another type. -/
def KeepsTypes (model : LightModel) : Op → Prop
  | .modifyLight id change => ∀ light, model.light? id = some light → (change light).type = light.type
  | _ => True

theorem Reached.step {order : List LightId} (reached : Reached order model graph) {op : Op}
    (keeps : model.KeepsTypes op) : ∃ order', Reached order' (model.step graph op).1 (model.step graph op).2 := by
  cases op with
  | addLight light => exact ⟨_, reached.addLight light⟩
  | removeLight id => exact ⟨_, reached.removeLight id⟩
  | modifyLight id change => exact ⟨_, reached.modifyLight id change keeps⟩
  | setShadowFiltering filtering => exact ⟨_, reached.setShadowFiltering filtering⟩
  | setIblShadowing enabled => exact ⟨_, reached.setIblShadowing enabled⟩
  | update => exact ⟨_, reached.update⟩

/-! ## What an operation leaves alone -/

/-- An operation changes chunks of its model only. -/
theorem chunk?_step (foreign : id ∉ model.chunks.inOrder) (op : Op) :
    (model.step graph op).2.chunk? id = graph.chunk? id :=
  (model.writes_step graph op).chunk?_eq foreign

/-! ## New models -/

theorem spares_new (id : ChunkId) (graph : ChunkGraph) (settings : LightModelSettings) :
    ChunkGraph.Spares id graph (new graph settings).2 :=
  new_keeps (.refl id) .trans (fun _ chunk => ChunkGraph.spares_insert chunk)
    (fun _ parent child => ChunkGraph.spares_addChild parent child) graph settings

/-- The keys of a new model were never handed out before. -/
theorem new_not_issued {settings : LightModelSettings} (made : (new graph settings).1 = .ok model)
    (member : id ∈ model.chunks.inOrder) : ¬ graph.nodes.Issued id := by
  have fresh : ∀ (chunks : List Chunk) (graph : ChunkGraph), id ∈ (graph.insertAll chunks).1 →
      ¬ graph.nodes.Issued id := by
    intro chunks
    induction chunks with
    | nil => simp [ChunkGraph.insertAll]
    | cons chunk rest ih =>
      intro graph member issued
      rcases List.mem_cons.1 member with rfl | later
      · exact graph.nodes.not_issued_insert_key (.ofChunk chunk) issued
      · exact ih _ later (issued.insert _)
  obtain ⟨chunks, filter, depth, -, -, keys, made'⟩ := new_eq graph settings
  rw [made'] at made
  obtain rfl := Except.ok.inj made
  exact fresh _ graph (keys ▸ List.mem_cons_of_mem _ member)

/-- A model is as after a run of its own, or it lost a chunk. -/
def Sole (model : LightModel) (graph : ChunkGraph) : Prop :=
  (∃ id ∈ model.chunks.inOrder, graph.chunk? id = none) ∨ ∃ order, Reached order model graph

theorem Sole.spared {after : ChunkGraph} (sole : model.Sole graph)
    (issued : ∀ id ∈ model.chunks.inOrder, graph.nodes.Issued id)
    (spares : ∀ id ∈ model.chunks.inOrder, ChunkGraph.Spares id graph after) : model.Sole after := by
  rcases sole with ⟨id, member, gone⟩ | ⟨order, reached⟩
  · refine .inl ⟨id, member, ?_⟩
    rcases (spares id member).chunk (issued id member) with same | lost
    · exact same.trans gone
    · exact lost
  · by_cases whole : ∀ id ∈ model.chunks.inOrder, after.chunk? id = graph.chunk? id
    · exact .inr ⟨order, reached.elsewhere whole⟩
    · obtain ⟨id, member, changed⟩ : ∃ id ∈ model.chunks.inOrder, after.chunk? id ≠ graph.chunk? id := by
        simpa using whole
      exact .inl ⟨id, member, ((spares id member).chunk (issued id member)).resolve_left changed⟩

theorem Sole.step (sole : model.Sole graph) {op : Op} (keeps : model.KeepsTypes op) :
    (model.step graph op).1.Sole (model.step graph op).2 := by
  rcases sole with ⟨id, member, gone⟩ | ⟨order, reached⟩
  · refine .inl ⟨id, by rwa [model.chunks_step], ?_⟩
    have frames := (model.framed_step graph op).frames id
    rw [ChunkGraph.chunk?, Option.map_eq_none_iff] at gone ⊢
    rwa [gone, Option.map_none, Option.map_eq_none_iff] at frames
  · exact .inr (reached.step keeps)

end LightModel

namespace Session

variable {P : Type} {session : Session (Noted P)}

/-- Chunks of models are changed by their models only, each model is operated in its own graph, and no light gets
another type. -/
def Minds (session : Session (Noted P)) : SessionOp P → Prop
  | .operate position graph op => ∀ home model, session.models[position]? = some (home, model) →
      graph = home ∧ model.KeepsTypes op
  | op => session.Spares op

theorem spares_of_minds {op : SessionOp P} (minds : session.Minds op) : session.Spares op := by
  cases op with
  | operate position graph op => trivial
  | _ => exact minds

/-- No two models have a chunk in common, and each of them goes its own way. -/
structure Neighbourly (session : Session (Noted P)) : Prop extends session.Tended where
  apart : ∀ (first second home : Nat) (one other : LightModel), first ≠ second →
    session.models[first]? = some (home, one) → session.models[second]? = some (home, other) →
    one.chunks.inOrder.Disjoint other.chunks.inOrder
  sole : ∀ home model, (home, model) ∈ session.models → model.Sole (session.graphs home)

theorem Neighbourly.start (context : ContextId) (settings : CacheSettings) :
    (start context settings : Session (Noted P)).Neighbourly where
  toTended := .start context settings
  apart first second home one other _ known := by cases known
  sole home model member := by cases member

theorem Neighbourly.issued (neighbourly : session.Neighbourly) {home : Nat} {model : LightModel}
    (member : (home, model) ∈ session.models) {id : ChunkId} (isChunk : id ∈ model.chunks.inOrder) :
    (session.graphs home).nodes.Issued id :=
  (neighbourly.keys home id ⟨_, member, rfl, isChunk⟩).issued

private theorem Neighbourly.spares_of_alters (neighbourly : session.Neighbourly) {op : SessionOp P} (minds : session.Minds op)
    {position home : Nat} {model : LightModel} (found : session.models[position]? = some (home, model))
    (rests : ∀ graph change, op ≠ .operate position graph change) {id : ChunkId} (isChunk : id ∈ model.chunks.inOrder)
    {after : ChunkGraph} (alters : session.Alters op home after) :
    ChunkGraph.Spares id (session.graphs home) after := by
  cases alters with
  | same => exact .refl id _
  | edit edits =>
    refine ChunkGraph.spares_step ?_
    rintro chunk rfl
    subst edits
    exact minds ⟨_, List.mem_of_getElem? found, rfl, isChunk⟩
  | newModel => exact LightModel.spares_new id _ _
  | @operate other number operated change operates held =>
    subst operates
    have away : position ≠ other := fun same => rests home change (by rw [same])
    obtain ⟨rfl, -⟩ := minds _ _ held
    have foreign : id ∉ operated.chunks.inOrder := neighbourly.apart position other _ model operated away found held isChunk
    exact ⟨(operated.framed_step _ change).issued id, fun _ => .inl (LightModel.chunk?_step foreign change)⟩
  | ask => exact .of_bare (ProgramCache.compileCollection_graph (neighbourly.graphs home) ..).2

/-- Whatever else happens, the chunks of a model that is not operated stay as they are, or they are lost. -/
theorem Neighbourly.spares (neighbourly : session.Neighbourly) {op : SessionOp P} (minds : session.Minds op)
    {position home : Nat} {model : LightModel} (found : session.models[position]? = some (home, model))
    (rests : ∀ graph change, op ≠ .operate position graph change) {id : ChunkId} (isChunk : id ∈ model.chunks.inOrder) :
    ChunkGraph.Spares id (session.graphs home) ((session.step op.noting).graphs home) :=
  neighbourly.spares_of_alters minds found rests isChunk (session.alters_step op home)

/-- A model that is not operated stays where it is. -/
theorem models_step_of_rests {op : SessionOp P} {position : Nat} {entry : Nat × LightModel}
    (found : session.models[position]? = some entry) (rests : ∀ graph change, op ≠ .operate position graph change) :
    (session.step op.noting).models[position]? = some entry := by
  cases op with
  | newModel graph settings =>
    simp only [SessionOp.noting, Session.step]
    split
    · exact (List.getElem?_append_left (List.getElem?_eq_some_iff.1 found).1).trans found
    · exact found
  | operate other graph op =>
    have away : other ≠ position := fun same => rests graph op (by rw [same])
    simp only [SessionOp.noting, Session.step]
    split
    · exact found
    · exact (List.getElem?_set_ne away).trans found
  | _ => exact found

private theorem Neighbourly.sole_of_rests (neighbourly : session.Neighbourly) (op : SessionOp P)
    (minds : session.Minds op) {position home : Nat} {model : LightModel}
    (found : session.models[position]? = some (home, model))
    (rests : ∀ graph change, op ≠ .operate position graph change) :
    model.Sole ((session.step op.noting).graphs home) :=
  (neighbourly.sole home model (List.mem_of_getElem? found)).spared
    (fun _ => neighbourly.issued (List.mem_of_getElem? found)) fun _ => neighbourly.spares minds found rests

private theorem Neighbourly.newModel (neighbourly : session.Neighbourly) {graph : Nat}
    {settings : LightModelSettings} {new : LightModel}
    (made : (LightModel.new (session.graphs graph) settings).1 = .ok new)
    (tended : (session.step (SessionOp.newModel graph settings).noting).Tended) :
    (session.step (SessionOp.newModel graph settings).noting).Neighbourly := by
  simp only [SessionOp.noting, Session.step, made] at tended ⊢
  refine { toTended := tended, apart := ?_, sole := ?_ }
  · have known : ∀ {position home model}, (session.models ++ [(graph, new)])[position]? = some (home, model) →
        session.models[position]? = some (home, model) ∨
          position = session.models.length ∧ home = graph ∧ model = new := by
      intro position home model found
      rw [List.getElem?_append] at found
      split at found
      · exact .inl found
      · obtain ⟨inside, same⟩ := List.getElem?_eq_some_iff.1 found
        obtain ⟨rfl, rfl⟩ := Prod.mk.inj (same.symm.trans (List.getElem_singleton inside))
        have length : position - session.models.length < 1 := inside
        exact .inr ⟨by omega, rfl, rfl⟩
    have foreign : ∀ {position : Nat} {model : LightModel}, session.models[position]? = some (graph, model) →
        model.chunks.inOrder.Disjoint new.chunks.inOrder := fun found _ isChunk isNew =>
      LightModel.new_not_issued made isNew (neighbourly.issued (List.mem_of_getElem? found) isChunk)
    intro first second home one other distinct oneFound otherFound
    rcases known oneFound with isOne | ⟨rfl, rfl, rfl⟩
    · rcases known otherFound with isOther | ⟨-, rfl, rfl⟩
      · exact neighbourly.apart first second home one other distinct isOne isOther
      · exact foreign isOne
    · rcases known otherFound with isOther | ⟨rfl, -, rfl⟩
      · exact List.disjoint_comm.1 (foreign isOther)
      · exact absurd rfl distinct
  · intro home model member
    rcases List.mem_append.1 member with old | isNew
    · obtain ⟨position, found⟩ := List.getElem?_of_mem old
      have sole := neighbourly.sole_of_rests (.newModel graph settings) trivial found (by simp)
      simpa only [SessionOp.noting, Session.step, made] using sole
    · cases List.mem_singleton.1 isNew
      refine .inr ⟨[], ?_⟩
      simp only [setGraph, Function.update_self]
      exact .new made

/-- A model is operated, and changes no chunk of another model. -/
private theorem Neighbourly.operate (neighbourly : session.Neighbourly) {position graph : Nat} {operated : LightModel}
    {op : LightModel.Op} (found : session.models[position]? = some (graph, operated))
    (minds : session.Minds (.operate position graph op))
    (tended : (session.step (SessionOp.operate position graph op).noting).Tended) :
    (session.step (SessionOp.operate position graph op).noting).Neighbourly := by
  have resting := @Neighbourly.sole_of_rests _ _ neighbourly _ minds
  obtain ⟨-, keeps⟩ := minds graph operated found
  simp only [SessionOp.noting, Session.step, found] at tended resting ⊢
  have known : ∀ {other home : Nat} {model : LightModel},
      (session.models.set position (graph, (operated.step (session.graphs graph) op).1))[other]? = some (home, model) →
        other = position ∧ home = graph ∧ model = (operated.step (session.graphs graph) op).1 ∨
          other ≠ position ∧ session.models[other]? = some (home, model) := by
    intro other home model held
    rw [List.getElem?_set] at held
    split at held
    · next here =>
      obtain ⟨-, same⟩ := Option.ite_none_right_eq_some.1 held
      cases same
      exact .inl ⟨here.symm, rfl, rfl⟩
    · next away => exact .inr ⟨Ne.symm away, held⟩
  refine { toTended := tended, apart := ?_, sole := ?_ }
  · intro first second home one other distinct isOne isOther
    have before : ∀ {place : Nat} {model : LightModel},
        (session.models.set position (graph, (operated.step (session.graphs graph) op).1))[place]? = some (home, model) →
          ∃ old, session.models[place]? = some (home, old) ∧ model.chunks = old.chunks := by
      intro place model held
      rcases known held with ⟨rfl, rfl, rfl⟩ | ⟨-, held⟩
      · exact ⟨operated, found, operated.chunks_step _ op⟩
      · exact ⟨model, held, rfl⟩
    obtain ⟨old, isOld, chunks⟩ := before isOne
    obtain ⟨old', isOld', chunks'⟩ := before isOther
    rw [chunks, chunks']
    exact neighbourly.apart first second home old old' distinct isOld isOld'
  · intro home model member
    obtain ⟨other, isThere⟩ := List.getElem?_of_mem member
    rcases known isThere with ⟨rfl, rfl, rfl⟩ | ⟨away, held⟩
    · simp only [setGraph, Function.update_self]
      exact (neighbourly.sole home operated (List.mem_of_getElem? found)).step keeps
    · exact resting held fun graph change same => away (SessionOp.operate.inj same).1.symm

theorem Neighbourly.step (neighbourly : session.Neighbourly) {op : SessionOp P} (minds : session.Minds op) :
    (session.step op.noting).Neighbourly := by
  have tended := neighbourly.toTended.step (spares_of_minds minds)
  cases op with
  | edit graph op =>
    refine { toTended := tended, apart := neighbourly.apart, sole := fun home model member => ?_ }
    obtain ⟨position, found⟩ := List.getElem?_of_mem member
    exact neighbourly.sole_of_rests (.edit graph op) minds found (by simp)
  | newModel graph settings =>
    obtain ⟨new, -, -, made, -⟩ := LightModel.new_spec (session.graphs graph) settings
    exact neighbourly.newModel made tended
  | operate position graph op =>
    cases found : session.models[position]? with
    | none =>
      have same : session.step (SessionOp.operate position graph op).noting = session := by
        simp only [SessionOp.noting, Session.step, found]
      rwa [same]
    | some entry =>
      obtain ⟨rfl, -⟩ := minds entry.1 entry.2 found
      exact neighbourly.operate found minds tended
  | compile backend template graph collection =>
    refine { toTended := tended, apart := neighbourly.apart, sole := fun home model member => ?_ }
    obtain ⟨position, found⟩ := List.getElem?_of_mem member
    exact neighbourly.sole_of_rests (.compile backend template graph collection) minds found (by simp)
  | _ => exact { toTended := tended, apart := neighbourly.apart, sole := neighbourly.sole }

theorem Ruled.neighbourly (ruled : Ruled Minds session) : session.Neighbourly := by
  induction ruled with
  | start context settings => exact .start context settings
  | step op _ minds ih => exact ih.step minds

/-- As long as its root leads to its chunks, a model is as after a run of its own. -/
theorem Ruled.exists_reached (ruled : Ruled Minds session) {home : Nat} {model : LightModel}
    (member : (home, model) ∈ session.models) (intact : model.chunks.Intact (session.graphs home)) :
    ∃ order, LightModel.Reached order model (session.graphs home) := by
  refine (ruled.neighbourly.sole home model member).resolve_left ?_
  rintro ⟨id, isChunk, gone⟩
  obtain ⟨node, held, -⟩ := intact.leaves id isChunk
  rw [ChunkGraph.chunk?, held] at gone
  cases gone

/-- While a model is not operated, it stays where it is, and so do its chunks, unless they are lost. -/
theorem Meanwhile.spares {before : Session (Noted P)} {position home : Nat} {model : LightModel}
    (meanwhile : Meanwhile Minds position before session) (ruled : Ruled Minds before)
    (found : before.models[position]? = some (home, model)) :
    session.models[position]? = some (home, model) ∧
      ∀ id ∈ model.chunks.inOrder, ChunkGraph.Spares id (before.graphs home) (session.graphs home) := by
  induction meanwhile with
  | refl => exact ⟨found, fun id _ => .refl id _⟩
  | step op earlier minds rests ih =>
    obtain ⟨there, spares⟩ := ih
    have neighbourly := (earlier.ruled ruled).neighbourly
    exact ⟨models_step_of_rests there rests, fun id isChunk =>
      (spares id isChunk).trans (neighbourly.spares minds there rests isChunk)⟩

/-- If the root of a model still leads to its chunks, they are as they were when it was operated last. -/
theorem Meanwhile.chunk?_eq {before : Session (Noted P)} {position home : Nat} {model : LightModel}
    (meanwhile : Meanwhile Minds position before session) (ruled : Ruled Minds before)
    (found : before.models[position]? = some (home, model)) (intact : model.chunks.Intact (session.graphs home)) :
    ∀ id ∈ model.chunks.inOrder, (session.graphs home).chunk? id = (before.graphs home).chunk? id := by
  intro id isChunk
  have issued := ruled.neighbourly.issued (List.mem_of_getElem? found) isChunk
  refine (((meanwhile.spares ruled found).2 id isChunk).chunk issued).resolve_right fun lost => ?_
  obtain ⟨node, held, -⟩ := intact.leaves id isChunk
  rw [ChunkGraph.chunk?, held] at lost
  cases lost

/-- Models are staged without another one, so they may go through all operations that keep types. -/
theorem stages_minds {ops : List LightModel.Op} (keeps : ∀ op ∈ ops, ∀ model : LightModel, model.KeepsTypes op) :
    Stages (Minds (P := P)) ops where
  newModel _ _ := trivial
  operate session model models op member home other found := by
    rw [models] at found
    cases found
    exact ⟨rfl, keeps op member model⟩
  createCollection _ := by simp [Minds, Spares]
  addRoot _ _ _ := by simp [Minds, Spares]

end Session

end ShaderWeave
