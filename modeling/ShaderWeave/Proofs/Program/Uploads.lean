import ShaderWeave.Proofs.Lighting.Freshness
import ShaderWeave.Proofs.Program.Neighbours
import ShaderWeave.Proofs.Template.Surface
import ShaderWeave.Proofs.Uniform.Store

/-! # Uploads to programs

After an update of a light model, a collection of its root uploads values to the program that was made for it. Each of them
goes to a variable that the program declares, arrays fill the variables that they go to, and each slot gets the map
of the light that holds it.
-/

namespace ShaderWeave

open Code

/-! ## Programs that stage values -/

/-- The names that a text declares are those of its variables. -/
theorem Code.mem_names_iff {source name : String} :
    name ∈ Declared.names source ↔ ∃ type, (name, type) ∈ globals source := by
  simp only [Declared.names, List.mem_eraseDups, globals, List.mem_filterMap, global?, Option.map_eq_some_iff,
    Prod.mk.injEq]
  constructor
  · rintro ⟨line, isLine, named⟩
    exact ⟨_, line, isLine, name, named, rfl, rfl⟩
  · rintro ⟨-, line, isLine, _, named, rfl, -⟩
    exact ⟨line, isLine, named⟩

theorem Text.mem_of_mem_splitAtFeeds {text part : List Char} (isPart : part ∈ splitAtFeeds text) {char : Char}
    (member : char ∈ part) : char ∈ text := by
  induction text generalizing part with
  | nil =>
    obtain rfl := List.mem_singleton.1 isPart
    cases member
  | cons first rest ih =>
    rw [splitAtFeeds] at isPart
    split at isPart
    · rcases List.mem_cons.1 isPart with rfl | later
      · cases member
      · exact List.mem_cons_of_mem _ (ih later member)
    · split at isPart
      · obtain rfl := List.mem_singleton.1 isPart
        exact List.mem_singleton.1 member ▸ List.mem_cons_self ..
      · next here parts same =>
        rcases List.mem_cons.1 isPart with rfl | later
        · rcases List.mem_cons.1 member with rfl | inside
          · exact List.mem_cons_self ..
          · exact List.mem_cons_of_mem _ (ih (same ▸ List.mem_cons_self ..) inside)
        · exact List.mem_cons_of_mem _ (ih (same ▸ List.mem_cons_of_mem _ later) member)

theorem Text.mem_of_mem_lines {text line : List Char} (isLine : line ∈ lines text) {char : Char}
    (member : char ∈ line) : char ∈ text := by
  rcases List.mem_append.1 isLine with front | last
  · obtain ⟨part, isPart, rfl⟩ := List.mem_map.1 front
    have inside : char ∈ part := by
      unfold dropReturn at member
      split at member
      · exact List.mem_of_mem_dropLast member
      · exact member
    exact mem_of_mem_splitAtFeeds (List.mem_of_mem_dropLast isPart) inside
  · obtain ⟨isLast, -⟩ := List.mem_filter.1 last
    exact mem_of_mem_splitAtFeeds (List.mem_of_mem_getLast? (by simpa using isLast)) member

/-- A text that declares something is not blank. -/
theorem Code.not_isAllBlank {source : String} {declared : String × List Char} (member : declared ∈ globals source) :
    Text.isAllBlank source = false := by
  obtain ⟨line, isLine, named⟩ := List.mem_filterMap.1 member
  rw [global?, Option.map_eq_some_iff] at named
  obtain ⟨name, named, -⟩ := named
  cases line with
  | nil => cases named
  | cons first rest =>
    have inked : Text.isBlank first = false := by
      by_contra blank
      rw [Bool.not_eq_false] at blank
      simp [Declared.nameOf?, blank] at named
    rw [Text.isAllBlank, List.all_eq_false]
    exact ⟨first, Text.mem_of_mem_lines isLine (List.mem_cons_self ..), by simp [inked]⟩

/-- Values do not change what a program declares. -/
theorem Program.exists_setUniforms (program : StagedProgram) (calls : List UniformCall) :
    ∃ after, (Program.staged program).setUniforms calls = .staged after ∧
      after.uniforms.declared = program.uniforms.declared := by
  induction calls generalizing program with
  | nil => exact ⟨program, rfl, rfl⟩
  | cons call rest ih =>
    obtain ⟨after, set, declared⟩ := ih { program with uniforms := (program.uniforms.stage call.name call.value).2 }
    exact ⟨after, set, declared.trans (UniformStore.declared_stage ..)⟩

theorem ProgramLedger.program?_add_cases {P : Type} {ledger : ProgramLedger P} {program held : P} {context : ContextId}
    {references : Nat} {id : ProgramId}
    (found : (ledger.add program context references).2.program? id = some held) :
    ledger.program? id = some held ∨ held = program := by
  obtain ⟨number⟩ := id
  cases number with
  | zero => cases found
  | succ position =>
    obtain ⟨entry, isEntry, rfl⟩ := Option.map_eq_some_iff.1 found
    replace isEntry : (ledger.entries ++ [⟨program, context, references⟩])[position]? = some entry := isEntry
    rw [List.getElem?_append] at isEntry
    split at isEntry
    · exact .inl (congrArg (Option.map _) isEntry)
    · obtain rfl := List.mem_singleton.1 (List.mem_of_getElem? isEntry)
      exact .inr rfl

/-- A request leaves the programs that there were, and one that its backend made from the noted texts. -/
theorem ProgramCache.created_of_compileCollection {P : Type} {cache : ProgramCache}
    {ledger : ProgramLedger (Noted P)} {backend : Backend P} {template : Template} {graph : ChunkGraph}
    {collection : CollectionId} {id : ProgramId} {made : Noted P}
    (found : (cache.compileCollection ledger backend.noting template graph collection).2.2.1.program? id = some made) :
    ledger.program? id = some made ∨ ∃ label, backend.create label made.texts.1 made.texts.2 = .ok made.program := by
  unfold compileCollection at found
  split at found
  · exact .inl found
  · dsimp only at found
    split at found
    · next hit =>
      obtain ⟨_, -, same⟩ := Option.map_eq_some_iff.1 hit
      cases same
      exact .inl ((ledger.program?_retain _ id).symm.trans found)
    · split at found
      · exact .inl found
      · next slots _ _ =>
        simp only [miss, Backend.noting] at found
        cases created : backend.create template.uid (template.resolve slots).1 (template.resolve slots).2 with
        | error cause =>
          rw [created] at found
          exact .inl found
        | ok program =>
          rw [created] at found
          rcases ProgramLedger.program?_add_cases found with old | rfl
          · exact .inl old
          · exact .inr ⟨template.uid, created⟩

theorem Backend.eq_of_create_staging {context : ContextId} {label vertex fragment : String} {program : Program}
    (created : (Backend.staging context).create label vertex fragment = .ok program) :
    program = .staged (.ofSources label vertex fragment) := by
  simp only [Backend.staging, bind, Except.bind] at created
  split at created
  · cases created
  · split at created
    · cases created
    · exact (Except.ok.inj created).symm

namespace Session

variable {session before later : Session (Noted Program)}

/-- Programs are made by backends that stage values, chunks of models are changed by their models only, and requests
are for code of models. -/
structure Serves (session : Session (Noted Program)) (op : SessionOp Program) : Prop where
  allows : session.Allows op.noting
  minds : session.Minds op
  staging : ∀ backend template graph collection, op = .compile backend template graph collection →
    ∃ context, backend = .staging context

/-- Every program stages values for the names that its texts declare. -/
theorem Ruled.staged (ruled : Ruled Serves session) {id : ProgramId} {made : Noted Program}
    (found : session.ledger.program? id = some made) :
    ∃ label, made.program = .staged (.ofSources label made.texts.1 made.texts.2) := by
  induction ruled generalizing id made with
  | start context settings =>
    obtain ⟨number⟩ := id
    cases number <;> cases found
  | @step session op _ serves ih =>
    cases op with
    | edit graph op => exact ih found
    | newModel graph settings =>
      simp only [SessionOp.noting, Session.step] at found
      split at found <;> exact ih found
    | operate position graph op =>
      simp only [SessionOp.noting, Session.step] at found
      split at found <;> exact ih found
    | compile backend template graph collection =>
      rcases ProgramCache.created_of_compileCollection found with old | ⟨label, created⟩
      · exact ih old
      · obtain ⟨context, rfl⟩ := serves.staging backend template graph collection rfl
        exact ⟨label, Backend.eq_of_create_staging created⟩
    | release program => exact ih ((session.cache.release_spec session.ledger program).2 id ▸ found)
    | purge => exact ih ((session.cache.purge_spec session.ledger).2 id ▸ found)
    | clear => exact ih (session.ledger.program?_releaseAll _ id ▸ found)
    | retain program => exact ih (session.ledger.program?_retain program id ▸ found)
    | drop program => exact ih (session.ledger.program?_release program id ▸ found)

/-! ## After an update -/

theorem step_update {position home : Nat} {model : LightModel} (found : before.models[position]? = some (home, model)) :
    (before.step (.operate position home .update)).models[position]? = some (home, model) ∧
      (before.step (.operate position home .update)).graphs home = (model.update (before.graphs home)).2 := by
  have inside := (List.getElem?_eq_some_iff.1 found).1
  simp only [Session.step, found, LightModel.step]
  exact ⟨List.getElem?_set_self inside, Function.update_self ..⟩

theorem asked_update {position home : Nat} {model : LightModel} (found : before.models[position]? = some (home, model)) :
    (before.step (.operate position home .update)).asked = before.asked := by
  simp only [Session.step, found]
  rfl

theorem minds_update {position home : Nat} {model : LightModel}
    (found : before.models[position]? = some (home, model)) : before.Minds (P := Program) (.operate position home .update) := by
  intro number other held
  cases found.symm.trans held
  exact ⟨rfl, trivial⟩

/-- While a model is not operated, it stays fresh after an update. -/
theorem Meanwhile.fresh {position home : Nat} {model : LightModel}
    (meanwhile : Meanwhile Minds position (before.step (.operate position home .update)) session)
    (ruled : Ruled Minds before) (found : before.models[position]? = some (home, model))
    (intact : model.chunks.Intact (session.graphs home)) :
    (model.update (before.graphs home)).1 = .ok () ∧ model.Fresh (session.graphs home) := by
  obtain ⟨there, graph⟩ := step_update found
  have same := meanwhile.chunk?_eq (ruled.step (.operate position home .update) (minds_update found)) there intact
  rw [graph] at same
  obtain ⟨order, reached⟩ : ∃ order, LightModel.Reached order model (before.graphs home) := by
    refine (ruled.neighbourly.sole home model (List.mem_of_getElem? found)).resolve_left ?_
    rintro ⟨id, isChunk, gone⟩
    obtain ⟨node, held, -⟩ := intact.leaves id isChunk
    have frames := (model.framed_update (before.graphs home)).frames id
    rw [ChunkGraph.chunk?, Option.map_eq_none_iff] at gone
    have lost : (model.update (before.graphs home)).2.node? id = none := by simpa [gone] using frames
    have kept := same id isChunk
    rw [ChunkGraph.chunk?, ChunkGraph.chunk?, held, lost] at kept
    cases kept
  obtain ⟨after, updated, -⟩ := reached.kept.update
  exact ⟨congrArg Prod.fst updated, reached.kept.fresh_update.elsewhere same⟩

end Session

/-- A value goes to a variable of one of the texts, and if it is an array, it fills the only variable of this name. -/
structure Code.Lands (texts : String × String) (call : UniformCall) : Prop where
  declared : call.name ∈ Declared.names texts.1 ∨ call.name ∈ Declared.names texts.2
  size : ∀ width data, call.value = .floats width data → ∃ type, Holds type data.length ∧
    ∀ other, (call.name, other) ∈ globals texts.1 ++ globals texts.2 ↔ other = type

/-- What goes to a resource of a model lands in the texts that the standard template gives with the model's code. -/
theorem ModelStates.Proper.lands {states : ModelStates} (proper : states.Proper)
    (countable : ∀ chunk ∈ states.chunks, chunk.Countable) {template : Template}
    (standard : Template.standard = .ok template) {resource : Resource}
    (member : resource ∈ states.chunks.flatMap Chunk.resources) {call : UniformCall} (takes : resource.Takes call) :
    Lands (template.resolve (Chunk.filledSlots states.chunks)) call := by
  have declared := Template.mem_globals_standard standard proper.lightCode countable
  have foreign : ∀ type, (call.name, type) ∉ Template.vertexGlobals ++ Template.fragmentGlobals := by
    have own : ∀ known ∈ Template.vertexGlobals ++ Template.fragmentGlobals,
        initials known.1 = ['u', 'C'] ∨ initials known.1 = ['u', 'M'] := by decide
    intro type isOwn
    obtain ⟨camera, other⟩ := proper.initials_ne member
    rw [takes.name] at isOwn
    exact (own _ isOwn).elim camera other
  have only : ∀ other, (call.name, other) ∈ globals (template.resolve (Chunk.filledSlots states.chunks)).1 ++
      globals (template.resolve (Chunk.filledSlots states.chunks)).2 ↔ other = resource.type.toList := by
    intro other
    have strange := foreign other
    rw [List.mem_append, not_or] at strange
    rw [List.mem_append, (declared _).1, (declared _).2, or_iff_right strange.1, or_iff_right strange.2]
    constructor
    · rintro ⟨namesake, isResource, same⟩
      obtain ⟨named, rfl⟩ := Prod.mk.inj same
      rw [List.inj_on_of_nodup_map proper.nodup_resources isResource member (named.trans takes.name)]
    · rintro rfl
      exact ⟨resource, member, by rw [takes.name]⟩
  refine ⟨?_, fun width data array => ⟨_, takes.size width data array, only⟩⟩
  rw [mem_names_iff, mem_names_iff]
  exact (List.mem_append.1 ((only _).2 rfl)).imp (fun here => ⟨_, here⟩) fun here => ⟨_, here⟩

/-- With the code of a model, the standard template gives texts that a staging backend accepts. -/
theorem ModelStates.Proper.exists_staged {states : ModelStates} (proper : states.Proper)
    (countable : ∀ chunk ∈ states.chunks, chunk.Countable) {template : Template}
    (standard : Template.standard = .ok template) (context : ContextId) (label : String) :
    ∃ program, (Backend.staging context).create label (template.resolve (Chunk.filledSlots states.chunks)).1
      (template.resolve (Chunk.filledSlots states.chunks)).2 = .ok program := by
  have declared := Template.mem_globals_standard standard proper.lightCode countable
  have vertex := not_isAllBlank ((declared _).1.2 (List.mem_cons_self ..))
  have fragment := not_isAllBlank ((declared _).2.2 (.inl (List.mem_cons_self ..)))
  simp only [Backend.staging, checkStage, vertex, fragment]
  exact ⟨_, rfl⟩

namespace Session

variable {session before later : Session (Noted Program)}

/-- A request refreshes the collection, and the rest of the graph stays. -/
theorem Reached.bare_compile (reached : session.Reached) (backend : Backend Program) (template : Template) (home : Nat)
    (collection : CollectionId) :
    ((session.step (.compile backend.noting template home collection)).graphs home).bare = (session.graphs home).bare := by
  rw [step_compile_graph]
  exact (ProgramCache.compileCollection_graph (reached.invariant.graphs home) session.cache session.ledger _ template
    collection).2

/-- The code below the root of a model is that of its chunks. -/
theorem Reached.codeBelow_root (reached : session.Reached) {home : Nat} {model : LightModel}
    (member : (home, model) ∈ session.models) (intact : model.chunks.Intact (session.graphs home))
    {states : ModelStates} (states_of : states.Of model.chunks (session.graphs home)) :
    (session.graphs home).codeBelow [model.chunks.root] = states.chunks := by
  rw [intact.codeBelow (reached.capped member) (reached.invariant.graphs home).wellFormed, ← states_of.filterMap_eq]

/-- The texts of a program for a collection of a model's root are those with the code of the model. -/
theorem Reached.texts_of_root (reached : session.Reached) {home : Nat} {model : LightModel}
    (member : (home, model) ∈ session.models) (intact : model.chunks.Intact (session.graphs home))
    {collection : CollectionId} {content : ChunkCollection}
    (live : (session.graphs home).collection? collection = some content) (roots : content.roots = [model.chunks.root])
    {states : ModelStates} (states_of : states.Of model.chunks (session.graphs home)) (proper : states.Proper)
    {backend : Backend Program} {template : Template}
    (distinct : Request.Distinct (session.step (.compile backend.noting template home collection)).asked)
    {program : ProgramId} (given : (session.plain.answer backend template home collection).1 = .ok program) :
    ∃ made, (session.step (.compile backend.noting template home collection)).ledger.program? program = some made ∧
      made.texts = template.resolve (Chunk.filledSlots states.chunks) ∧ ∀ chunk ∈ states.chunks, chunk.Countable := by
  obtain ⟨other, slots, made, isOther, generated, stored, texts⟩ :=
    compile_agrees reached (reached.ofModels member intact live roots) distinct given
  obtain rfl : content = other := Option.some.inj (live.symm.trans isOther)
  have rendered := (ChunkGraph.generateAll_upToDate (session.graphs home) content).symm.trans generated
  rw [roots, reached.codeBelow_root member intact states_of] at rendered
  obtain ⟨countable, rfl⟩ := (Chunk.render_eq_ok_iff proper.lightCode).1 rendered
  exact ⟨made, stored, texts, countable⟩

theorem OfModels.serves {home : Nat} {collection : CollectionId} (ofModels : session.OfModels home collection)
    (context : ContextId) (template : Template) :
    session.Serves (.compile (.staging context) template home collection) :=
  ⟨ofModels, by simp [Minds, Spares], fun _ _ _ _ same => ⟨context, (SessionOp.compile.inj same).1.symm⟩⟩

/-- After a request for the code of a model, the collection uploads what the chunks of the model have. -/
theorem Ruled.setup_of_root (ruled : Ruled Serves session) {home : Nat} {model : LightModel}
    (member : (home, model) ∈ session.models) (intact : model.chunks.Intact (session.graphs home))
    {collection : CollectionId} {content : ChunkCollection}
    (live : (session.graphs home).collection? collection = some content) (roots : content.roots = [model.chunks.root])
    {states : ModelStates} (states_of : states.Of model.chunks (session.graphs home)) (context : ContextId)
    (template : Template) (declares : String → Bool) :
    (((session.step (.compile (Backend.staging context).noting template home collection)).graphs home).collectionSetup
      collection declares).1 = .ok (states.chunks.flatMap (·.uploads declares)) := by
  have reached := (ruled.mono fun _ _ serves => serves.allows).reached
  have graph := reached.bare_compile (.staging context) template home collection
  have spared := (ruled.step _ ((reached.ofModels member intact live roots).serves context template)).mono
    fun _ _ serves => spares_of_minds serves.minds
  obtain ⟨content', live', roots'⟩ := Option.map_eq_some_iff.1
    ((ChunkGraph.roots_of_bare graph collection).trans (congrArg (Option.map _) live))
  exact (states_of.elsewhere fun id _ => ChunkGraph.chunk?_of_bare graph id).setup_eq (spared.tended.graphs home)
    (intact.framed (ChunkGraph.framed_of_bare graph)) (spared.capped member) (spared.uploading member) live'
    (roots'.trans roots) declares

/-- After an update of a model, and until the model is operated again, a collection of its root uploads to the program
that it was given for the standard template. -/
theorem uploads_are_declared (ruled : Ruled Serves before) {position home : Nat} {model : LightModel}
    (found : before.models[position]? = some (home, model))
    (meanwhile : Meanwhile Serves position (before.step (.operate position home .update)) later)
    (intact : model.chunks.Intact (later.graphs home)) {collection : CollectionId} {content : ChunkCollection}
    (live : (later.graphs home).collection? collection = some content) (roots : content.roots = [model.chunks.root])
    {template : Template} (standard : Template.standard = .ok template) {context : ContextId}
    (distinct : Request.Distinct
      (later.step (.compile (Backend.staging context).noting template home collection)).asked)
    {program : ProgramId} (given : (later.plain.answer (.staging context) template home collection).1 = .ok program) :
    let after := later.step (.compile (Backend.staging context).noting template home collection)
    (model.update (before.graphs home)).1 = .ok () ∧
    ∃ made, after.ledger.program? program = some made ∧ ∀ earlier, ∃ staged calls,
      made.program.setUniforms earlier = .staged staged ∧
      ((after.graphs home).collectionSetup collection staged.uniforms.declares).1 = .ok calls ∧
      (∀ call ∈ calls, Lands made.texts call ∧ (staged.uniforms.stage call.name call.value).1 = true) ∧
      ∀ slot, (calls.map (·.name)).count (ShadowPool.mapName slot) ≤ 1 ∧
        ∀ call, call ∈ calls ∧ call.name = ShadowPool.mapName slot ↔
          ∃ id light map, model.light? id = some light ∧ model.slot? (after.graphs home) id = some (some slot) ∧
            light.shadow.map = some map ∧ call = ⟨ShadowPool.mapName slot, .texture map⟩ := by
  intro after
  have begun := ruled.step (.operate position home .update) ⟨trivial, minds_update found, by simp⟩
  have reached := ((meanwhile.ruled begun).mono fun _ _ serves => serves.allows).reached
  have minded := (meanwhile.ruled begun).mono fun _ _ serves => serves.minds
  have member : (home, model) ∈ later.models := List.mem_of_getElem?
    ((meanwhile.mono fun _ _ serves => serves.minds).spares (begun.mono fun _ _ serves => serves.minds)
      (step_update found).1).1
  obtain ⟨updated, fresh⟩ := (meanwhile.mono fun _ _ serves => serves.minds).fresh
    (ruled.mono fun _ _ serves => serves.minds) found intact
  obtain ⟨order, lone⟩ := minded.exists_reached member intact
  obtain ⟨pool, choice, agrees⟩ := lone.agrees
  obtain ⟨states, proper, states_of⟩ := lone.formed.exists_states
  obtain ⟨made, stored, texts, countable⟩ :=
    reached.texts_of_root member intact live roots states_of proper distinct given
  obtain ⟨label, staging⟩ := ((meanwhile.ruled begun).step _
    ((reached.ofModels member intact live roots).serves context template)).staged stored
  -- From here on all is about the graph after the request, in which the chunks are the same.
  have same : ∀ id ∈ model.chunks.inOrder, (after.graphs home).chunk? id = (later.graphs home).chunk? id :=
    fun id _ => ChunkGraph.chunk?_of_bare (reached.bare_compile (.staging context) template home collection) id
  have states_of' := states_of.elsewhere same
  refine ⟨updated, made, stored, fun earlier => ?_⟩
  obtain ⟨staged, set, declared⟩ := Program.exists_setUniforms (.ofSources label made.texts.1 made.texts.2) earlier
  refine ⟨staged, states.chunks.flatMap (·.uploads staged.uniforms.declares), staging ▸ set,
    (meanwhile.ruled begun).setup_of_root member intact live roots states_of context template _, ?_, fun slot => ?_⟩
  · intro call isCall
    obtain ⟨resource, isResource, takes⟩ := states_of.takes_uploads proper agrees fresh isCall
    have lands := texts ▸ proper.lands countable standard isResource takes
    refine ⟨lands, UniformStore.stage_accepts_iff.2 ?_⟩
    rw [declared]
    simpa [StagedProgram.ofSources, UniformStore.ofDeclared] using lands.declared
  · exact ⟨states_of.count_uploads_le_one agrees _ slot, fun call =>
      states_of'.mem_uploads_mapName_iff (fresh.elsewhere same) (lone.kept.elsewhere same)⟩

/-- Models may go through all operations that keep types, and collections may get roots. -/
theorem stages_serves {ops : List LightModel.Op} (keeps : ∀ op ∈ ops, ∀ model : LightModel, model.KeepsTypes op) :
    Stages Serves ops where
  newModel _ _ := ⟨trivial, trivial, by simp⟩
  operate session model models op member := ⟨trivial, (stages_minds keeps).operate session model models op member, by simp⟩
  createCollection _ := ⟨trivial, trivial, by simp⟩
  addRoot _ _ _ := ⟨trivial, trivial, by simp⟩

/-- A model that went through operations, was updated and is the root of a collection. -/
theorem exists_updated_model (settings : LightModelSettings) {ops : List LightModel.Op}
    (keeps : ∀ op ∈ ops, ∀ model : LightModel, model.KeepsTypes op) :
    ∃ (before later : Session (Noted Program)) (model : LightModel) (collection : CollectionId) (states : ModelStates),
      Ruled Serves before ∧ before.models[0]? = some (0, model) ∧
      Meanwhile Serves 0 (before.step (.operate 0 0 .update)) later ∧ Ruled Serves later ∧ later.asked = [] ∧
      (0, model) ∈ later.models ∧ model.chunks.Intact (later.graphs 0) ∧
      (later.graphs 0).collection? collection = some (({} : ChunkCollection).withRoots [model.chunks.root]) ∧
      states.Proper ∧ states.Of model.chunks (later.graphs 0) ∧
      states.chunks = LightModel.codeAfter settings (ops ++ [.update]) := by
  have stages : Stages Serves ops := stages_serves keeps
  obtain ⟨fresh, made, intact, before, ruled, unasked, models, graph⟩ := exists_ruled_model settings stages
  let model := (fresh.run (LightModel.new .empty settings).2 ops).1
  have found : before.models[0]? = some (0, model) := by rw [models]; rfl
  obtain ⟨modelled, updated⟩ := step_update found
  have run : (before.step (.operate 0 0 .update)).graphs 0 =
      (fresh.run (LightModel.new .empty settings).2 (ops ++ [.update])).2 := by
    rw [updated, graph, LightModel.run_concat]
    rfl
  have chunks : model.chunks = fresh.chunks := fresh.chunks_run _ ops
  have intact' : model.chunks.Intact ((before.step (.operate 0 0 .update)).graphs 0) := by
    rw [run, chunks]
    exact intact.framed (fresh.framed_run _ _)
  obtain ⟨later, collection, meanwhile, asked, models', nodes, live⟩ :=
    exists_rooted intact' stages.createCollection stages.addRoot 0
  have ruled' := meanwhile.ruled (ruled.step (.operate 0 0 .update) ⟨trivial, minds_update found, by simp⟩)
  have member : (0, model) ∈ later.models := models' ▸ List.mem_of_getElem? modelled
  obtain ⟨order, lone⟩ := (ruled'.mono fun _ _ serves => serves.minds).exists_reached member (intact'.of_nodes nodes)
  obtain ⟨states, proper, states_of⟩ := lone.formed.exists_states
  have code : states.chunks = LightModel.codeAfter settings (ops ++ [.update]) := by
    rw [← states_of.filterMap_eq, chunks]
    exact LightModel.codeAfter_eq made (nodes.trans (congrArg ChunkGraph.nodes run))
  exact ⟨before, later, model, collection, states, ruled, found, meanwhile, ruled',
    asked.trans ((asked_update found).trans unasked), member, intact'.of_nodes nodes, live, proper, states_of, code⟩

/-- A first request for the code of a model is answered, if no part is repeated too often. -/
theorem Ruled.exists_answer (ruled : Ruled Serves session)
    (unasked : session.asked = []) {home : Nat} {model : LightModel} (member : (home, model) ∈ session.models)
    (intact : model.chunks.Intact (session.graphs home)) {collection : CollectionId} {content : ChunkCollection}
    (live : (session.graphs home).collection? collection = some content) (roots : content.roots = [model.chunks.root])
    {states : ModelStates} (proper : states.Proper) (states_of : states.Of model.chunks (session.graphs home))
    (countable : ∀ chunk ∈ states.chunks, chunk.Countable) {template : Template}
    (standard : Template.standard = .ok template) (context : ContextId) :
    (∃ program, (session.plain.answer (.staging context) template home collection).1 = .ok program) ∧
      Request.Distinct (session.step (.compile (Backend.staging context).noting template home collection)).asked := by
  have reached := (ruled.mono fun _ _ serves => serves.allows).reached
  have sound := reached.invariant.graphs home
  have rendered : Chunk.render ((session.graphs home).codeBelow content.roots) =
      .ok (Chunk.filledSlots states.chunks) := by
    rw [roots, reached.codeBelow_root member intact states_of]
    exact (Chunk.render_eq_ok_iff proper.lightCode).2 ⟨countable, rfl⟩
  obtain ⟨accepted, creates⟩ := proper.exists_staged countable standard context template.uid
  obtain ⟨program, given⟩ :=
    ProgramCache.compileCollection_eq_ok sound live rendered session.cache session.ledger creates
  refine ⟨⟨program, (congrArg Prod.fst (answer_plain ..)).trans given⟩, ?_⟩
  have alone : (session.step (.compile (Backend.staging context).noting template home collection)).asked =
      Request.ofCollection template (session.graphs home) collection := by
    change session.asked ++ _ = _
    rw [unasked]
    rfl
  rw [alone, ProgramCache.ofCollection_of_found sound live]
  constructor <;> simp

/-- The map of a shadowed light goes to the first slot, beside an environment. -/
theorem uploads_of_shadowed_light :
    ∃ (before later : Session (Noted Program)) (model : LightModel) (collection : CollectionId)
        (content : ChunkCollection) (template : Template) (program : ProgramId) (made : Noted Program)
        (staged : StagedProgram) (calls : List UniformCall),
      Ruled Serves before ∧ before.models[0]? = some (0, model) ∧
      Meanwhile Serves 0 (before.step (.operate 0 0 .update)) later ∧ model.chunks.Intact (later.graphs 0) ∧
      (later.graphs 0).collection? collection = some content ∧ content.roots = [model.chunks.root] ∧
      Template.standard = .ok template ∧
      Request.Distinct (later.step (.compile (Backend.staging ⟨0⟩).noting template 0 collection)).asked ∧
      (later.plain.answer (.staging ⟨0⟩) template 0 collection).1 = .ok program ∧
      (later.step (.compile (Backend.staging ⟨0⟩).noting template 0 collection)).ledger.program? program = some made ∧
      made.program = .staged staged ∧
      (((later.step (.compile (Backend.staging ⟨0⟩).noting template 0 collection)).graphs 0).collectionSetup collection
        staged.uniforms.declares).1 = .ok calls ∧
      (∀ call ∈ calls, Lands made.texts call ∧ (staged.uniforms.stage call.name call.value).1 = true) ∧
      ⟨"tShadowMap0", .texture ⟨7⟩⟩ ∈ calls ∧ (calls.map (·.name)).count "tShadowMap0" = 1 := by
  let ops : List LightModel.Op := [
    .addLight ((Light.directional .backward).withShadow { map := some ⟨7⟩ }),
    .addLight (.ibl (Vector.replicate 27 .zero) (some ⟨8⟩) .zero)]
  have keeps : ∀ op ∈ ops, ∀ model : LightModel, model.KeepsTypes op := by simp [ops, LightModel.KeepsTypes]
  obtain ⟨before, later, model, collection, states, ruled, found, meanwhile, ruled', unasked, member, intact, live,
    proper, states_of, code⟩ := exists_updated_model {} keeps
  have countable : ∀ chunk ∈ states.chunks, chunk.Countable := by
    rw [code]
    decide
  obtain ⟨template, standard⟩ : ∃ template, Template.standard = .ok template := ⟨_, Template.standard_eq⟩
  obtain ⟨⟨program, given⟩, distinct⟩ :=
    ruled'.exists_answer unasked member intact live rfl proper states_of countable standard ⟨0⟩
  obtain ⟨-, made, stored, answers⟩ := uploads_are_declared ruled found meanwhile intact live rfl standard distinct given
  obtain ⟨staged, calls, same, uploads, lands, slots⟩ := answers []
  have isCall : (⟨"tShadowMap0", .texture ⟨7⟩⟩ : UniformCall) ∈ calls := by
    obtain rfl := Except.ok.inj ((ruled'.setup_of_root member intact live rfl states_of ⟨0⟩ template _).symm.trans uploads)
    have mapped : (⟨"tShadowMap0", .texture ⟨7⟩⟩ : UniformCall) ∈
        ((LightModel.codeAfter {} (ops ++ [.update])).flatMap (·.uploads fun _ => false)).filter
          fun call => initials call.name == ['t', 'S'] := by
      decide
    -- What the program declares does not matter to maps.
    rw [← code, states.filter_uploads, ← states.filter_uploads staged.uniforms.declares] at mapped
    exact (List.mem_filter.1 mapped).1
  have held : 0 < (calls.map (·.name)).count "tShadowMap0" :=
    List.count_pos_iff.2 (List.mem_map.2 ⟨_, isCall, rfl⟩)
  exact ⟨before, later, model, collection, _, template, program, made, staged, calls, ruled, found, meanwhile, intact,
    live, rfl, standard, distinct, given, stored, same, uploads, lands, isCall,
    Nat.le_antisymm (slots 0).1 held⟩

end Session

end ShaderWeave
