import ShaderWeave.Proofs.Lighting.Upkeep
import ShaderWeave.Proofs.Program.Ledger

/-! # What a program cache holds

Each program of a cache was made for a request, from the template and from the code of chunks whose joined hashes are
those of the request. A later request with the same key has the same template and the same hashes, and if its
chunks are those of light models, the same code.
-/

namespace ShaderWeave

variable {P : Type}

namespace ChunkGraph

variable {graph : ChunkGraph}

/-- The chunks with code that are active below some roots, in the state of this moment. -/
def codeBelow (graph : ChunkGraph) (roots : List ChunkId) : List Chunk :=
  ((graph.nodesOf (graph.flattenAll roots).actives).filter (·.caps.code)).map (·.chunk)

theorem hash_upToDate (graph : ChunkGraph) (collection : ChunkCollection) :
    (graph.upToDate collection).hash = Chunk.joinedHash (graph.codeBelow collection.roots) := by
  rw [codeBelow, Chunk.joinedHash, List.map_map]
  rfl

theorem generateAll_upToDate (graph : ChunkGraph) (collection : ChunkCollection) :
    graph.generateAll (graph.upToDate collection).hash (graph.upToDate collection).actives =
      Chunk.render (graph.codeBelow collection.roots) := by
  rw [hash_upToDate, Chunk.render, codeBelow, List.foldlM_map]
  rfl

/-- A root without edges is the only chunk below it. -/
theorem Acyclic.codeBelow_leaf (acyclic : graph.Acyclic) {id : ChunkId} {node : ChunkNode}
    (found : graph.node? id = some node) (children : node.children = []) (proxy : node.proxy = none)
    (code : node.caps.code = true) :
    (graph.flattenAll [id]).actives = [id] ∧ graph.codeBelow [id] = [node.chunk] := by
  have actives : (graph.flattenAll [id]).actives = [id] := by
    simp [flattenAll, acyclic.flatten_of_behaving found proxy, children, Flattening.join, Flattening.distinct,
      List.eraseDups_cons]
  refine ⟨actives, ?_⟩
  simp [codeBelow, actives, nodesOf, found, code]

theorem snd_collectionHash (graph : ChunkGraph) (id : CollectionId) :
    (graph.collectionHash id).2 = (graph.refresh id).2 := snd_refreshed id

theorem snd_collectionGenerate (graph : ChunkGraph) (id : CollectionId) :
    (graph.collectionGenerate id).2 = (graph.refresh id).2 := snd_refreshed id

/-- Bookkeeping does not show in the code. -/
theorem Sound.codeBelow_of_bare (sound : graph.Sound) {after : ChunkGraph} (same : after.bare = graph.bare)
    {id : CollectionId} {collection : ChunkCollection} (found : graph.collection? id = some collection) :
    after.codeBelow collection.roots = graph.codeBelow collection.roots := by
  have chunks : ∀ (graph : ChunkGraph) (actives : List ChunkId),
      ((graph.bare.nodesOf actives).filter (·.caps.code)).map (·.chunk) =
        ((graph.nodesOf actives).filter (·.caps.code)).map (·.chunk) := by
    intro graph actives
    rw [nodesOf_bare, List.filter_map, List.map_map]
    rfl
  have lists := sound.wellFormed.flattenAll_of_shape (sound.listed id collection found).roots (shape?_of_bare same)
  rw [codeBelow, codeBelow, lists, ← chunks after, same, chunks]

end ChunkGraph

/-! ## Requests -/

/-- A template, and the joined hashes of the chunks whose code was to be put into it. -/
abbrev Request := Template × String

def Request.key (request : Request) : String := Hash.Tokens.hashPair request.1.uid request.2

/-- What is asked for with a collection, which is nothing if the collection is gone. -/
def Request.ofCollection (template : Template) (graph : ChunkGraph) (id : CollectionId) : List Request :=
  match (graph.collectionHash id).1 with
  | .ok hash => [(template, hash)]
  | .error _ => []

/-- Names tell templates apart, and keys tell names and hashes apart. -/
structure Request.Distinct (asked : List Request) : Prop where
  templates : ∀ first ∈ asked, ∀ second ∈ asked, first.1.uid = second.1.uid → first.1 = second.1
  keys : ∀ first ∈ asked, ∀ second ∈ asked, first.key = second.key → first.1.uid = second.1.uid ∧ first.2 = second.2

namespace ProgramCache

variable {cache : ProgramCache} {ledger after : ProgramLedger (Noted P)} {backend : Backend P} {template : Template}
  {graph : ChunkGraph} {id : CollectionId} {asked : List Request} {entry : CachedProgram}

/-- A program that was made for one of the requests. -/
def Answers (asked : List Request) (ledger : ProgramLedger (Noted P)) (entry : CachedProgram) : Prop :=
  ∃ template chunks slots made, (template, Chunk.joinedHash chunks) ∈ asked ∧
    entry.key = Request.key (template, Chunk.joinedHash chunks) ∧ (∀ chunk ∈ chunks, chunk.LightCode) ∧
    Chunk.render chunks = .ok slots ∧ ledger.program? entry.program = some made ∧ made.texts = template.resolve slots

theorem Answers.later (answers : Answers asked ledger entry) {others : List Request} (more : asked ⊆ others)
    (kept : ∀ id made, ledger.program? id = some made → after.program? id = some made) :
    Answers others after entry := by
  obtain ⟨template, chunks, slots, made, isAsked, key, light, code, found, texts⟩ := answers
  exact ⟨template, chunks, slots, made, more isAsked, key, light, code, kept _ _ found, texts⟩

theorem mem_of_get? {key : String} {program : ProgramId} (found : cache.get? key = some program) :
    ⟨key, program⟩ ∈ cache.entries := by
  obtain ⟨entry, held, rfl⟩ := Option.map_eq_some_iff.1 found
  obtain rfl : entry.key = key := by simpa using List.find?_some held
  exact List.mem_of_find?_eq_some held

/-! ## Dropping programs -/

theorem release_spec (cache : ProgramCache) (ledger : ProgramLedger P) (program : ProgramId) :
    (cache.release ledger program).2.1.entries ⊆ cache.entries ∧
      ∀ id, (cache.release ledger program).2.2.program? id = ledger.program? id := by
  unfold ProgramCache.release
  dsimp only
  split
  · exact ⟨List.eraseP_subset, fun id => by simp⟩
  · exact ⟨List.Subset.refl _, fun id => by simp⟩

theorem purge_spec (cache : ProgramCache) (ledger : ProgramLedger P) :
    (cache.purge ledger).2.1.entries ⊆ cache.entries ∧
      ∀ id, (cache.purge ledger).2.2.program? id = ledger.program? id := by
  refine ⟨?_, fun id => ledger.program?_releaseAll _ id⟩
  intro entry member
  simp only [purge, countEvictions, List.partition_eq_filter_filter] at member
  exact (List.mem_filter.1 member).1

theorem context_release (cache : ProgramCache) (ledger : ProgramLedger P) (program : ProgramId) :
    (cache.release ledger program).2.1.context = cache.context := by
  unfold ProgramCache.release
  dsimp only
  split <;> rfl

theorem context_purge (cache : ProgramCache) (ledger : ProgramLedger P) :
    (cache.purge ledger).2.1.context = cache.context := rfl

/-! ## Answering a request -/

/-- With sound bookkeeping, a request is answered by the code that the roots give at this moment, and the collection is
refreshed. -/
theorem compileCollection_eq (sound : graph.Sound) {collection : ChunkCollection}
    (found : graph.collection? id = some collection) (cache : ProgramCache) (ledger : ProgramLedger P)
    (backend : Backend P) (template : Template) :
    cache.compileCollection ledger backend template graph id =
      let chunks := graph.codeBelow collection.roots
      let key := Request.key (template, Chunk.joinedHash chunks)
      let after := (graph.refresh id).2
      match cache.hit? ledger key with
      | some (program, cache, ledger) => (.ok program, cache, ledger, after)
      | none =>
        match Chunk.render chunks with
        | .error cause => (.error cause, cache, ledger, after)
        | .ok slots =>
          let (result, cache, ledger) := cache.miss ledger backend key ⟨template, slots⟩
          (result, cache, ledger, after) := by
  have again : (graph.refresh id).2.collectionGenerate id =
      (Chunk.render (graph.codeBelow collection.roots), (graph.refresh id).2) := by
    rw [ChunkGraph.collectionGenerate_again, sound.collectionGenerate_eq found, ChunkGraph.generateAll_upToDate]
  simp only [ProgramCache.compileCollection, sound.collectionHash_eq found, ChunkGraph.hash_upToDate, again,
    Request.key]
  cases cache.hit? ledger (Hash.Tokens.hashPair template.uid (Chunk.joinedHash (graph.codeBelow collection.roots))) with
  | some hit => rfl
  | none =>
    cases Chunk.render (graph.codeBelow collection.roots) with
    | error cause => rfl
    | ok slots => rfl

theorem compileCollection_of_gone (gone : graph.collection? id = none) (cache : ProgramCache) (ledger : ProgramLedger P)
    (backend : Backend P) (template : Template) :
    cache.compileCollection ledger backend template graph id =
      (.error (.collectionNotFound id), cache, ledger, graph) := by
  simp only [ProgramCache.compileCollection, ChunkGraph.collectionHash, ChunkGraph.refreshed_of_gone gone]
  rfl

/-- A request refreshes the collection, and does nothing else to the graph. -/
theorem compileCollection_graph (sound : graph.Sound) (cache : ProgramCache) (ledger : ProgramLedger P)
    (backend : Backend P) (template : Template) (id : CollectionId) :
    (cache.compileCollection ledger backend template graph id).2.2.2.Sound ∧
      (cache.compileCollection ledger backend template graph id).2.2.2.bare = graph.bare := by
  have first : (graph.collectionHash id).2.Sound ∧ (graph.collectionHash id).2.bare = graph.bare := by
    rw [ChunkGraph.snd_collectionHash]
    exact ⟨sound.refresh id, ChunkGraph.bare_refresh id⟩
  unfold ProgramCache.compileCollection
  split
  · next failed =>
    rw [failed] at first
    exact first
  · next hash hashed answered =>
    rw [answered] at first
    have second : (hashed.collectionGenerate id).2.Sound ∧ (hashed.collectionGenerate id).2.bare = graph.bare := by
      rw [ChunkGraph.snd_collectionGenerate]
      exact ⟨first.1.refresh id, (ChunkGraph.bare_refresh id).trans first.2⟩
    dsimp only
    split
    · exact first
    · split
      · next failed =>
        rw [failed] at second
        exact second
      · next made =>
        rw [made] at second
        exact second

/-- A program is kept only if the backend made it. -/
theorem miss_cases (cache : ProgramCache) (ledger : ProgramLedger P) (backend : Backend P) (key : String)
    (source : ProgramSource) :
    (∃ cause stats, cache.miss ledger backend key source = (.error cause, { cache with stats }, ledger)) ∨
      ∃ program stats,
        let texts := source.template.resolve source.slots
        let added := ledger.add program backend.context 2
        backend.create source.template.uid texts.1 texts.2 = .ok program ∧ cache.miss ledger backend key source =
          (.ok added.1, { cache with entries := cache.entries ++ [⟨key, added.1⟩], stats }, added.2) := by
  simp only [miss]
  cases backend.create source.template.uid (source.template.resolve source.slots).1
      (source.template.resolve source.slots).2 with
  | error cause => exact .inl ⟨cause, _, rfl⟩
  | ok program => exact .inr ⟨program, _, rfl, rfl⟩

theorem texts_of_noting {label vertex fragment : String} {made : Noted P}
    (created : backend.noting.create label vertex fragment = .ok made) : made.texts = (vertex, fragment) := by
  simp only [Backend.noting] at created
  cases program : backend.create label vertex fragment with
  | error cause => simp [program, Except.map] at created
  | ok program' =>
    rw [program] at created
    cases created
    rfl

/-- A live collection gets a program that the cache had, a new one from the code of this moment, or none. -/
theorem compileCollection_cases (sound : graph.Sound) {collection : ChunkCollection}
    (found : graph.collection? id = some collection) {chunks : List Chunk}
    (active : graph.codeBelow collection.roots = chunks) {cache : ProgramCache} {ledger : ProgramLedger (Noted P)}
    {result : Outcome (ProgramCache × ProgramLedger (Noted P) × ChunkGraph) ProgramId}
    (answered : cache.compileCollection ledger backend.noting template graph id = result) :
    (∃ program, cache.get? (Request.key (template, Chunk.joinedHash chunks)) = some program ∧
      result.1 = .ok program ∧ result.2.1.entries = cache.entries ∧
      ∀ other, result.2.2.1.program? other = ledger.program? other) ∨
    (∃ program slots made, cache.get? (Request.key (template, Chunk.joinedHash chunks)) = none ∧
      Chunk.render chunks = .ok slots ∧ made.texts = template.resolve slots ∧ result.1 = .ok program ∧
      result.2.1.entries = cache.entries ++ [⟨Request.key (template, Chunk.joinedHash chunks), program⟩] ∧
      result.2.2.1.program? program = some made ∧
      ∀ other old, ledger.program? other = some old → result.2.2.1.program? other = some old) ∨
    ∃ cause, cache.get? (Request.key (template, Chunk.joinedHash chunks)) = none ∧ result.1 = .error cause ∧
      result.2.1.entries = cache.entries ∧ result.2.2.1 = ledger := by
  have answer := compileCollection_eq sound found cache ledger backend.noting template
  simp only [answered, active] at answer
  cases hit : cache.hit? ledger (Request.key (template, Chunk.joinedHash chunks)) with
  | some taken =>
    rw [hit] at answer
    obtain ⟨program, held, rfl⟩ := Option.map_eq_some_iff.1 hit
    subst answer
    exact .inl ⟨program, held, rfl, rfl, fun other => ledger.program?_retain program other⟩
  | none =>
    have absent := Option.map_eq_none_iff.1 hit
    rw [hit] at answer
    cases code : Chunk.render chunks with
    | error cause =>
      rw [code] at answer
      subst answer
      exact .inr (.inr ⟨cause, absent, rfl, rfl, rfl⟩)
    | ok slots =>
      rw [code] at answer
      rcases miss_cases cache ledger backend.noting (Request.key (template, Chunk.joinedHash chunks))
          ⟨template, slots⟩ with ⟨cause, stats, missed⟩ | ⟨program, stats, created, missed⟩
      · simp only [missed] at answer
        subst answer
        exact .inr (.inr ⟨cause, absent, rfl, rfl, rfl⟩)
      · simp only [missed] at answer
        subst answer
        refine .inr (.inl ⟨_, slots, program, absent, rfl, texts_of_noting created, rfl, rfl, ledger.program?_add ..,
          fun other old found => ?_⟩)
        exact ledger.program?_add_of_found found ..

theorem ofCollection_of_found (sound : graph.Sound) {collection : ChunkCollection}
    (found : graph.collection? id = some collection) (template : Template) :
    Request.ofCollection template graph id = [(template, Chunk.joinedHash (graph.codeBelow collection.roots))] := by
  rw [Request.ofCollection, sound.collectionHash_eq found, ← ChunkGraph.hash_upToDate]

/-- A cache goes on holding what was made for requests. -/
theorem Answers.compileCollection (answers : ∀ entry ∈ cache.entries, Answers asked ledger entry) (sound : graph.Sound)
    (light : ∀ collection, graph.collection? id = some collection →
      ∀ chunk ∈ graph.codeBelow collection.roots, chunk.LightCode)
    {result : Outcome (ProgramCache × ProgramLedger (Noted P) × ChunkGraph) ProgramId}
    (answered : cache.compileCollection ledger backend.noting template graph id = result) :
    ∀ entry ∈ result.2.1.entries, Answers (asked ++ Request.ofCollection template graph id) result.2.2.1 entry := by
  have more := List.subset_append_left asked (Request.ofCollection template graph id)
  intro entry member
  cases found : graph.collection? id with
  | none =>
    rw [compileCollection_of_gone found] at answered
    subst answered
    exact (answers entry member).later more fun _ _ held => held
  | some collection =>
    rcases compileCollection_cases sound found rfl answered with ⟨program, -, -, entries, programs⟩ |
      ⟨program, slots, made, -, code, texts, -, entries, new, programs⟩ | ⟨cause, -, -, entries, programs⟩
    · rw [entries] at member
      exact (answers entry member).later more fun other made held => (programs other).trans held
    · rw [entries, List.mem_append, List.mem_singleton] at member
      rcases member with old | rfl
      · exact (answers entry old).later more programs
      · refine ⟨template, _, slots, made, List.mem_append_right _ ?_, rfl, light collection found, code, new, texts⟩
        rw [ofCollection_of_found sound found]
        exact List.mem_singleton_self _
    · rw [entries] at member
      rw [programs]
      exact (answers entry member).later more fun _ _ held => held

/-- Found or made, a program has the texts that the template gives with the code of this moment. -/
theorem texts_of_compileCollection (answers : ∀ entry ∈ cache.entries, Answers asked ledger entry) (sound : graph.Sound)
    (light : ∀ collection, graph.collection? id = some collection →
      ∀ chunk ∈ graph.codeBelow collection.roots, chunk.LightCode)
    (distinct : Request.Distinct (asked ++ Request.ofCollection template graph id))
    {result : Outcome (ProgramCache × ProgramLedger (Noted P) × ChunkGraph) ProgramId}
    (answered : cache.compileCollection ledger backend.noting template graph id = result) {program : ProgramId}
    (given : result.1 = .ok program) :
    ∃ collection slots made, graph.collection? id = some collection ∧
      Chunk.render (graph.codeBelow collection.roots) = .ok slots ∧ result.2.2.1.program? program = some made ∧
      made.texts = template.resolve slots := by
  cases found : graph.collection? id with
  | none =>
    rw [compileCollection_of_gone found] at answered
    subst answered
    cases given
  | some collection =>
    rcases compileCollection_cases sound found rfl answered with ⟨program', held, given', -, programs⟩ |
      ⟨program', slots, made, -, code, texts, given', -, new, -⟩ | ⟨cause, -, failed, -⟩
    · obtain rfl : program' = program := Except.ok.inj (given'.symm.trans given)
      obtain ⟨template', chunks, slots, made, isAsked, key, chunksLight, code, stored, texts⟩ :=
        answers _ (mem_of_get? held)
      have asking : (template, Chunk.joinedHash (graph.codeBelow collection.roots)) ∈
          asked ++ Request.ofCollection template graph id := by
        rw [ofCollection_of_found sound found]
        exact List.mem_append_right _ (List.mem_singleton_self _)
      obtain ⟨names, hashes⟩ := distinct.keys _ asking _ (List.mem_append_left _ isAsked) key
      obtain rfl : template = template' := distinct.templates _ asking _ (List.mem_append_left _ isAsked) names
      refine ⟨collection, slots, made, rfl, ?_, (programs program').trans stored, texts⟩
      rw [Chunk.render_eq_of_joinedHash_eq (light collection found) chunksLight hashes, code]
    · obtain rfl : program' = program := Except.ok.inj (given'.symm.trans given)
      exact ⟨collection, slots, made, rfl, code, new, texts⟩
    · cases failed.symm.trans given

/-- A live collection gets a program if its code can be made, unless the backend refuses it. -/
theorem compileCollection_eq_ok (sound : graph.Sound) {collection : ChunkCollection}
    (found : graph.collection? id = some collection) {slots : SlotBuffer}
    (code : Chunk.render (graph.codeBelow collection.roots) = .ok slots)
    (cache : ProgramCache) (ledger : ProgramLedger (Noted P)) {backend : Backend P} {template : Template} {program : P}
    (made : backend.create template.uid (template.resolve slots).1 (template.resolve slots).2 = .ok program) :
    ∃ program, (cache.compileCollection ledger backend.noting template graph id).1 = .ok program := by
  rw [compileCollection_eq sound found]
  simp only [code]
  split
  · exact ⟨_, rfl⟩
  · simp only [miss, Backend.noting, made, Except.map]
    exact ⟨_, rfl⟩

/-! ## Asking again -/

/-- Right after a request that was answered, the same request gives the same program. -/
theorem compileCollection_again (sound : graph.Sound)
    {result : Outcome (ProgramCache × ProgramLedger (Noted P) × ChunkGraph) ProgramId}
    (answered : cache.compileCollection ledger backend.noting template graph id = result) {program : ProgramId}
    (given : result.1 = .ok program) (other : Backend P) :
    (result.2.1.compileCollection result.2.2.1 other.noting template result.2.2.2 id).1 = .ok program := by
  obtain ⟨sound', bare⟩ := compileCollection_graph sound cache ledger backend.noting template id
  rw [answered] at sound' bare
  cases found : graph.collection? id with
  | none =>
    rw [compileCollection_of_gone found] at answered
    subst answered
    cases given
  | some collection =>
    obtain ⟨collection', found', roots⟩ := Option.map_eq_some_iff.1
      ((ChunkGraph.roots_of_bare bare id).trans (congrArg (Option.map _) found))
    have active : result.2.2.2.codeBelow collection'.roots = graph.codeBelow collection.roots := by
      rw [roots]
      exact sound.codeBelow_of_bare bare found
    have kept : result.2.1.get? (Request.key (template, Chunk.joinedHash (graph.codeBelow collection.roots))) =
        some program := by
      rcases compileCollection_cases sound found rfl answered with ⟨program', held, given', entries, -⟩ |
        ⟨program', -, -, absent, -, -, given', entries, -⟩ | ⟨cause, -, failed, -⟩
      · obtain rfl : program' = program := Except.ok.inj (given'.symm.trans given)
        rw [get?, entries]
        exact held
      · obtain rfl : program' = program := Except.ok.inj (given'.symm.trans given)
        rw [get?, entries, List.find?_append, Option.map_eq_none_iff.1 absent]
        simp
      · cases failed.symm.trans given
    rcases compileCollection_cases sound' found' active rfl with ⟨program', held, given', -⟩ |
      ⟨-, -, -, absent, -⟩ | ⟨-, absent, -⟩
    · rw [given', Option.some.inj (held.symm.trans kept)]
    · cases absent.symm.trans kept
    · cases absent.symm.trans kept

/-! ## Hits and misses -/

section

variable (cache : ProgramCache) (ledger : ProgramLedger P) (backend : Backend P)

/-- Counts a hit. -/
def countHit : ProgramCache := { cache with stats := { cache.stats with hits := cache.stats.hits + 1 } }

/-- The key that a collection is asked for with, unless it is gone. -/
def collectionKey? (template : Template) (graph : ChunkGraph) (collection : CollectionId) : Option String :=
  (graph.collectionHash collection).1.toOption.map (Hash.Tokens.hashPair template.uid)

/-- Counts a miss whose program was made. -/
def countMade : ProgramCache :=
  { cache with
    stats := { cache.stats with misses := cache.stats.misses + 1, compilations := cache.stats.compilations + 1 } }

/-- Counts a miss whose sources were refused. -/
def countRefused : ProgramCache :=
  { cache with stats := { cache.stats with misses := cache.stats.misses + 1, failures := cache.stats.failures + 1 } }

/-- What a cache answers to a request: a program that it has, a new one from the backend that it keeps, or none. -/
inductive Served : Option String → Outcome (ProgramCache × ProgramLedger P) ProgramId → Prop where
  | hit {key : String} {program : ProgramId} (found : cache.get? key = some program) :
      Served (some key) (.ok program, cache.countHit, ledger.retain program)
  | made {key : String} (absent : cache.get? key = none) {label vertex fragment : String} {program : P}
      (created : backend.create label vertex fragment = .ok program) :
      Served (some key)
        (.ok (ledger.add program backend.context 2).1,
          { cache.countMade with entries := cache.entries ++ [⟨key, (ledger.add program backend.context 2).1⟩] },
          (ledger.add program backend.context 2).2)
  | refused {key : String} (absent : cache.get? key = none) (cause : AssemblyError) :
      Served (some key) (.error cause, cache.countRefused, ledger)
  /-- There is no collection, or no code for it. -/
  | unready (key? : Option String) (cause : AssemblyError) : Served key? (.error cause, cache, ledger)

theorem served_miss {key : String} (absent : cache.get? key = none) (source : ProgramSource) :
    Served cache ledger backend (some key) (cache.miss ledger backend key source) := by
  unfold ProgramCache.miss
  dsimp only
  split
  · next cause _ => exact .refused absent cause
  · next created => exact .made absent created

theorem served_compile (source : ProgramSource) :
    Served cache ledger backend (some source.key) (cache.compile ledger backend source) := by
  unfold ProgramCache.compile ProgramCache.hit?
  cases found : cache.get? source.key with
  | none => exact cache.served_miss ledger backend found source
  | some program => exact .hit found

theorem served_compileCollection (template : Template) (graph : ChunkGraph) (collection : CollectionId) :
    let result := cache.compileCollection ledger backend template graph collection
    Served cache ledger backend (collectionKey? template graph collection) (result.1, result.2.1, result.2.2.1) := by
  unfold ProgramCache.compileCollection collectionKey? ProgramCache.hit?
  rcases graph.collectionHash collection with ⟨cause | hash, after⟩
  · exact .unready _ cause
  · dsimp only [Except.toOption, Option.map_some]
    cases found : cache.get? (Hash.Tokens.hashPair template.uid hash) with
    | some program => exact .hit found
    | none =>
      dsimp only [Option.map_none]
      rcases after.collectionGenerate collection with ⟨cause | slots, generated⟩
      · exact .unready _ cause
      · exact cache.served_miss ledger backend found ⟨template, slots⟩

variable {cache ledger backend} in
theorem Served.context_eq {key? : Option String} {answer : Outcome (ProgramCache × ProgramLedger P) ProgramId}
    (served : Served cache ledger backend key? answer) : answer.2.1.context = cache.context := by
  cases served <;> rfl

variable {cache ledger backend} in
/-- A program that a cache has or gives after an answer was there before, or was made for this answer. -/
theorem Served.kept_or_made {key? : Option String} {answer : Outcome (ProgramCache × ProgramLedger P) ProgramId}
    (served : Served cache ledger backend key? answer) {program : ProgramId}
    (reached : program ∈ answer.2.1.programs ∨ answer.1 = .ok program) :
    program ∈ cache.programs ∨ ∃ label vertex fragment made, backend.create label vertex fragment = .ok made ∧
      ¬ ledger.Knows program ∧ answer.2.2.program? program = some made := by
  cases served with
  | hit found =>
    refine .inl (reached.elim id fun given => ?_)
    cases given
    exact List.mem_map_of_mem (mem_of_get? found)
  | refused | unready => exact .inl (reached.resolve_right nofun)
  | @made key absent label vertex fragment new created =>
    have kept_or_new : program ∈ cache.programs ∨ program = (ledger.add new backend.context 2).1 := by
      rcases reached with listed | given
      · simpa [programs] using listed
      · cases given
        exact .inr rfl
    refine kept_or_new.imp_right ?_
    rintro rfl
    exact ⟨label, vertex, fragment, new, created, ledger.not_knows_new new _ _, ledger.program?_add ..⟩

end

/-- After an answer, the program is under the key that was asked for. -/
theorem Served.get?_eq {ledger : ProgramLedger P} {backend : Backend P} {key : String}
    {answer : Outcome (ProgramCache × ProgramLedger P) ProgramId} (served : Served cache ledger backend (some key) answer)
    {program : ProgramId} (given : answer.1 = .ok program) : answer.2.1.get? key = some program := by
  cases served with
  | hit found =>
    cases given
    exact found
  | made absent created =>
    cases given
    simp only [get?, List.find?_append, Option.map_eq_none_iff.1 absent]
    simp
  | refused | unready => cases given

/-- A request for a key that the cache has the program of is a hit, whatever the backend would do. -/
theorem compile_of_get? {source : ProgramSource} {program : ProgramId} (found : cache.get? source.key = some program)
    (ledger : ProgramLedger P) (backend : Backend P) :
    cache.compile ledger backend source = (.ok program, cache.countHit, ledger.retain program) := by
  simp only [ProgramCache.compile, ProgramCache.hit?, found, Option.map_some, countHit]

theorem compileCollection_of_get? {key : String} (asked : collectionKey? template graph id = some key)
    {program : ProgramId} (found : cache.get? key = some program) (ledger : ProgramLedger P) (backend : Backend P) :
    cache.compileCollection ledger backend template graph id =
      (.ok program, cache.countHit, ledger.retain program, (graph.collectionHash id).2) := by
  obtain ⟨hash, hashed, rfl⟩ := Option.map_eq_some_iff.1 asked
  rcases refreshed : graph.collectionHash id with ⟨cause | hash', after⟩
  · rw [refreshed] at hashed
    cases hashed
  · rw [refreshed] at hashed
    cases hashed
    simp only [ProgramCache.compileCollection, refreshed, ProgramCache.hit?, found, Option.map_some, countHit]

end ProgramCache

end ShaderWeave
