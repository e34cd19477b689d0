import ShaderWeave.Proofs.Program.Requests

/-! # Calls that fail

A call for a program can fail at three points: the collection is unknown, its code cannot be generated, or the backend
refuses the sources. Nothing of it stays but counters and the refreshed bookkeeping of the graph, so a history without
its failed calls leads to the same programs, and a call that failed is made anew each time.
-/

namespace ShaderWeave

/-! ## Graphs that operations lead to -/

namespace ChunkGraph

/-- The graphs that operations lead to, in any order: edits and questions, operations of light models, marks, and chunks
that get another state. Such a chunk is marked unless it keeps its hash. -/
inductive Reachable : ChunkGraph → Prop where
  | empty : Reachable .empty
  | step {graph : ChunkGraph} (op : GraphOp) : Reachable graph → Reachable (graph.step op)
  | newModel {graph : ChunkGraph} (settings : LightModelSettings) : Reachable graph →
      Reachable (LightModel.new graph settings).2
  | operate {graph : ChunkGraph} (model : LightModel) (op : LightModel.Op) : Reachable graph →
      Reachable (model.step graph op).2
  | restate {graph : ChunkGraph} {id : ChunkId} {chunk old : Chunk} : Reachable graph →
      graph.chunk? id = some old → chunk.hash = old.hash → Reachable (graph.setChunk id chunk)
  | invalidateList {graph : ChunkGraph} (id : ChunkId) : Reachable graph → Reachable (graph.invalidateList id)
  | invalidateCode {graph : ChunkGraph} (id : ChunkId) : Reachable graph → Reachable (graph.invalidateCode id)

variable {graph : ChunkGraph}

theorem Sound.invalidateList (sound : graph.Sound) (id : ChunkId) : (graph.invalidateList id).Sound := by
  refine sound.of_marks (sound.wellFormed.of_shape fun _ => rfl)
    (fun other => if other ∈ graph.subscribers id then .list else .nothing) ?_ (fun _ live => live) (fun _ => rfl)
    (fun _ changed => absurd rfl changed) fun _ changed => absurd rfl changed
  intro other
  rw [ChunkGraph.invalidateList, collection?_markLists]
  congr 1
  funext collection
  split <;> rfl

theorem Reachable.sound (reachable : graph.Reachable) : graph.Sound := by
  induction reachable with
  | empty => exact .empty
  | step op _ ih => exact ih.step op
  | @newModel graph settings _ ih => exact (LightModel.upholds_new graph settings).sound ih
  | @operate graph model op _ ih => exact (model.upholds_step graph op).sound ih
  | restate _ found same ih => exact ih.of_alike (alike_setChunk _ _) (digest?_setChunk_of_hash found same)
  | invalidateList id _ ih => exact ih.invalidateList id
  | invalidateCode id _ ih => exact ih.recode ⟨fun _ => rfl, fun _ => rfl, fun _ => rfl⟩ id fun _ _ => rfl

theorem reachable_run (ops : List GraphOp) : (run ops).Reachable := by
  suffices ∀ graph : ChunkGraph, graph.Reachable → (ops.foldl ChunkGraph.step graph).Reachable from this _ .empty
  intro graph reachable
  induction ops generalizing graph with
  | nil => exact reachable
  | cons op rest ih => exact ih _ (reachable.step op)

end ChunkGraph

variable {P : Type}

/-! ## Calls -/

/-- What a program is asked for. -/
inductive ProgramCall where
  | ofSource (source : ProgramSource)
  | ofCollection (template : Template) (collection : CollectionId)

namespace ProgramCall

/-- The key that the cache is asked for. -/
def key? (graph : ChunkGraph) : ProgramCall → Except AssemblyError String
  | ofSource source => .ok source.key
  | ofCollection template collection => (graph.collectionHash collection).1.map (Hash.Tokens.hashPair template.uid)

/-- What the program is made from. -/
def source? (graph : ChunkGraph) : ProgramCall → Except AssemblyError ProgramSource
  | ofSource source => .ok source
  | ofCollection template collection => (graph.collectionGenerate collection).1.map (⟨template, ·⟩)

/-- A collection is refreshed when a program is asked for with it. -/
def refreshed (graph : ChunkGraph) : ProgramCall → ChunkGraph
  | ofSource _ => graph
  | ofCollection _ collection => (graph.refresh collection).2

end ProgramCall

/-- What a backend makes of a source. -/
def Backend.make (backend : Backend P) (source : ProgramSource) : Except AssemblyError P :=
  backend.create source.template.uid (source.template.resolve source.slots).1
    (source.template.resolve source.slots).2

namespace ProgramCache

/-- Counts misses whose sources were refused. -/
def countRefusals (cache : ProgramCache) (count : Nat) : ProgramCache :=
  { cache with
    stats := { cache.stats with misses := cache.stats.misses + count, failures := cache.stats.failures + count } }

/-- The answer to a call with a key, made from a source if the cache does not have it. -/
def serve (cache : ProgramCache) (ledger : ProgramLedger P) (backend : Backend P) (key? : Except AssemblyError String)
    (source? : Except AssemblyError ProgramSource) : Outcome (ProgramCache × ProgramLedger P) ProgramId :=
  match key? with
  | .error cause => (.error cause, cache, ledger)
  | .ok key =>
    match cache.hit? ledger key with
    | some (program, cache, ledger) => (.ok program, cache, ledger)
    | none =>
      match source? with
      | .error cause => (.error cause, cache, ledger)
      | .ok source => cache.miss ledger backend key source

variable (cache : ProgramCache) (ledger : ProgramLedger P) (backend : Backend P)

/-- A miss is counted with what came of it, and only a program that was made is kept. -/
theorem miss_eq (key : String) (source : ProgramSource) :
    cache.miss ledger backend key source =
      match backend.make source with
      | .error cause => (.error cause, cache.countRefusals 1, ledger)
      | .ok program =>
        let (id, ledger) := ledger.add program backend.context 2
        (.ok id, { cache.countMade with entries := cache.entries ++ [⟨key, id⟩] }, ledger) := by
  simp only [miss, Backend.make]
  cases backend.create source.template.uid (source.template.resolve source.slots).1
    (source.template.resolve source.slots).2 <;> rfl

theorem compileCollection_eq_serve (template : Template) (graph : ChunkGraph) (collection : CollectionId) :
    let call := ProgramCall.ofCollection template collection
    cache.compileCollection ledger backend template graph collection =
      let (result, cache, ledger) := cache.serve ledger backend (call.key? graph) (call.source? graph)
      (result, cache, ledger, (graph.refresh collection).2) := by
  have hashed : graph.collectionHash collection = ((graph.collectionHash collection).1, (graph.refresh collection).2) :=
    Prod.ext rfl (ChunkGraph.snd_collectionHash graph collection)
  have generated : (graph.refresh collection).2.collectionGenerate collection =
      ((graph.collectionGenerate collection).1, (graph.refresh collection).2) := by
    rw [ChunkGraph.collectionGenerate_again]
    exact Prod.ext rfl (ChunkGraph.snd_collectionGenerate graph collection)
  simp only [compileCollection, serve, ProgramCall.key?, ProgramCall.source?]
  rw [hashed]
  cases (graph.collectionHash collection).1 with
  | error cause => rfl
  | ok hash =>
    simp only [Except.map, generated]
    cases cache.hit? ledger (Hash.Tokens.hashPair template.uid hash) with
    | some hit => rfl
    | none => cases (graph.collectionGenerate collection).1 <;> rfl

/-- Counted refusals play no part in an answer. -/
theorem serve_countRefusals (count : Nat) (key? : Except AssemblyError String)
    (source? : Except AssemblyError ProgramSource) :
    (cache.countRefusals count).serve ledger backend key? source? =
      let (result, cache, ledger) := cache.serve ledger backend key? source?
      (result, cache.countRefusals count, ledger) := by
  cases key? with
  | error cause => rfl
  | ok key =>
    have held : (cache.countRefusals count).get? key = cache.get? key := rfl
    simp only [serve, hit?, held]
    cases cache.get? key with
    | some program => rfl
    | none =>
      cases source? with
      | error cause => rfl
      | ok source =>
        simp only [Option.map_none, miss_eq]
        cases backend.make source with
        | error cause => simp [countRefusals, Nat.add_right_comm]
        | ok program => simp [countRefusals, countMade, Nat.add_right_comm]

theorem release_countRefusals (count : Nat) (program : ProgramId) :
    (cache.countRefusals count).release ledger program =
      let (evicted, cache, ledger) := cache.release ledger program
      (evicted, cache.countRefusals count, ledger) := by
  have programs : (cache.countRefusals count).programs = cache.programs := rfl
  simp only [release, programs]
  split <;> rfl

/-- An answer without a program: there is no key, no source, or the backend refuses the source. -/
theorem serve_eq_error_iff {key? : Except AssemblyError String} {source? : Except AssemblyError ProgramSource}
    {cause : AssemblyError} {after : ProgramCache × ProgramLedger P} :
    cache.serve ledger backend key? source? = (.error cause, after) ↔
      key? = .error cause ∧ after = (cache, ledger) ∨
      ∃ key, key? = .ok key ∧ cache.get? key = none ∧
        (source? = .error cause ∧ after = (cache, ledger) ∨
          ∃ source, source? = .ok source ∧ backend.make source = .error cause ∧
            after = (cache.countRefusals 1, ledger)) := by
  cases key? with
  | error other => simp [serve, eq_comm]
  | ok key =>
    simp only [serve, hit?]
    cases found : cache.get? key with
    | some program => simp [found]
    | none =>
      cases source? with
      | error other => simp [found, eq_comm]
      | ok source =>
        simp only [Option.map_none, miss_eq]
        cases made : backend.make source with
        | error other => simp [found, made, eq_comm]
        | ok program => simp [made]

/-! ### A fog -/

/-- A chunk by data, with code for the lights. -/
def dimming : Chunk :=
  FragmentChunk.toChunk { caps := ⟨true, false⟩, hash := "dim", fragments := [⟨"lightsf", "color *= 0.5;\n"⟩] }

/-- A flag and a chunk by data, as the roots of a collection. -/
def foggy : ChunkGraph :=
  .run [.insert (.flag ⟨"useFog", true⟩), .insert dimming, .createCollection, .addRoot ⟨1, 1⟩ ⟨1, 1⟩,
    .addRoot ⟨1, 1⟩ ⟨2, 1⟩]

/-- A template with places for definitions and lights. -/
def foggyTemplate : Template := ⟨"fog", "", "#pragma SLOT definitions\n#pragma SLOT lightsf\n"⟩

end ProgramCache

/-- A cache with the programs made and the graph that its collections are in. -/
structure Workbench (P : Type) where
  cache : ProgramCache
  ledger : ProgramLedger P
  graph : ChunkGraph

inductive WorkbenchOp (P : Type) where
  /-- An edit of the graph, or a question to it. -/
  | edit (op : GraphOp)
  | call (backend : Backend P) (call : ProgramCall)
  | release (program : ProgramId)
  | purge
  | clear
  /-- Somebody else takes a reference. -/
  | retain (program : ProgramId)
  /-- Somebody else drops a reference. -/
  | drop (program : ProgramId)

namespace Workbench

def call (bench : Workbench P) (backend : Backend P) : ProgramCall → Outcome (Workbench P) ProgramId
  | .ofSource source =>
    let (result, cache, ledger) := bench.cache.compile bench.ledger backend source
    (result, { bench with cache, ledger })
  | .ofCollection template collection =>
    let (result, cache, ledger, graph) :=
      bench.cache.compileCollection bench.ledger backend template bench.graph collection
    (result, ⟨cache, ledger, graph⟩)

/-- What an operation leaves. -/
def step (bench : Workbench P) : WorkbenchOp P → Workbench P
  | .edit op => { bench with graph := bench.graph.step op }
  | .call backend call => (bench.call backend call).2
  | .release program =>
    let (_, cache, ledger) := bench.cache.release bench.ledger program
    { bench with cache, ledger }
  | .purge =>
    let (_, cache, ledger) := bench.cache.purge bench.ledger
    { bench with cache, ledger }
  | .clear =>
    let (cache, ledger) := bench.cache.clear bench.ledger
    { bench with cache, ledger }
  | .retain program => { bench with ledger := bench.ledger.retain program }
  | .drop program => { bench with ledger := bench.ledger.release program }

def run (bench : Workbench P) (ops : List (WorkbenchOp P)) : Workbench P := ops.foldl step bench

/-- The operation is a call that gets no program. -/
def fails (bench : Workbench P) : WorkbenchOp P → Bool
  | .call backend call => (bench.call backend call).1.toOption.isNone
  | _ => false

/-- The operation is a call whose sources are refused. -/
def refuses (bench : Workbench P) (op : WorkbenchOp P) : Bool :=
  bench.fails op && match op with
    | .call _ call => (call.source? bench.graph).toOption.isSome
    | _ => false

/-- The operations of a history without those calls that fail in it. -/
def spared (bench : Workbench P) : List (WorkbenchOp P) → List (WorkbenchOp P)
  | [] => []
  | op :: rest => if bench.fails op then (bench.step op).spared rest else op :: (bench.step op).spared rest

/-- How many calls of a history have their sources refused. -/
def refusals (bench : Workbench P) : List (WorkbenchOp P) → Nat
  | [] => 0
  | op :: rest => (if bench.refuses op then 1 else 0) + (bench.step op).refusals rest

/-- The cache has no program for the call. -/
def Misses (bench : Workbench P) (call : ProgramCall) : Prop :=
  ∀ key, call.key? bench.graph = .ok key → bench.cache.get? key = none

/-- Where a call fails, with the cause, and how many refusals are counted for it. -/
inductive Fails (bench : Workbench P) (backend : Backend P) : ProgramCall → AssemblyError → Nat → Prop where
  | unknown {template : Template} {id : CollectionId} (gone : bench.graph.collection? id = none) :
      Fails bench backend (.ofCollection template id) (.collectionNotFound id) 0
  | codeless {template : Template} {id : CollectionId} {cause : AssemblyError}
      (live : (bench.graph.collection? id).isSome) (misses : bench.Misses (.ofCollection template id))
      (failed : (bench.graph.collectionGenerate id).1 = .error cause) :
      Fails bench backend (.ofCollection template id) cause 0
  | refused {call : ProgramCall} {source : ProgramSource} {cause : AssemblyError} (misses : bench.Misses call)
      (coded : call.source? bench.graph = .ok source) (failed : backend.make source = .error cause) :
      Fails bench backend call cause 1

variable {bench first second : Workbench P} {backend : Backend P} {call : ProgramCall} {count : Nat}

/-! ## One call -/

theorem call_eq (bench : Workbench P) (backend : Backend P) (call : ProgramCall) :
    bench.call backend call =
      let (result, cache, ledger) :=
        bench.cache.serve bench.ledger backend (call.key? bench.graph) (call.source? bench.graph)
      (result, ⟨cache, ledger, call.refreshed bench.graph⟩) := by
  cases call with
  | ofSource source => rfl
  | ofCollection template collection =>
    rw [Workbench.call, ProgramCache.compileCollection_eq_serve]
    rfl

/-- Only a call with an unknown collection has no key. -/
theorem key?_eq_error_iff {graph : ChunkGraph} {template : Template} {id : CollectionId} {cause : AssemblyError} :
    (ProgramCall.ofCollection template id).key? graph = .error cause ↔
      graph.collection? id = none ∧ cause = .collectionNotFound id := by
  rw [← ChunkGraph.fst_collectionHash_eq_error_iff, ProgramCall.key?]
  cases (graph.collectionHash id).1 <;> simp [Except.map]

/-- A call that fails does so for one of the three reasons, and leaves nothing but the count and the refreshed graph. -/
theorem exists_fails {cause : AssemblyError} {after : Workbench P}
    (failed : bench.call backend call = (.error cause, after)) : ∃ count, bench.Fails backend call cause count ∧
      after = ⟨bench.cache.countRefusals count, bench.ledger, call.refreshed bench.graph⟩ := by
  rw [call_eq] at failed
  rcases answered : bench.cache.serve bench.ledger backend (call.key? bench.graph) (call.source? bench.graph)
    with ⟨result, kept⟩
  rw [answered] at failed
  cases failed
  rcases (bench.cache.serve_eq_error_iff bench.ledger backend).1 answered with
    ⟨keyless, rfl⟩ | ⟨key, keyed, absent, ended⟩
  · cases call with
    | ofSource source => cases keyless
    | ofCollection template id =>
      obtain ⟨gone, rfl⟩ := key?_eq_error_iff.1 keyless
      exact ⟨0, .unknown gone, rfl⟩
  · have misses : bench.Misses call := fun other asked => Except.ok.inj (keyed.symm.trans asked) ▸ absent
    rcases ended with ⟨codeless, rfl⟩ | ⟨source, made, refused, rfl⟩
    · cases call with
      | ofSource source => cases codeless
      | ofCollection template id =>
        refine ⟨0, .codeless ?_ misses ?_, rfl⟩
        · refine Option.ne_none_iff_isSome.1 fun gone => ?_
          cases keyed.symm.trans (key?_eq_error_iff.2 ⟨gone, rfl⟩)
        · rw [ProgramCall.source?] at codeless
          cases generated : (bench.graph.collectionGenerate id).1 with
          | error other =>
            rw [generated] at codeless
            exact congrArg Except.error (Except.error.inj codeless)
          | ok slots => simp [generated, Except.map] at codeless
    · exact ⟨1, .refused misses made refused, rfl⟩

/-- A call whose code is generated has a key. -/
theorem exists_key {graph : ChunkGraph} {source : ProgramSource} (made : call.source? graph = .ok source) :
    ∃ key, call.key? graph = .ok key := by
  cases call with
  | ofSource source => exact ⟨_, rfl⟩
  | ofCollection template id =>
    cases keyed : (ProgramCall.ofCollection template id).key? graph with
    | ok key => exact ⟨key, rfl⟩
    | error cause =>
      obtain ⟨gone, -⟩ := key?_eq_error_iff.1 keyed
      rw [ProgramCall.source?, ChunkGraph.collectionGenerate, ChunkGraph.refreshed_of_gone gone] at made
      cases made

theorem Fails.call_eq {cause : AssemblyError} (fails : bench.Fails backend call cause count) :
    bench.call backend call =
      (.error cause, ⟨bench.cache.countRefusals count, bench.ledger, call.refreshed bench.graph⟩) := by
  have answered : bench.cache.serve bench.ledger backend (call.key? bench.graph) (call.source? bench.graph) =
      (.error cause, bench.cache.countRefusals count, bench.ledger) := by
    refine (bench.cache.serve_eq_error_iff bench.ledger backend).2 ?_
    cases fails with
    | unknown gone => exact .inl ⟨key?_eq_error_iff.2 ⟨gone, rfl⟩, rfl⟩
    | @codeless template id _ live misses failed =>
      cases keyed : (ProgramCall.ofCollection template id).key? bench.graph with
      | error other => simp [(key?_eq_error_iff.1 keyed).1] at live
      | ok key =>
        refine .inr ⟨key, rfl, misses key keyed, .inl ⟨?_, rfl⟩⟩
        rw [ProgramCall.source?, failed]
        rfl
    | @refused _ source _ misses made failed =>
      obtain ⟨key, keyed⟩ := exists_key made
      exact .inr ⟨key, keyed, misses key keyed, .inr ⟨source, made, failed, rfl⟩⟩
  rw [Workbench.call_eq, answered]

theorem Fails.misses {cause : AssemblyError} (fails : bench.Fails backend call cause count) : bench.Misses call := by
  cases fails with
  | unknown gone =>
    intro key keyed
    rw [key?_eq_error_iff.2 ⟨gone, rfl⟩] at keyed
    cases keyed
  | codeless _ misses => exact misses
  | refused misses => exact misses

/-- A call that the cache has no program for gets a new one, if there is code and the backend accepts it. -/
theorem Misses.call_eq (misses : bench.Misses call) {source : ProgramSource}
    (coded : call.source? bench.graph = .ok source) {program : P} (made : backend.make source = .ok program) :
    let added := bench.ledger.add program backend.context 2
    ∃ key, call.key? bench.graph = .ok key ∧ bench.call backend call =
      (.ok added.1, ⟨{ bench.cache.countMade with entries := bench.cache.entries ++ [⟨key, added.1⟩] }, added.2,
        call.refreshed bench.graph⟩) := by
  obtain ⟨key, keyed⟩ := exists_key coded
  refine ⟨key, keyed, ?_⟩
  rw [Workbench.call_eq, keyed, coded]
  simp only [ProgramCache.serve, ProgramCache.hit?, misses key keyed, Option.map_none, ProgramCache.miss_eq, made]

/-! ## Histories -/

/-- The first has come to the same as the second, but for refusals that it counted and the bookkeeping of the graph. -/
structure Alike (first : Workbench P) (count : Nat) (second : Workbench P) : Prop where
  cache : first.cache = second.cache.countRefusals count
  ledger : first.ledger = second.ledger
  bare : first.graph.bare = second.graph.bare

theorem Alike.refl (bench : Workbench P) : bench.Alike 0 bench := ⟨rfl, rfl, rfl⟩

theorem Alike.trans {third : Workbench P} {more : Nat} (alike : first.Alike count second)
    (further : second.Alike more third) : first.Alike (count + more) third where
  cache := by
    rw [alike.cache, further.cache]
    simp [ProgramCache.countRefusals, Nat.add_assoc, Nat.add_comm count]
  ledger := alike.ledger.trans further.ledger
  bare := alike.bare.trans further.bare

theorem Alike.key?_eq (alike : first.Alike count second) (sound : first.graph.Sound) (sound' : second.graph.Sound)
    (call : ProgramCall) :
    call.key? first.graph = call.key? second.graph ∧ call.source? first.graph = call.source? second.graph := by
  cases call with
  | ofSource source => exact ⟨rfl, rfl⟩
  | ofCollection template id =>
    have answers := sound.answers_of_bare sound' alike.bare id
    simp only [ChunkGraph.answers, Prod.mk.injEq] at answers
    exact ⟨congrArg (Except.map _) answers.1, congrArg (Except.map _) answers.2.2⟩

theorem Alike.misses (alike : first.Alike count second) (sound : first.graph.Sound) (sound' : second.graph.Sound)
    (misses : second.Misses call) : first.Misses call := by
  intro key keyed
  rw [(alike.key?_eq sound sound' call).1] at keyed
  rw [alike.cache]
  exact misses key keyed

theorem bare_refreshed (graph : ChunkGraph) (call : ProgramCall) : (call.refreshed graph).bare = graph.bare := by
  cases call with
  | ofSource source => rfl
  | ofCollection template id => exact ChunkGraph.bare_refresh id

/-- A call gets the same answer from both. -/
theorem Alike.answer (alike : first.Alike count second) (sound : first.graph.Sound) (sound' : second.graph.Sound)
    (backend : Backend P) (call : ProgramCall) :
    (first.call backend call).1 = (second.call backend call).1 ∧
      (first.call backend call).2.Alike count (second.call backend call).2 := by
  obtain ⟨keys, sources⟩ := alike.key?_eq sound sound' call
  rw [call_eq, call_eq, keys, sources, alike.cache, alike.ledger, ProgramCache.serve_countRefusals]
  refine ⟨rfl, rfl, rfl, ?_⟩
  exact (bare_refreshed _ call).trans (alike.bare.trans (bare_refreshed _ call).symm)

theorem Alike.step (alike : first.Alike count second) (sound : first.graph.Sound) (sound' : second.graph.Sound)
    (op : WorkbenchOp P) : (first.step op).Alike count (second.step op) := by
  obtain ⟨cache, ledger, bare⟩ := alike
  cases op with
  | edit op => exact ⟨cache, ledger, ChunkGraph.bare_step_congr bare op⟩
  | call backend call => exact (Alike.answer ⟨cache, ledger, bare⟩ sound sound' backend call).2
  | release program =>
    simp only [Workbench.step, cache, ledger, ProgramCache.release_countRefusals]
    exact ⟨rfl, rfl, bare⟩
  | purge =>
    simp only [Workbench.step, cache, ledger]
    exact ⟨rfl, rfl, bare⟩
  | clear =>
    simp only [Workbench.step, cache, ledger]
    exact ⟨rfl, rfl, bare⟩
  | retain program => exact ⟨cache, congrArg (·.retain program) ledger, bare⟩
  | drop program => exact ⟨cache, congrArg (·.release program) ledger, bare⟩

theorem sound_step (sound : bench.graph.Sound) (op : WorkbenchOp P) : (bench.step op).graph.Sound := by
  cases op with
  | edit op => exact sound.step op
  | call backend call =>
    rw [step, call_eq]
    cases call with
    | ofSource source => exact sound
    | ofCollection template id => exact sound.refresh id
  | release program | purge | clear | retain program | drop program => exact sound

theorem sound_run (sound : bench.graph.Sound) (ops : List (WorkbenchOp P)) : (bench.run ops).graph.Sound := by
  induction ops generalizing bench with
  | nil => exact sound
  | cons op rest ih => exact ih (sound_step sound op)

/-- What fails is a call. -/
theorem exists_call_of_fails {op : WorkbenchOp P} (failed : bench.fails op = true) :
    ∃ backend call cause count, op = .call backend call ∧ bench.Fails backend call cause count ∧
      bench.step op = ⟨bench.cache.countRefusals count, bench.ledger, call.refreshed bench.graph⟩ := by
  cases op with
  | call backend call =>
    rcases answered : bench.call backend call with ⟨cause | program, after⟩
    · obtain ⟨count, fails, rfl⟩ := exists_fails answered
      exact ⟨backend, call, cause, count, rfl, fails, congrArg Prod.snd answered⟩
    · rw [fails, answered] at failed
      cases failed
  | edit | release | purge | clear | retain | drop => cases failed

/-- A refusal is counted for those failed calls whose sources were made. -/
theorem Fails.count_eq {cause : AssemblyError} (fails : bench.Fails backend call cause count) :
    count = if (call.source? bench.graph).toOption.isSome then 1 else 0 := by
  cases fails with
  | unknown gone =>
    rw [ProgramCall.source?, ChunkGraph.collectionGenerate, ChunkGraph.refreshed_of_gone gone]
    rfl
  | codeless _ _ failed =>
    rw [ProgramCall.source?, failed]
    rfl
  | refused _ made =>
    rw [made]
    rfl

/-- A failed call counts a refusal, if the sources were refused, and changes nothing else. -/
theorem alike_of_fails {op : WorkbenchOp P} (failed : bench.fails op = true) :
    (bench.step op).Alike (if bench.refuses op then 1 else 0) bench := by
  obtain ⟨backend, call, cause, count, rfl, fails, after⟩ := exists_call_of_fails failed
  rw [refuses, failed, Bool.true_and, ← fails.count_eq, after]
  exact ⟨rfl, rfl, bare_refreshed _ call⟩

/-- A history comes to the same without the calls that fail in it. -/
theorem Alike.run (alike : first.Alike count second) (sound : first.graph.Sound) (sound' : second.graph.Sound)
    (ops : List (WorkbenchOp P)) : (first.run ops).Alike (count + first.refusals ops) (second.run (first.spared ops)) := by
  induction ops generalizing first second count with
  | nil => exact alike
  | cons op rest ih =>
    have later := sound_step sound op
    cases failed : first.fails op with
    | true =>
      have skipped := ih ((alike_of_fails failed).trans alike) later sound'
      rw [spared, if_pos failed, refusals, ← Nat.add_assoc, Nat.add_comm count]
      exact skipped
    | false =>
      have kept := ih (alike.step sound sound' op) later (sound_step sound' op)
      simpa [spared, refusals, refuses, failed, Workbench.run] using kept

/-- The cache has no program for a call that fails anywhere in a history of failed calls. -/
theorem misses_of_spared {ops : List (WorkbenchOp P)} (sound : bench.graph.Sound) (none : bench.spared ops = [])
    (member : .call backend call ∈ ops) : bench.Misses call := by
  induction ops generalizing bench with
  | nil => cases member
  | cons op rest ih =>
    have failed : bench.fails op = true := by
      by_contra works
      rw [spared, if_neg works] at none
      cases none
    rw [spared, if_pos failed] at none
    rcases List.mem_cons.1 member with same | later
    · obtain ⟨_, _, _, _, rfl, fails, -⟩ := exists_call_of_fails failed
      cases same
      exact fails.misses
    · have after := sound_step sound op
      have alike := alike_of_fails failed
      intro key keyed
      have absent := ih after none later key ((alike.key?_eq after sound call).1.trans keyed)
      rwa [alike.cache] at absent

/-- **Failed calls leave no trace.** A call fails exactly for an unknown collection, for code that cannot be generated, or
for sources that the backend refuses; only the last is counted, as a miss and a failure. A history without the calls
that fail in it comes to the same but for this count, and whatever is asked then gets the same answer. After failed calls
only, each of them is still a miss, and gets the program that it would have got at first as soon as it can be made. -/
theorem failures_leave_no_trace (bench : Workbench P) (reachable : bench.graph.Reachable) :
    (∀ backend call cause after, bench.call backend call = (.error cause, after) ↔
      ∃ count, bench.Fails backend call cause count ∧
        after = ⟨bench.cache.countRefusals count, bench.ledger, call.refreshed bench.graph⟩) ∧
    (∀ ops, (bench.run ops).Alike (bench.refusals ops) (bench.run (bench.spared ops)) ∧
      ∀ backend call,
        ((bench.run ops).call backend call).1 = ((bench.run (bench.spared ops)).call backend call).1) ∧
    ∀ ops, bench.spared ops = [] → ∀ backend call, .call backend call ∈ ops →
      (bench.run ops).Misses call ∧
      ∀ (other : Backend P) source program, call.source? bench.graph = .ok source → other.make source = .ok program →
        let added := bench.ledger.add program other.context 2
        ∃ key, call.key? bench.graph = .ok key ∧ (bench.run ops).call other call =
          (.ok added.1,
            ⟨{ (bench.cache.countRefusals (bench.refusals ops)).countMade with
                entries := bench.cache.entries ++ [⟨key, added.1⟩] },
              added.2, call.refreshed (bench.run ops).graph⟩) := by
  have sound := reachable.sound
  have alike : ∀ ops, (bench.run ops).Alike (bench.refusals ops) (bench.run (bench.spared ops)) := by
    intro ops
    have runs := (Alike.refl bench).run sound sound ops
    rwa [Nat.zero_add] at runs
  refine ⟨?_, ?_, ?_⟩
  · intro backend call cause after
    refine ⟨exists_fails, ?_⟩
    rintro ⟨count, fails, rfl⟩
    exact fails.call_eq
  · intro ops
    exact ⟨alike ops, fun backend call => ((alike ops).answer (sound_run sound ops) (sound_run sound _) backend call).1⟩
  · intro ops none backend call member
    have kept := alike ops
    rw [none] at kept
    obtain ⟨keys, sources⟩ := kept.key?_eq (sound_run sound ops) sound call
    have misses := kept.misses (sound_run sound ops) sound (misses_of_spared sound none member)
    refine ⟨misses, fun other source program made created => ?_⟩
    obtain ⟨key, keyed, answer⟩ := misses.call_eq (sources.trans made) created
    refine ⟨key, keys.symm.trans keyed, ?_⟩
    rw [answer, kept.cache, kept.ledger]
    rfl

/-- The chunks of `foggy`, and a stencil that the library does not have in a collection of its own. -/
def halfFoggy : ChunkGraph :=
  [.insert (.stencil ⟨"lightsf", "mist"⟩), .createCollection, .addRoot ⟨2, 1⟩ ⟨3, 1⟩].foldl ChunkGraph.step
    ProgramCache.foggy

/-- A backend that refuses the sources, a stencil that is not there and a collection that is not there. The first call
still gets the first program when it is made again. -/
theorem fog_after_failures :
    let bench : Workbench Program := ⟨.new ⟨1⟩ {}, {}, halfFoggy⟩
    let fog (id : CollectionId) : ProgramCall := .ofCollection ProgramCache.foggyTemplate id
    let ops := [.call (.refusing ⟨1⟩ "lost") (fog ⟨1, 1⟩), .call (.recording ⟨1⟩) (fog ⟨2, 1⟩),
      .call (.recording ⟨1⟩) (fog ⟨3, 1⟩)]
    bench.graph.Reachable ∧ bench.spared ops = [] ∧ bench.refusals ops = 1 ∧
      (bench.run ops).Misses (fog ⟨1, 1⟩) ∧
      ((bench.run ops).call (.recording ⟨1⟩) (fog ⟨1, 1⟩)).1 = .ok ⟨1⟩ ∧
      ((bench.run ops).call (.recording ⟨1⟩) (fog ⟨1, 1⟩)).2.cache.stats =
        { misses := 2, failures := 1, compilations := 1 } := by
  intro bench fog ops
  have reachable : bench.graph.Reachable :=
    (((ChunkGraph.reachable_run _).step (.insert (.stencil ⟨"lightsf", "mist"⟩))).step .createCollection).step
      (.addRoot ⟨2, 1⟩ ⟨3, 1⟩)
  have none : bench.spared ops = [] := List.isEmpty_iff.1 (by decide +kernel)
  have counted : bench.refusals ops = 1 := by decide +kernel
  obtain ⟨source, made⟩ : ∃ source, (fog ⟨1, 1⟩).source? bench.graph = .ok source := ⟨_, rfl⟩
  obtain ⟨-, -, again⟩ := failures_leave_no_trace bench reachable
  obtain ⟨misses, answers⟩ := again ops none _ _ (List.mem_cons_self ..)
  obtain ⟨key, -, answer⟩ := answers (.recording ⟨1⟩) source _ made rfl
  refine ⟨reachable, none, counted, misses, ?_, ?_⟩
  · rw [answer]
    rfl
  · rw [answer, counted]
    rfl

end Workbench

end ShaderWeave
