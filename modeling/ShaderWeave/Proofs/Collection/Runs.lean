import ShaderWeave.Proofs.Collection.Refresh

/-! # Runs of a graph

A graph goes through edits, rewrites of chunks and questions to collections, in any order and with any keys, stale
ones included. Each step keeps the graph well formed and its bookkeeping sound, so both hold along every run; and
as a question changes nothing but bookkeeping, no answer depends on the questions before it.
-/

namespace ShaderWeave

/-- A question to a collection, which refreshes it first. -/
inductive CollectionQuery where
  | refresh
  | hash
  | actives
  | generate
  | pending
  | setup (declares : String → Bool)

inductive GraphOp where
  | insert (chunk : Chunk)
  | remove (id : ChunkId)
  | addChild (parent child : ChunkId)
  | removeChild (parent child : ChunkId)
  | setProxy (chunk : ChunkId) (target : Option ChunkId)
  | createProxy (target : ChunkId)
  | createCollection
  | removeCollection (id : CollectionId)
  | addRoot (id : CollectionId) (root : ChunkId)
  | removeRoot (id : CollectionId) (root : ChunkId)
  /-- A chunk gets another state, and its code is marked. -/
  | rewrite (id : ChunkId) (chunk : Chunk)
  | markPending (id : ChunkId)
  /-- One chunk uploads its values. -/
  | setup (id : ChunkId) (declares : String → Bool)
  | query (id : CollectionId) (query : CollectionQuery)

namespace ChunkGraph

/-- The graph after a question. -/
def ask (graph : ChunkGraph) (id : CollectionId) : CollectionQuery → ChunkGraph
  | .refresh => (graph.refresh id).2
  | .hash => (graph.collectionHash id).2
  | .actives => (graph.collectionActives id).2
  | .generate => (graph.collectionGenerate id).2
  | .pending => (graph.collectionIsPending id).2
  | .setup declares => (graph.collectionSetup id declares).2

/-- The graph after an operation. What fails to find its target leaves the graph as it was. -/
def step (graph : ChunkGraph) : GraphOp → ChunkGraph
  | .insert chunk => (graph.insert chunk).2
  | .remove id => ((graph.remove id).map (·.2)).getD graph
  | .addChild parent child => (graph.addChild parent child).2
  | .removeChild parent child => (graph.removeChild parent child).2
  | .setProxy chunk target => (graph.setProxy chunk target).2
  | .createProxy target => (graph.createProxy target).2
  | .createCollection => graph.createCollection.2
  | .removeCollection id => ((graph.removeCollection id).map (·.2)).getD graph
  | .addRoot id root => (graph.addRoot id root).2
  | .removeRoot id root => (graph.removeRoot id root).2
  | .rewrite id chunk => (graph.setChunk id chunk).invalidateCode id
  | .markPending id => graph.markPending id
  | .setup id declares => (graph.setup id declares).2
  | .query id query => graph.ask id query

def run (ops : List GraphOp) : ChunkGraph := ops.foldl step .empty

variable {graph first second : ChunkGraph}

/-! ## Effects -/

/-- What an operation does once its checks are made, whichever way they went. -/
inductive Effect (graph : ChunkGraph) : GraphOp → ChunkGraph → Prop where
  | nothing (op : GraphOp) : Effect graph op graph
  | insert (chunk : Chunk) : Effect graph (.insert chunk) (graph.insert chunk).2
  | remove {id : ChunkId} {chunk : Chunk} {rest : ChunkGraph} (removed : graph.remove id = some (chunk, rest)) :
      Effect graph (.remove id) rest
  /-- One chunk leads elsewhere, and the collections above it are marked. -/
  | relink {op : GraphOp} (id : ChunkId) (children : ChunkNode → List ChunkId) (proxy : ChunkNode → Option ChunkId) :
      Effect graph op <|
        (graph.modifyNode id fun node =>
          { node with children := children node, proxy := proxy node }).invalidateList id
  | createProxy (target : ChunkId) :
      Effect graph (.createProxy target)
        ((graph.insert .group).2.modifyNode (graph.insert .group).1 fun node => { node with proxy := some target })
  | createCollection : Effect graph .createCollection graph.createCollection.2
  | removeCollection {id : CollectionId} {collection : ChunkCollection} {rest : ChunkGraph}
      (removed : graph.removeCollection id = some (collection, rest)) : Effect graph (.removeCollection id) rest
  /-- A collection gets other roots. -/
  | reroot {op : GraphOp} (id : CollectionId) (roots : ChunkCollection → List ChunkId) :
      Effect graph op (graph.modifyCollection id fun collection => collection.withRoots (roots collection))
  | rewrite (id : ChunkId) (chunk : Chunk) :
      Effect graph (.rewrite id chunk) ((graph.setChunk id chunk).invalidateCode id)
  | markPending (id : ChunkId) : Effect graph (.markPending id) (graph.markPending id)
  | setup (id : ChunkId) (declares : String → Bool) : Effect graph (.setup id declares) (graph.setup id declares).2
  | query (id : CollectionId) (query : CollectionQuery) : Effect graph (.query id query) (graph.ask id query)

theorem effect_step (graph : ChunkGraph) (op : GraphOp) : graph.Effect op (graph.step op) := by
  cases op with
  | insert chunk => exact .insert chunk
  | remove id =>
    rw [step]
    cases removed : graph.remove id with
    | none => exact .nothing _
    | some taken => exact .remove removed
  | addChild parent child =>
    rcases graph.addChild_cases parent child with same | ⟨-, -, -, -, -, same⟩
    · rw [step, same]
      exact .nothing _
    · rw [step, same]
      exact .relink parent (fun node => node.children ++ [child]) (·.proxy)
  | removeChild parent child =>
    rcases graph.removeChild_cases parent child with same | ⟨-, -, same⟩
    · rw [step, same]
      exact .nothing _
    · rw [step, same]
      exact .relink parent (fun node => node.children.erase child) (·.proxy)
  | setProxy chunk target =>
    rcases graph.setProxy_cases chunk target with same | ⟨-, -, -, -, same⟩
    · rw [step, same]
      exact .nothing _
    · rw [step, same]
      exact .relink chunk (·.children) fun _ => target
  | createProxy target =>
    rcases graph.createProxy_cases target with same | ⟨-, same⟩
    · rw [step, same]
      exact .nothing _
    · rw [step, same]
      exact .createProxy target
  | createCollection => exact .createCollection
  | removeCollection id =>
    rw [step]
    cases removed : graph.removeCollection id with
    | none => exact .nothing _
    | some taken => exact .removeCollection removed
  | addRoot id root =>
    rcases graph.addRoot_cases id root with same | ⟨-, same⟩
    · rw [step, same]
      exact .nothing _
    · rw [step, same]
      exact .reroot id fun collection => collection.roots ++ [root]
  | removeRoot id root =>
    rcases graph.removeRoot_cases id root with same | same
    · rw [step, same]
      exact .nothing _
    · rw [step, same]
      exact .reroot id fun collection => collection.roots.filter (· ≠ root)
  | rewrite id chunk => exact .rewrite id chunk
  | markPending id => exact .markPending id
  | setup id declares => exact .setup id declares
  | query id query => exact .query id query

/-! ## Steps -/

/-- A question refreshes the collection, and may upload values after that. -/
theorem ask_cases (graph : ChunkGraph) (id : CollectionId) (query : CollectionQuery) :
    ∃ declares actives, graph.ask id query = ((graph.refresh id).2.uploadsOfAll declares actives).2 := by
  have refreshed : ∃ declares actives,
      (graph.refreshed id).2 = ((graph.refresh id).2.uploadsOfAll declares actives).2 :=
    ⟨fun _ => false, [], snd_refreshed id⟩
  cases query with
  | refresh => exact ⟨fun _ => false, [], rfl⟩
  | hash => exact refreshed
  | actives => exact refreshed
  | generate => exact refreshed
  | pending => exact refreshed
  | setup declares => exact ⟨declares, snd_collectionSetup id declares⟩

/-- What a refresh and uploads keep, a question keeps. -/
theorem ask_keeps (keeps : ChunkGraph → Prop)
    (settled : ∀ graph id, keeps graph → keeps (graph.modifyNode id fun node => { node with pending := false }))
    {id : CollectionId} (refreshed : keeps (graph.refresh id).2) (query : CollectionQuery) :
    keeps (graph.ask id query) := by
  obtain ⟨declares, actives, same⟩ := graph.ask_cases id query
  rw [same]
  exact uploadsOfAll_keeps keeps settled refreshed declares actives

theorem Sound.ask (sound : graph.Sound) (id : CollectionId) (query : CollectionQuery) : (graph.ask id query).Sound :=
  ask_keeps Sound (fun _ id sound => sound.pending id false) (sound.refresh id) query

theorem bare_ask (id : CollectionId) (query : CollectionQuery) : (graph.ask id query).bare = graph.bare :=
  ask_keeps (fun after => after.bare = graph.bare) (fun before chunk => (bare_settled before chunk).trans)
    (bare_refresh id) query

theorem Sound.setup (sound : graph.Sound) (id : ChunkId) (declares : String → Bool) :
    (graph.setup id declares).2.Sound :=
  setup_keeps Sound (fun _ id sound => sound.pending id false) sound id declares

theorem bare_setup (id : ChunkId) (declares : String → Bool) : (graph.setup id declares).2.bare = graph.bare :=
  setup_keeps (fun after => after.bare = graph.bare) (fun before chunk => (bare_settled before chunk).trans) rfl id
    declares

theorem Sound.step (sound : graph.Sound) (op : GraphOp) : (graph.step op).Sound := by
  cases op with
  | insert chunk => exact sound.insert chunk
  | remove id =>
    rw [ChunkGraph.step]
    cases removed : graph.remove id with
    | none => exact sound
    | some taken => exact sound.remove removed
  | addChild parent child => exact sound.addChild parent child
  | removeChild parent child => exact sound.removeChild parent child
  | setProxy chunk target => exact sound.setProxy chunk target
  | createProxy target => exact sound.createProxy target
  | createCollection => exact sound.createCollection
  | removeCollection id =>
    rw [ChunkGraph.step]
    cases removed : graph.removeCollection id with
    | none => exact sound
    | some taken => exact sound.removeCollection removed
  | addRoot id root => exact sound.addRoot id root
  | removeRoot id root => exact sound.removeRoot id root
  | rewrite id chunk => exact sound.rewrite id chunk
  | markPending id => exact sound.pending id true
  | setup id declares => exact sound.setup id declares
  | query id query => exact sound.ask id query

theorem Sound.run (ops : List GraphOp) : (run ops).Sound := by
  suffices ∀ graph : ChunkGraph, graph.Sound → (ops.foldl ChunkGraph.step graph).Sound from this _ .empty
  intro graph sound
  induction ops generalizing graph with
  | nil => exact sound
  | cons op rest ih => exact ih _ (sound.step op)

/-! ## Shape -/

/-- Along every run the graph has no cycles and leads to live chunks only, so following proxies and traversals end. -/
theorem run_acyclic_closed (ops : List GraphOp) :
    (run ops).Acyclic ∧
      (∀ id node, (run ops).node? id = some node →
        (∀ next, node.proxy = some next ∨ next ∈ node.children → ((run ops).node? next).isSome) ∧
          node.children.Nodup) ∧
      (∀ id collection, (run ops).collection? id = some collection →
        ∀ chunk, chunk ∈ collection.roots ∨ chunk ∈ collection.all ∨ chunk ∈ collection.actives →
          ((run ops).node? chunk).isSome) ∧
      ∀ id, ((run ops).node? id).isSome →
        (∃ target node, (run ops).resolve id = .ok target ∧ (run ops).Resolves id target ∧
          (run ops).node? target = some node ∧ node.proxy = none) ∧
          (run ops).Flattens id ((run ops).flatten id) := by
  have sound := Sound.run ops
  have wellFormed := sound.wellFormed
  refine ⟨wellFormed.acyclic, ?_, ?_, ?_⟩
  · intro id node found
    refine ⟨?_, wellFormed.nodup id node found⟩
    intro next leads
    exact wellFormed.closed id next (edge_iff.2 ⟨node, found, leads⟩)
  · intro id collection found chunk member
    have listed := sound.listed id collection found
    rcases member with root | visited | active
    · exact listed.roots chunk root
    · exact listed.all chunk visited
    · exact listed.all chunk (listed.actives chunk active)
  · intro id live
    obtain ⟨target, resolved, resolves⟩ := wellFormed.resolve_eq_ok live
    obtain ⟨node, found, behaving⟩ := resolves.behaves
    exact ⟨⟨target, node, resolved, resolves, found, behaving⟩, wellFormed.acyclic.flattens id⟩

end ChunkGraph

/-! ## Questions -/

def GraphOp.isQuestion : GraphOp → Bool
  | .query _ _ => true
  | _ => false

/-- The operations that are not questions to collections. -/
def GraphOp.edits (ops : List GraphOp) : List GraphOp := ops.filter (!·.isQuestion)

namespace ChunkGraph

variable {graph first second : ChunkGraph}

/-- Taking something out, or nothing if it is not there. -/
private theorem bare_getD {α : Type} {here there : Option (α × ChunkGraph)}
    (same : there.map (·.2.bare) = here.map (·.2.bare)) :
    ((here.map (·.2)).getD graph).bare = ((there.map (·.2)).getD graph.bare).bare := by
  cases here with
  | none =>
    obtain rfl : there = none := by simpa using same
    exact bare_bare.symm
  | some taken =>
    cases there with
    | none => simp at same
    | some taken' => exact (Option.some.inj same).symm

/-- An edit does the same whatever the bookkeeping says. -/
theorem bare_step {op : GraphOp} (edit : op.isQuestion = false) :
    (graph.step op).bare = (graph.bare.step op).bare := by
  cases op with
  | insert chunk => rw [step, step, insert_bare, bare_bare]
  | remove id => exact bare_getD (bare_remove id)
  | addChild parent child => exact bare_addChild parent child
  | removeChild parent child => exact bare_removeChild parent child
  | setProxy chunk target => exact bare_setProxy chunk target
  | createProxy target => exact bare_createProxy target
  | createCollection => rw [step, step, createCollection_bare, bare_bare]
  | removeCollection id => exact bare_getD (bare_removeCollection id)
  | addRoot id root => exact bare_addRoot id root
  | removeRoot id root => exact bare_removeRoot id root
  | rewrite id chunk =>
    rw [step, step, bare_invalidateCode, bare_invalidateCode]
    exact bare_modifyNode id fun _ => rfl
  | markPending id => exact bare_modifyNode id fun _ => rfl
  | setup id declares => rw [step, step, bare_setup, bare_setup, bare_bare]
  | query id query => simp [GraphOp.isQuestion] at edit

/-- An operation comes to the same on graphs that agree on all but bookkeeping. -/
theorem bare_step_congr (same : first.bare = second.bare) (op : GraphOp) :
    (first.step op).bare = (second.step op).bare := by
  cases question : op.isQuestion with
  | true =>
    cases op with
    | query id query => rw [step, step, bare_ask, bare_ask, same]
    | _ => cases question
  | false => rw [bare_step question, same, ← bare_step question]

/-- Runs with the same edits agree on all but bookkeeping. -/
theorem bare_run_edits (ops : List GraphOp) : (run ops).bare = (run (GraphOp.edits ops)).bare := by
  suffices ∀ first second : ChunkGraph, first.bare = second.bare →
      (ops.foldl step first).bare = ((GraphOp.edits ops).foldl step second).bare from this _ _ rfl
  induction ops with
  | nil => exact fun _ _ same => same
  | cons op rest ih =>
    intro first second same
    cases question : op.isQuestion with
    | true =>
      have skipped : GraphOp.edits (op :: rest) = GraphOp.edits rest := by simp [GraphOp.edits, question]
      rw [List.foldl_cons, skipped]
      apply ih _ _
      cases op with
      | query id query => rw [step, bare_ask, same]
      | _ => simp [GraphOp.isQuestion] at question
    | false =>
      have kept : GraphOp.edits (op :: rest) = op :: GraphOp.edits rest := by simp [GraphOp.edits, question]
      rw [List.foldl_cons, kept, List.foldl_cons]
      exact ih _ _ (bare_step_congr same op)

/-- What a live collection answers when it is asked: the values of a rebuild from its roots. -/
structure Answers (graph : ChunkGraph) (id : CollectionId) (collection : ChunkCollection) : Prop where
  hash : (graph.collectionHash id).1 = .ok (graph.upToDate collection).hash
  actives : (graph.collectionActives id).1 = .ok (graph.upToDate collection).actives
  generate : (graph.collectionGenerate id).1 =
    graph.generateAll (graph.upToDate collection).hash (graph.upToDate collection).actives

theorem Sound.answers (sound : graph.Sound) {id : CollectionId} {collection : ChunkCollection}
    (found : graph.collection? id = some collection) : graph.Answers id collection where
  hash := by rw [sound.collectionHash_eq found]
  actives := by rw [sound.collectionActives_eq found]
  generate := by rw [sound.collectionGenerate_eq found]

/-- The three answers of a collection. -/
def answers (graph : ChunkGraph) (id : CollectionId) :
    Except AssemblyError String × Except AssemblyError (List ChunkId) × Except AssemblyError SlotBuffer :=
  ((graph.collectionHash id).1, (graph.collectionActives id).1, (graph.collectionGenerate id).1)

/-- Sound graphs that agree on all but bookkeeping give the same answers. -/
theorem Sound.answers_of_bare (sound : first.Sound) (sound' : second.Sound) (same : first.bare = second.bare)
    (id : CollectionId) : first.answers id = second.answers id := by
  have collections := roots_of_bare same id
  cases found : first.collection? id with
  | none =>
    have gone : second.collection? id = none := by simpa [found] using collections.symm
    simp only [ChunkGraph.answers, collectionHash, collectionActives, collectionGenerate, refreshed_of_gone found,
      refreshed_of_gone gone]
    rfl
  | some collection =>
    rw [found, Option.map_some] at collections
    obtain ⟨collection', found', roots⟩ := Option.map_eq_some_iff.1 collections.symm
    have upToDate : first.upToDate collection = second.upToDate collection' := by
      rw [← sound'.upToDate_of_bare same found']
      simp only [ChunkGraph.upToDate, roots]
    obtain ⟨hash, actives, generate⟩ := sound.answers found
    obtain ⟨hash', actives', generate'⟩ := sound'.answers found'
    simp only [ChunkGraph.answers, hash, actives, generate, hash', actives', generate', upToDate,
      generateAll_of_bare same]

/-- Along every run, what is not marked is right, answers are those of a rebuild, and leaving out all questions, or
asking others, changes no answer. -/
theorem run_lazy (ops : List GraphOp) :
    (∀ id collection, (run ops).collection? id = some collection →
      (run ops).Fresh collection ∧ (run ops).Answers id collection) ∧
      ∀ others, GraphOp.edits others = GraphOp.edits ops → ∀ id, (run ops).answers id = (run others).answers id := by
  have sound := Sound.run ops
  refine ⟨fun id collection found => ⟨sound.fresh id collection found, sound.answers found⟩, ?_⟩
  intro others same id
  refine sound.answers_of_bare (Sound.run others) ?_ id
  rw [bare_run_edits ops, bare_run_edits others, same]

end ChunkGraph

end ShaderWeave
