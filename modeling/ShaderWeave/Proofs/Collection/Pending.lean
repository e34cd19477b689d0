import Mathlib.Data.List.Induction
import ShaderWeave.Chunk.Fragments
import ShaderWeave.Proofs.Collection.Persistence

/-! # Values that wait for their upload

A chunk has one mark for values that wait, in however many collections it is active. Inserting or marking the chunk
sets it, and a setup of any collection in which the chunk is active takes it away. So a collection without waiting values
knows that each of its chunks was set up, but not with which collection.
-/

namespace ShaderWeave

/-- Uploads of one chunk alone. -/
def GraphOp.isDirectSetup : GraphOp → Bool
  | .setup _ _ => true
  | _ => false

namespace ChunkGraph

variable {graph before after : ChunkGraph} {id other : ChunkId}

/-- Whether a live chunk takes part in setup, and whether it has values that wait. -/
def waiting? (graph : ChunkGraph) (id : ChunkId) : Option (Bool × Bool) :=
  (graph.node? id).map fun node => (node.caps.setup, node.pending)

/-- The chunks that are active in a collection at this moment, which are none if it is gone. -/
def activesOf (graph : ChunkGraph) (id : CollectionId) : List ChunkId :=
  ((graph.collection? id).map fun collection => (graph.flattenAll collection.roots).actives).getD []

theorem activesOf_of_found {id : CollectionId} {collection : ChunkCollection}
    (found : graph.collection? id = some collection) :
    graph.activesOf id = (graph.flattenAll collection.roots).actives := by
  simp [activesOf, found]

theorem activesOf_of_gone {id : CollectionId} (gone : graph.collection? id = none) : graph.activesOf id = [] := by
  simp [activesOf, gone]

theorem live_of_mem_activesOf {collection : CollectionId} (active : id ∈ graph.activesOf collection) :
    (graph.node? id).isSome := by
  cases found : graph.collection? collection with
  | none => simp [activesOf_of_gone found] at active
  | some content =>
    rw [activesOf_of_found found] at active
    exact live_of_mem_flattenAll (actives_subset_flattenAll active)

/-! ## Edits -/

theorem waiting?_of_node? (same : after.node? id = before.node? id) : after.waiting? id = before.waiting? id := by
  rw [waiting?, waiting?, same]

theorem waiting?_map (change : ChunkNode → ChunkNode)
    (kept : ∀ node, (change node).caps = node.caps ∧ (change node).pending = node.pending)
    (changed : after.node? id = (before.node? id).map change) : after.waiting? id = before.waiting? id := by
  rw [waiting?, waiting?, changed, Option.map_map]
  congr 1
  funext node
  simp [kept node]

theorem waiting?_modifyNode (graph : ChunkGraph) (id other : ChunkId) {change : ChunkNode → ChunkNode}
    (kept : ∀ node, (change node).caps = node.caps ∧ (change node).pending = node.pending) :
    (graph.modifyNode id change).waiting? other = graph.waiting? other := by
  by_cases here : other = id
  · exact waiting?_map change kept (by rw [node?_modifyNode, if_pos here])
  · exact waiting?_of_node? (by rw [node?_modifyNode, if_neg here])

theorem waiting?_insert (graph : ChunkGraph) (chunk : Chunk) (id : ChunkId) :
    (graph.insert chunk).2.waiting? id =
      if id = (graph.insert chunk).1 then some (chunk.caps.setup, true) else graph.waiting? id := by
  rw [waiting?, node?_insert]
  split <;> rfl

theorem waiting?_remove {rest : ChunkGraph} {chunk : Chunk} (removed : graph.remove id = some (chunk, rest))
    (other : ChunkId) : rest.waiting? other = if other = id then none else graph.waiting? other := by
  obtain ⟨-, -, -, -, nodes, -⟩ := remove_cases removed
  split
  · next here => rw [waiting?, nodes, if_pos here, Option.map_none]
  · next apart =>
    exact waiting?_map (·.detach id) (fun _ => ⟨rfl, rfl⟩) (by rw [nodes, if_neg apart])

theorem waiting?_removeCollection {rest : ChunkGraph} {id : CollectionId} {collection : ChunkCollection}
    (removed : graph.removeCollection id = some (collection, rest)) (chunk : ChunkId) :
    rest.waiting? chunk = graph.waiting? chunk := by
  obtain ⟨-, -, nodes⟩ := removeCollection_cases removed
  refine waiting?_map _ (fun node => ?_) (nodes chunk)
  split <;> exact ⟨rfl, rfl⟩

theorem waiting?_markPending (graph : ChunkGraph) (id other : ChunkId) :
    (graph.markPending id).waiting? other =
      if other = id then (graph.waiting? other).map fun (setup, _) => (setup, true) else graph.waiting? other := by
  simp only [waiting?, markPending, node?_modifyNode]
  split
  · rw [Option.map_map, Option.map_map]
    rfl
  · rfl

/-- Flattening subscribes chunks, and does nothing else to them. -/
theorem waiting?_refresh (graph : ChunkGraph) (id : CollectionId) (chunk : ChunkId) :
    (graph.refresh id).2.waiting? chunk = graph.waiting? chunk := by
  have rebuilt : ∀ collection, (graph.rebuild id collection).waiting? chunk = graph.waiting? chunk := by
    intro collection
    refine waiting?_map _ (fun node => ?_) (graph.node?_rebuild id collection chunk)
    split
    · unfold ChunkNode.subscribe
      split <;> exact ⟨rfl, rfl⟩
    · split <;> exact ⟨rfl, rfl⟩
  exact graph.refresh_keeps (fun after => after.waiting? chunk = graph.waiting? chunk) id rfl
    (fun collection _ => rebuilt collection) fun _ _ same => same

/-! ## Setup -/

/-- After a setup, a chunk that takes part has nothing that waits. -/
def settle : Bool × Bool → Bool × Bool
  | (setup, pending) => (setup, !setup && pending)

theorem settle_settle (waits : Bool × Bool) : settle (settle waits) = settle waits := by
  rcases waits with ⟨_ | _, _ | _⟩ <;> rfl

theorem waiting?_uploadsOf (graph : ChunkGraph) (id other : ChunkId) (declares : String → Bool) :
    (graph.uploadsOf id declares).2.waiting? other =
      if other = id then (graph.waiting? other).map settle else graph.waiting? other := by
  by_cases here : other = id
  · subst here
    rw [if_pos rfl, uploadsOf]
    cases found : graph.node? other with
    | none => simp [waiting?, found]
    | some node => by_cases setup : node.caps.setup <;> simp [waiting?, found, setup, settle]
  · rw [if_neg here, uploadsOf]
    split
    · rfl
    · split
      · exact waiting?_of_node? (by rw [node?_modifyNode, if_neg here])
      · rfl

theorem waiting?_uploadsOfAll (graph : ChunkGraph) (declares : String → Bool) (actives : List ChunkId) :
    (graph.uploadsOfAll declares actives).2.waiting? id =
      if id ∈ actives then (graph.waiting? id).map settle else graph.waiting? id := by
  induction actives generalizing graph with
  | nil => rfl
  | cons first rest ih =>
    refine (ih (graph.uploadsOf first declares).2).trans ?_
    rw [waiting?_uploadsOf]
    by_cases here : id = first
    · subst here
      have twice : settle ∘ settle = settle := funext settle_settle
      simp [Option.map_map, twice]
    · simp [here]

/-- A setup of a collection settles the chunks that are active in it. -/
theorem Sound.waiting?_collectionSetup (sound : graph.Sound) (collection : CollectionId) (declares : String → Bool) :
    (graph.collectionSetup collection declares).2.waiting? id =
      if id ∈ graph.activesOf collection then (graph.waiting? id).map settle else graph.waiting? id := by
  cases found : graph.collection? collection with
  | none => simp [collectionSetup, refreshed_of_gone found, activesOf_of_gone found]
  | some content =>
    simp only [collectionSetup, sound.refreshed_eq found, activesOf_of_found found, waiting?_uploadsOfAll,
      waiting?_refresh]
    rfl

/-- A collection answers whether a chunk that is active in it takes part in setup and waits. -/
theorem Sound.collectionIsPending_eq (sound : graph.Sound) {collection : CollectionId} {content : ChunkCollection}
    (found : graph.collection? collection = some content) :
    (graph.collectionIsPending collection).1 =
      .ok ((graph.activesOf collection).any fun id => graph.waiting? id == some (true, true)) := by
  have waits (actives : List ChunkId) : ((graph.refresh collection).2.nodesOf actives).any
      (fun node => node.caps.setup && node.pending) = actives.any fun id => graph.waiting? id == some (true, true) := by
    induction actives with
    | nil => rfl
    | cons id rest ih =>
      have same := graph.waiting?_refresh collection id
      rw [List.any_cons, ← ih, ← same, waiting?, nodesOf, List.filterMap_cons]
      cases (graph.refresh collection).2.node? id with
      | none => rfl
      | some node => rcases setup : node.caps.setup <;> rcases pending : node.pending <;> simp [nodesOf, setup, pending]
  rw [collectionIsPending, sound.refreshed_eq found, activesOf_of_found found, ← waits]
  rfl

/-! ## Steps -/

/-- The chunks that an operation sets up, with a collection. -/
def settledBy (graph : ChunkGraph) : GraphOp → List ChunkId
  | .query id (.setup _) => graph.activesOf id
  | _ => []

/-- The chunk under a key waits as it did, or is gone, or is new and waits. -/
def Abides (id : ChunkId) (before after : ChunkGraph) : Prop :=
  ∀ waits, after.waiting? id = some waits → before.waiting? id = some waits ∨ before.node? id = none ∧ waits.2 = true

theorem abides_of_same (same : after.waiting? id = before.waiting? id) : Abides id before after := by
  intro waits stands
  exact .inl (same.symm.trans stands)

theorem Abides.of_same {middle : ChunkGraph} (abides : Abides id before middle)
    (same : after.waiting? id = middle.waiting? id) : Abides id before after := by
  intro waits stands
  exact abides waits (same.symm.trans stands)

theorem abides_insert (graph : ChunkGraph) (chunk : Chunk) : Abides id graph (graph.insert chunk).2 := by
  intro waits stands
  rw [waiting?_insert] at stands
  split at stands
  · next new =>
    cases stands
    exact .inr ⟨new ▸ graph.node?_insert_key chunk, rfl⟩
  · exact .inl stands

theorem abides_remove {rest : ChunkGraph} {chunk : Chunk} (removed : graph.remove other = some (chunk, rest)) :
    Abides id graph rest := by
  intro waits stands
  rw [waiting?_remove removed] at stands
  split at stands
  · cases stands
  · exact .inl stands

/-- What sets up and marks nothing leaves the chunks that it finds as they are. -/
theorem Effect.abides {op : GraphOp} (effect : graph.Effect op after) (indirect : op.isDirectSetup = false)
    (unmarked : op ≠ .markPending id) (unsettled : ∀ collection declares, op ≠ .query collection (.setup declares)) :
    Abides id graph after := by
  cases effect with
  | nothing => exact abides_of_same rfl
  | insert chunk => exact graph.abides_insert chunk
  | remove removed => exact abides_remove removed
  | relink other => exact abides_of_same (graph.waiting?_modifyNode other id fun _ => ⟨rfl, rfl⟩)
  | createProxy target =>
    exact (graph.abides_insert .group).of_same (waiting?_modifyNode _ _ id fun _ => ⟨rfl, rfl⟩)
  | createCollection => exact abides_of_same rfl
  | removeCollection removed => exact abides_of_same (waiting?_removeCollection removed id)
  | reroot => exact abides_of_same rfl
  | rewrite chunk state => exact abides_of_same (graph.waiting?_modifyNode chunk id fun _ => ⟨rfl, rfl⟩)
  | markPending chunk =>
    have apart : id ≠ chunk := by
      rintro rfl
      exact unmarked rfl
    exact abides_of_same (by rw [waiting?_markPending, if_neg apart])
  | setup chunk declares => cases indirect
  | query collection question =>
    have refreshed := graph.waiting?_refresh collection id
    have looked := (congrArg (waiting? · id) (snd_refreshed collection)).trans refreshed
    cases question with
    | setup declares => exact absurd rfl (unsettled collection declares)
    | refresh => exact abides_of_same refreshed
    | hash => exact abides_of_same looked
    | actives => exact abides_of_same looked
    | generate => exact abides_of_same looked
    | pending => exact abides_of_same looked

/-- A chunk that takes part in setup has nothing that waits after a step if the step sets it up, or if nothing waited
before and the step does not mark it. A chunk that is new waits. -/
theorem Sound.waiting?_step (sound : graph.Sound) {op : GraphOp} (indirect : op.isDirectSetup = false) {pending : Bool}
    (stands : (graph.step op).waiting? id = some (true, pending)) :
    (graph.node? id = none ∧ pending = true) ∨
      ∃ old, graph.waiting? id = some (true, old) ∧
        (pending = false ↔ id ∈ graph.settledBy op ∨ old = false ∧ op ≠ .markPending id) := by
  by_cases marked : op = .markPending id
  · subst marked
    rw [ChunkGraph.step, waiting?_markPending, if_pos rfl] at stands
    obtain ⟨⟨setup, old⟩, before, same⟩ := Option.map_eq_some_iff.1 stands
    cases same
    exact .inr ⟨old, before, by simp [settledBy]⟩
  · by_cases settled : ∃ collection declares, op = .query collection (.setup declares)
    · obtain ⟨collection, declares, rfl⟩ := settled
      rw [ChunkGraph.step, ChunkGraph.ask, sound.waiting?_collectionSetup] at stands
      split at stands
      · next active =>
        obtain ⟨⟨setup, old⟩, before, same⟩ := Option.map_eq_some_iff.1 stands
        cases same
        exact .inr ⟨old, before, by simp [settledBy, active]⟩
      · next inactive => exact .inr ⟨pending, stands, by simp [settledBy, inactive]⟩
    · have unsettled : ∀ collection declares, op ≠ .query collection (.setup declares) :=
        fun collection declares same => settled ⟨collection, declares, same⟩
      have none_settled : id ∉ graph.settledBy op := by
        unfold settledBy
        split
        · exact absurd rfl (unsettled _ _)
        · simp
      rcases (graph.effect_step op).abides indirect marked unsettled _ stands with same | ⟨new, waits⟩
      · exact .inr ⟨pending, same, by simp [none_settled, marked]⟩
      · exact .inl ⟨new, waits⟩

/-! ## Runs -/

theorem run_concat (ops : List GraphOp) (op : GraphOp) : run (ops ++ [op]) = (run ops).step op := by
  simp [run]

/-- The chunk was set up with the collection while it was active there, and was not marked since. As it was live then, it
had been inserted before; it cannot come again under the same key. -/
def SetUpBy (collection : CollectionId) (ops : List GraphOp) (id : ChunkId) : Prop :=
  ∃ before declares after, ops = before ++ .query collection (.setup declares) :: after ∧
    id ∈ (run before).activesOf collection ∧ .markPending id ∉ after

theorem setUpBy_concat {collection : CollectionId} {ops : List GraphOp} {op : GraphOp} :
    SetUpBy collection (ops ++ [op]) id ↔
      ((∃ declares, op = .query collection (.setup declares)) ∧ id ∈ (run ops).activesOf collection) ∨
        SetUpBy collection ops id ∧ op ≠ .markPending id := by
  constructor
  · rintro ⟨before, declares, after, split, active, unmarked⟩
    cases after using List.reverseRecOn with
    | nil =>
      obtain ⟨rfl, same⟩ := List.append_inj' split rfl
      cases same
      exact .inl ⟨⟨declares, rfl⟩, active⟩
    | append_singleton after last _ =>
      rw [← List.cons_append, ← List.append_assoc] at split
      obtain ⟨rfl, same⟩ := List.append_inj' split rfl
      cases same
      simp only [List.mem_append, List.mem_singleton, not_or] at unmarked
      exact .inr ⟨⟨before, declares, after, rfl, active, unmarked.1⟩, Ne.symm unmarked.2⟩
  · rintro (⟨⟨declares, rfl⟩, active⟩ | ⟨⟨before, declares, after, rfl, active, unmarked⟩, other⟩)
    · exact ⟨ops, declares, [], rfl, active, by simp⟩
    · exact ⟨before, declares, after ++ [op], by simp, active, by simpa [unmarked] using Ne.symm other⟩

theorem exists_setUpBy_concat {ops : List GraphOp} {op : GraphOp} :
    (∃ collection, SetUpBy collection (ops ++ [op]) id) ↔
      id ∈ (run ops).settledBy op ∨ (∃ collection, SetUpBy collection ops id) ∧ op ≠ .markPending id := by
  simp only [setUpBy_concat, exists_or, exists_and_right]
  refine or_congr_left ⟨?_, ?_⟩
  · rintro ⟨collection, ⟨declares, rfl⟩, active⟩
    exact active
  · intro settled
    unfold settledBy at settled
    split at settled
    · next collection declares => exact ⟨collection, ⟨declares, rfl⟩, settled⟩
    · cases settled

theorem persists_run (ops rest : List GraphOp) : Persists (run ops) (run (ops ++ rest)) := by
  induction rest using List.reverseRecOn with
  | nil => simpa using Persists.refl (run ops)
  | append_singleton rest op ih =>
    rw [← List.append_assoc, run_concat]
    exact ih.trans (persists_step _ op)

/-- The key of a chunk that was set up is one that was handed out. -/
theorem SetUpBy.issued {collection : CollectionId} {ops : List GraphOp} (settled : SetUpBy collection ops id) :
    (run ops).nodes.Issued id := by
  obtain ⟨before, declares, after, rfl, active, -⟩ := settled
  obtain ⟨node, found⟩ := Option.isSome_iff_exists.1 (live_of_mem_activesOf active)
  exact (persists_run before _).issued id (Arena.issued_of_get? found)

/-- Along every run without direct uploads, a chunk that takes part in setup has nothing that waits if and only if it was
set up with some collection since it was marked last. -/
theorem pending_iff_not_setUpBy {ops : List GraphOp} (indirect : ∀ op ∈ ops, op.isDirectSetup = false) {pending : Bool}
    (stands : (run ops).waiting? id = some (true, pending)) :
    pending = false ↔ ∃ collection, SetUpBy collection ops id := by
  induction ops using List.reverseRecOn generalizing pending with
  | nil => simp [run, waiting?] at stands
  | append_singleton ops op ih =>
    simp only [List.mem_append, List.mem_singleton, or_imp, forall_and, forall_eq] at indirect
    have persists := persists_step (run ops) op
    rw [run_concat] at stands
    rw [exists_setUpBy_concat]
    rcases (Sound.run ops).waiting?_step indirect.2 stands with ⟨new, rfl⟩ | ⟨old, before, changed⟩
    · -- A new chunk has a new key, so no earlier setup can have been of this chunk.
      have fresh : ¬ (run ops).nodes.Issued id := by
        intro issued
        obtain ⟨node, found, -⟩ := Option.map_eq_some_iff.1 stands
        obtain ⟨old, held, -⟩ := persists.caps id node issued found
        cases new.symm.trans held
      have unsettled : id ∉ (run ops).settledBy op := by
        intro settled
        unfold settledBy at settled
        split at settled
        · simpa [new] using live_of_mem_activesOf settled
        · cases settled
      have never : ¬ ∃ collection, SetUpBy collection ops id := fun ⟨_, settled⟩ => fresh settled.issued
      simp [unsettled, never]
    · rw [changed, ih indirect.1 before]

/-- Along every run without direct uploads, a live collection answers that nothing waits if and only if each of its active
chunks that takes part in setup was set up, with this collection or with another one, since it was marked last. -/
theorem isPending_eq_false_iff (ops : List GraphOp) (indirect : ∀ op ∈ ops, op.isDirectSetup = false)
    (collection : CollectionId) :
    ((run ops).collectionIsPending collection).1 = .ok false ↔
      ((run ops).collection? collection).isSome ∧
        ∀ chunk ∈ (run ops).activesOf collection, ∀ node, (run ops).node? chunk = some node → node.caps.setup = true →
          ∃ other, SetUpBy other ops chunk := by
  cases found : (run ops).collection? collection with
  | none => simp [collectionIsPending, refreshed_of_gone found, Except.map]
  | some content =>
    rw [(Sound.run ops).collectionIsPending_eq found]
    simp only [Except.ok.injEq, List.any_eq_false, beq_iff_eq, Option.isSome_some, true_and]
    refine forall₂_congr fun chunk active => ?_
    constructor
    · intro settled node live setup
      have stands : (run ops).waiting? chunk = some (true, node.pending) := by simp [waiting?, live, setup]
      refine (pending_iff_not_setUpBy indirect stands).1 ?_
      cases waits : node.pending with
      | false => rfl
      | true => exact absurd (waits ▸ stands) settled
    · intro settled stands
      obtain ⟨node, live, same⟩ := Option.map_eq_some_iff.1 stands
      obtain ⟨setup, waits⟩ := Prod.mk.inj same
      have done := (pending_iff_not_setUpBy indirect stands).2 (settled node live setup)
      cases done

/-! ## A chunk of two collections -/

/-- A chunk with one value to upload, two collections of it, and a setup of the first one. -/
def sharedUpload : List GraphOp := [
  .insert ({ caps := ⟨false, true⟩, uniforms := [⟨"uA", .floats 1 [.one]⟩] } : FragmentChunk).toChunk,
  .createCollection, .createCollection, .addRoot ⟨1, 1⟩ ⟨1, 1⟩, .addRoot ⟨2, 1⟩ ⟨1, 1⟩,
  .query ⟨1, 1⟩ (.setup fun _ => true)]

theorem direct_sharedUpload : ∀ op ∈ sharedUpload, op.isDirectSetup = false := by
  simp [sharedUpload, GraphOp.isDirectSetup]

theorem active_sharedUpload : ⟨1, 1⟩ ∈ (run sharedUpload).activesOf ⟨2, 1⟩ := by decide

theorem waiting?_sharedUpload : (run sharedUpload).waiting? ⟨1, 1⟩ = some (true, false) := by decide

/-- The setup of the first collection leaves nothing that waits in the second one, and so it was set up with some
collection. -/
theorem shared_chunk_was_set_up :
    (∀ op ∈ sharedUpload, op.isDirectSetup = false) ∧
      ((run sharedUpload).collectionIsPending ⟨2, 1⟩).1 = .ok false ∧ ∃ other, SetUpBy other sharedUpload ⟨1, 1⟩ := by
  have answer : ((run sharedUpload).collectionIsPending ⟨2, 1⟩).1 = .ok false := by rfl
  obtain ⟨-, settled⟩ := (isPending_eq_false_iff sharedUpload direct_sharedUpload ⟨2, 1⟩).1 answer
  obtain ⟨node, live, same⟩ := Option.map_eq_some_iff.1 waiting?_sharedUpload
  exact ⟨direct_sharedUpload, answer, settled _ active_sharedUpload node live (Prod.mk.inj same).1⟩

/-- Nothing waits in the second collection, but it was never set up. -/
theorem setup_hides_from_others :
    (∀ op ∈ sharedUpload, op.isDirectSetup = false) ∧
      ((run sharedUpload).collectionIsPending ⟨2, 1⟩).1 = .ok false ∧
      ⟨1, 1⟩ ∈ (run sharedUpload).activesOf ⟨2, 1⟩ ∧ (run sharedUpload).waiting? ⟨1, 1⟩ = some (true, false) ∧
      ¬ SetUpBy ⟨2, 1⟩ sharedUpload ⟨1, 1⟩ := by
  refine ⟨direct_sharedUpload, rfl, active_sharedUpload, waiting?_sharedUpload, ?_⟩
  rintro ⟨before, declares, after, split, -⟩
  have asked : .query ⟨2, 1⟩ (.setup declares) ∈ sharedUpload := by simp [split]
  simp [sharedUpload] at asked

end ChunkGraph

end ShaderWeave
