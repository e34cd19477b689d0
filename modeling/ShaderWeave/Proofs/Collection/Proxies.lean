import ShaderWeave.Proofs.Collection.Listing
import ShaderWeave.Proofs.Collection.Pending

/-! # Marks behind proxies

Whether values wait is asked of the chunk at the end of a chain of proxies, and a setup goes there as well. A mark stays
with the chunk that it is set on: its own values have changed, and they wait until it behaves itself again. A chunk that
takes no part in setup keeps the mark that it was inserted with.
-/

namespace ShaderWeave.ChunkGraph

variable {graph before after : ChunkGraph} {id target : ChunkId}

/-! ## Ends of chains -/

theorem Resolves.unique {other : ChunkId} (resolves : graph.Resolves id target) (resolves' : graph.Resolves id other) :
    target = other := by
  induction resolves with
  | behaving found ends =>
    cases resolves' with
    | behaving => rfl
    | proxied found' leads =>
      cases found.symm.trans found'
      cases ends.symm.trans leads
  | proxied found leads _ ih =>
    cases resolves' with
    | behaving found' ends =>
      cases found.symm.trans found'
      cases ends.symm.trans leads
    | proxied found' leads' rest =>
      cases found.symm.trans found'
      cases leads.symm.trans leads'
      exact ih rest

/-- A chunk behaves itself exactly if it has no proxy. -/
theorem Resolves.proxy_eq_none_iff (resolves : graph.Resolves id target) : graph.proxy id = none ↔ target = id := by
  constructor
  · intro none
    cases resolves with
    | behaving => rfl
    | proxied found leads => simp [proxy, found, leads] at none
  · rintro rfl
    obtain ⟨node, found, ends⟩ := resolves.behaves
    simp [proxy, found, ends]

/-- Chains are made of shapes. -/
theorem Resolves.of_shape (resolves : before.Resolves id target) (same : ∀ id, after.shape? id = before.shape? id) :
    after.Resolves id target := by
  have shaped {id : ChunkId} {node : ChunkNode} (found : before.node? id = some node) :
      ∃ node', after.node? id = some node' ∧ node'.proxy = node.proxy := by
    have shape := (same id).trans (shape?_eq_some_iff.2 ⟨node, found, rfl, rfl⟩)
    obtain ⟨node', found', -, proxy⟩ := shape?_eq_some_iff.1 shape
    exact ⟨node', found', proxy⟩
  induction resolves with
  | behaving found ends =>
    obtain ⟨node', found', proxy⟩ := shaped found
    exact .behaving found' (proxy.trans ends)
  | proxied found leads _ ih =>
    obtain ⟨node', found', proxy⟩ := shaped found
    exact .proxied found' (proxy.trans leads) ih

theorem WellFormed.resolve_of_resolves (wellFormed : graph.WellFormed) (resolves : graph.Resolves id target) :
    graph.resolve id = .ok target := by
  have live : (graph.node? id).isSome := by cases resolves <;> simp [*]
  obtain ⟨other, resolved, resolves'⟩ := wellFormed.resolve_eq_ok live
  rw [resolved, resolves'.unique resolves]

theorem resolve_of_behaving {node : ChunkNode} (found : graph.node? id = some node) (ends : node.proxy = none) :
    graph.resolve id = .ok id := by
  simp [resolve, follow, found, ends]

/-! ## Whose mark is read -/

/-- The answer is the mark of the chunk at the end of the chain. -/
theorem isPending_of_resolve (resolved : graph.resolve id = .ok target) {setup pending : Bool}
    (stands : graph.waiting? target = some (setup, pending)) : graph.isPending id = .ok pending := by
  obtain ⟨node, found, waits⟩ := Option.map_eq_some_iff.1 stands
  have behaving : graph.behaving id = .ok node := by
    rw [ChunkGraph.behaving, resolved]
    simp [bind, Except.bind, ChunkGraph.node, found]
  rw [isPending, behaving, ← (Prod.mk.inj waits).2]
  rfl

theorem bare_markPending (graph : ChunkGraph) (id : ChunkId) : (graph.markPending id).bare = graph.bare :=
  bare_modifyNode_of_same id fun _ => rfl

/-- A mark is read where it is set, and wherever a chain of proxies ends there. -/
theorem WellFormed.isPending_markPending (wellFormed : graph.WellFormed) (resolves : graph.Resolves id target)
    {setup pending : Bool} (stands : graph.waiting? target = some (setup, pending)) (marked : ChunkId) :
    (graph.markPending marked).isPending id = .ok (marked == target || pending) := by
  have shape := shape?_of_bare (graph.bare_markPending marked)
  have resolved := (wellFormed.of_shape shape).resolve_of_resolves (resolves.of_shape shape)
  have stands' : (graph.markPending marked).waiting? target = some (setup, marked == target || pending) := by
    rw [waiting?_markPending, stands]
    by_cases here : target = marked
    · simp [here]
    · have apart : marked ≠ target := Ne.symm here
      simp [here, apart]
  exact isPending_of_resolve resolved stands'

/-- A setup goes to the end of the chain. -/
theorem WellFormed.setup_eq (wellFormed : graph.WellFormed) (resolves : graph.Resolves id target)
    (declares : String → Bool) :
    graph.setup id declares = (.ok (graph.uploadsOf target declares).1, (graph.uploadsOf target declares).2) := by
  rw [setup, wellFormed.resolve_of_resolves resolves]

/-- A setup takes the mark away if the chunk at the end of the chain takes part. -/
theorem WellFormed.isPending_setup (wellFormed : graph.WellFormed) (resolves : graph.Resolves id target)
    {setup pending : Bool} (stands : graph.waiting? target = some (setup, pending)) (declares : String → Bool) :
    (graph.setup id declares).2.isPending id = .ok (!setup && pending) := by
  have shape := shape?_of_bare (graph.bare_setup id declares)
  have resolved := (wellFormed.of_shape shape).resolve_of_resolves (resolves.of_shape shape)
  have stands' : (graph.setup id declares).2.waiting? target = some (setup, !setup && pending) := by
    rw [wellFormed.setup_eq resolves, waiting?_uploadsOf, if_pos rfl, stands]
    rfl
  exact isPending_of_resolve resolved stands'

/-- A chunk without its proxy is asked for its own mark. -/
theorem isPending_setProxy_none {setup pending : Bool} (stands : graph.waiting? id = some (setup, pending)) :
    (graph.setProxy id none).2.isPending id = .ok pending := by
  obtain ⟨node, found, waits⟩ := Option.map_eq_some_iff.1 stands
  rw [setProxy, found]
  dsimp only
  split
  · next ends => exact isPending_of_resolve (resolve_of_behaving found ends) stands
  · have cleared : ((graph.modifyNode id fun node => { node with proxy := none }).invalidateList id).node? id =
        some { node with proxy := none } := by
      rw [node?_invalidateList, node?_modifyNode, if_pos rfl, found]
      rfl
    have stands' : ((graph.modifyNode id fun node => { node with proxy := none }).invalidateList id).waiting? id =
        some (setup, pending) := by
      rw [waiting?, cleared, ← waits]
      rfl
    exact isPending_of_resolve (resolve_of_behaving cleared rfl) stands'

/-! ## Marks along runs -/

/-- Along every run, a live chunk has a chain of proxies that ends at a live chunk, itself if it has none, and asking whether
its values wait gives the mark of that end. A mark is set on the chunk that is named, so the answer is yes after a mark at
the end and the same as before after a mark at any other chunk; a mark at the start is read once the proxy is cleared. A
setup succeeds, and then the answer is no if the end takes part in setup, and the same as before if it does not. -/
theorem marks_behind_proxies (events : List GraphEvent) (id : ChunkId) (live : ((history events).node? id).isSome) :
    let graph := history events
    ∃ target node pending, graph.Resolves id target ∧ graph.node? target = some node ∧ node.proxy = none ∧
      (graph.proxy id = none ↔ target = id) ∧ graph.isPending id = .ok pending ∧
      (graph.markPending target).isPending id = .ok true ∧
      (∀ other, other ≠ target → (graph.markPending other).isPending id = .ok pending) ∧
      ((graph.markPending id).setProxy id none).2.isPending id = .ok true ∧
      ∀ declares, ∃ calls, (graph.setup id declares).1 = .ok calls ∧
        (graph.setup id declares).2.isPending id = .ok (if node.caps.setup then false else pending) := by
  intro graph
  have wellFormed : graph.WellFormed := (Tidy.history events).wellFormed
  obtain ⟨target, resolved, resolves⟩ := wellFormed.resolve_eq_ok live
  obtain ⟨node, found, ends⟩ := resolves.behaves
  have stands : graph.waiting? target = some (node.caps.setup, node.pending) := by rw [waiting?, found]; rfl
  refine ⟨target, node, node.pending, resolves, found, ends, resolves.proxy_eq_none_iff,
    isPending_of_resolve resolved stands, ?_, fun other apart => ?_, ?_, fun declares => ?_⟩
  · rw [wellFormed.isPending_markPending resolves stands, beq_self_eq_true, Bool.true_or]
  · rw [wellFormed.isPending_markPending resolves stands, beq_eq_false_iff_ne.2 apart, Bool.false_or]
  · obtain ⟨own, found'⟩ := Option.isSome_iff_exists.1 live
    have marked : (graph.markPending id).waiting? id = some (own.caps.setup, true) := by
      rw [waiting?_markPending, if_pos rfl, waiting?, found']
      rfl
    exact isPending_setProxy_none marked
  · refine ⟨_, by rw [wellFormed.setup_eq resolves], ?_⟩
    rw [wellFormed.isPending_setup resolves stands]
    cases node.caps.setup <;> rfl

/-- A chunk with a value to upload, a proxy of it and a proxy of that one, after a setup through both. -/
def chained : List GraphEvent :=
  [.op (.insert ({ caps := ⟨false, true⟩, uniforms := [⟨"uA", .floats 1 [.one]⟩] } : FragmentChunk).toChunk),
    .op (.createProxy ⟨1, 1⟩), .op (.createProxy ⟨2, 1⟩), .op (.setup ⟨3, 1⟩ fun _ => true)]

/-- A mark at the chunk is read through both proxies, and a setup through both takes it away. -/
theorem marks_behind_chain :
    ((history chained).node? ⟨3, 1⟩).isSome ∧ (history chained).isPending ⟨3, 1⟩ = .ok false ∧
      ((history chained).markPending ⟨1, 1⟩).isPending ⟨3, 1⟩ = .ok true ∧
      ((history chained).setup ⟨3, 1⟩ fun _ => true).2.isPending ⟨3, 1⟩ = .ok false := by
  have live : ((history chained).node? ⟨3, 1⟩).isSome := by rfl
  have settled : (history chained).isPending ⟨3, 1⟩ = .ok false := by rfl
  have ending : (history chained).resolve ⟨3, 1⟩ = .ok ⟨1, 1⟩ := by rfl
  obtain ⟨target, node, pending, resolves, -, -, -, answer, marked, -, -, setup⟩ := marks_behind_proxies chained ⟨3, 1⟩ live
  have wellFormed : (history chained).WellFormed := (Tidy.history chained).wellFormed
  obtain rfl : target = ⟨1, 1⟩ := Except.ok.inj ((wellFormed.resolve_of_resolves resolves).symm.trans ending)
  obtain rfl : pending = false := Except.ok.inj (answer.symm.trans settled)
  obtain ⟨-, -, cleared⟩ := setup fun _ => true
  exact ⟨live, settled, marked, by rw [cleared, ite_self]⟩

/-- After a setup of the chunk through its proxies, a mark at the last proxy is not read there. And a group, which takes no
part in setup, waits after its setup as it did before. -/
theorem marks_not_read_back :
    ((history chained).node? ⟨3, 1⟩).isSome ∧
      ((history chained).markPending ⟨3, 1⟩).isPending ⟨3, 1⟩ = .ok false ∧
      ((history [.op (.insert .group)]).node? ⟨1, 1⟩).isSome ∧
      ((history [.op (.insert .group)]).setup ⟨1, 1⟩ fun _ => true).1 = .ok [] ∧
      ((history [.op (.insert .group)]).setup ⟨1, 1⟩ fun _ => true).2.isPending ⟨1, 1⟩ = .ok true :=
  ⟨rfl, rfl, rfl, rfl, rfl⟩

end ShaderWeave.ChunkGraph
