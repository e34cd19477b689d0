import ShaderWeave.Proofs.Collection.Listing

/-! # Refused edits

An edit that adds an edge is refused exactly if the graph with this edge has a cycle. The search for a way back runs in
the graph before the edit, which may have an edge that is to be replaced: a path that takes this edge was at its goal
before. What fails leaves the graph as it was.
-/

namespace ShaderWeave.ChunkGraph

open Relation

variable {graph before after : ChunkGraph}

/-- The graph with one more child of `parent`. -/
def withChild (graph : ChunkGraph) (parent child : ChunkId) : ChunkGraph :=
  graph.modifyNode parent fun node => { node with children := node.children ++ [child] }

/-- The graph in which `target` behaves in the place of `chunk`, whatever did before. -/
def withProxy (graph : ChunkGraph) (chunk target : ChunkId) : ChunkGraph :=
  graph.modifyNode chunk fun node => { node with proxy := some target }

/-! ## Cycles -/

theorem edge_modifyNode {id : ChunkId} {node : ChunkNode} (found : graph.node? id = some node)
    (change : ChunkNode → ChunkNode) (source target : ChunkId) :
    (graph.modifyNode id change).Edge source target ↔
      if source = id then (change node).proxy = some target ∨ target ∈ (change node).children
      else graph.Edge source target := by
  rw [edge_iff_shape, shape?_modifyNode found]
  split
  · simp
  · rw [edge_iff_shape]

/-- A way to a chunk needs none of the edges that leave it: it ends where it is there for the first time. -/
private theorem reaches_of_kept {first source : ChunkId}
    (kept : ∀ a b, a ≠ source → before.Edge a b → after.Edge a b) (path : ReflTransGen before.Edge first source) :
    ReflTransGen after.Edge first source := by
  induction path using ReflTransGen.head_induction_on with
  | refl => exact .refl
  | @head here next edge _ ih =>
    by_cases arrived : here = source
    · rw [arrived]
    · exact .head (kept here next arrived edge) ih

/-- An edge closes a cycle exactly if there was a way back before, whatever else its source loses for it. -/
theorem Acyclic.iff_of_edge (acyclic : before.Acyclic) {source target : ChunkId}
    (edges : ∀ a b, after.Edge a b → before.Edge a b ∨ a = source ∧ b = target) (new : after.Edge source target)
    (kept : ∀ a b, a ≠ source → before.Edge a b → after.Edge a b) :
    after.Acyclic ↔ before.reaches target source = false := by
  rw [reaches_eq_false_iff]
  refine ⟨fun acyclic' back => ?_, acyclic.of_edge source target edges⟩
  exact acyclic' source (.head' new (reaches_of_kept kept back))

/-- A change of one chunk that gives it one new edge, and may take others from it. -/
theorem Acyclic.modifyNode_iff (acyclic : graph.Acyclic) {source target : ChunkId} {node : ChunkNode}
    (found : graph.node? source = some node) {change : ChunkNode → ChunkNode}
    (links : ∀ next, (change node).proxy = some next ∨ next ∈ (change node).children →
      (node.proxy = some next ∨ next ∈ node.children) ∨ next = target)
    (new : (change node).proxy = some target ∨ target ∈ (change node).children) :
    (graph.modifyNode source change).Acyclic ↔ graph.reaches target source = false := by
  have edges := edge_modifyNode found change
  refine acyclic.iff_of_edge (fun a b edge => ?_) ((edges source target).2 (by simpa using new)) fun a b other edge => ?_
  · rw [edges] at edge
    split at edge
    · next here =>
      rcases links b edge with old | added
      · exact .inl (edge_iff.2 ⟨node, here ▸ found, old⟩)
      · exact .inr ⟨here, added⟩
    · exact .inl edge
  · rw [edges, if_neg other]
    exact edge

theorem Acyclic.withChild_iff (acyclic : graph.Acyclic) {parent : ChunkId} (live : (graph.node? parent).isSome)
    (child : ChunkId) : (graph.withChild parent child).Acyclic ↔ graph.reaches child parent = false := by
  obtain ⟨node, found⟩ := Option.isSome_iff_exists.1 live
  refine acyclic.modifyNode_iff found ?_ (.inr (by simp))
  rintro next (proxied | member)
  · exact .inl (.inl proxied)
  · rcases List.mem_append.1 member with old | new
    · exact .inl (.inr old)
    · exact .inr (List.mem_singleton.1 new)

theorem Acyclic.withProxy_iff (acyclic : graph.Acyclic) {chunk : ChunkId} (live : (graph.node? chunk).isSome)
    (target : ChunkId) : (graph.withProxy chunk target).Acyclic ↔ graph.reaches target chunk = false := by
  obtain ⟨node, found⟩ := Option.isSome_iff_exists.1 live
  refine acyclic.modifyNode_iff found ?_ (.inl rfl)
  rintro next (proxied | member)
  · exact .inr (Option.some.inj proxied).symm
  · exact .inl (.inr member)

/-! ## Answers -/

theorem edge_of_mem_children {parent child : ChunkId} (member : child ∈ graph.children parent) :
    graph.Edge parent child := by
  cases found : graph.node? parent with
  | none => simp [children, found] at member
  | some node => exact edge_iff.2 ⟨node, found, .inr (by simpa [children, found] using member)⟩

/-- A child is added, is there already, or would close a cycle, if both chunks are live. -/
theorem WellFormed.addChild_verdict (wellFormed : graph.WellFormed) (parent child : ChunkId) :
    ((graph.addChild parent child).1 = .ok () ↔ (graph.node? parent).isSome ∧ (graph.node? child).isSome ∧
      child ∉ graph.children parent ∧ (graph.withChild parent child).Acyclic) ∧
    ((graph.addChild parent child).1 = .error (.cyclicDependency .addChild) ↔ (graph.node? parent).isSome ∧
      (graph.node? child).isSome ∧ ¬ (graph.withChild parent child).Acyclic) ∧
    ((graph.addChild parent child).1 = .error (.duplicateChild parent child) ↔ child ∈ graph.children parent) := by
  have closed : child ∈ graph.children parent → (graph.node? child).isSome := fun member =>
    wellFormed.closed parent child (edge_of_mem_children member)
  have apart : child ∈ graph.children parent → graph.reaches child parent = false := fun member =>
    (reaches_eq_false_iff child parent).2 fun back =>
      wellFormed.acyclic parent (.head' (edge_of_mem_children member) back)
  cases found : graph.node? parent with
  | none =>
    have none : graph.children parent = [] := by simp [children, found]
    cases found' : graph.node? child <;> simp [ChunkGraph.addChild, found, found', none]
  | some node =>
    rw [wellFormed.acyclic.withChild_iff (by simp [found])]
    have here : graph.children parent = node.children := by simp [children, found]
    rw [here] at closed apart ⊢
    cases found' : graph.node? child with
    | none =>
      have new : child ∉ node.children := fun member => by simpa [found'] using closed member
      simp [ChunkGraph.addChild, found', new]
    | some node' =>
      by_cases member : child ∈ node.children
      · simp [ChunkGraph.addChild, found, found', member, apart member]
      · cases back : graph.reaches child parent <;> simp [ChunkGraph.addChild, found, found', member, back]

/-- A new proxy is refused exactly if it closes a cycle, if both chunks are live. -/
theorem WellFormed.setProxy_verdict (wellFormed : graph.WellFormed) {chunk target : ChunkId}
    (live : (graph.node? chunk).isSome) (live' : (graph.node? target).isSome)
    (other : graph.proxy chunk ≠ some target) :
    ((graph.setProxy chunk (some target)).1 = .ok () ↔ (graph.withProxy chunk target).Acyclic) ∧
    ((graph.setProxy chunk (some target)).1 = .error (.cyclicDependency .setProxy) ↔
      ¬ (graph.withProxy chunk target).Acyclic) := by
  rw [wellFormed.acyclic.withProxy_iff live]
  obtain ⟨node, found⟩ := Option.isSome_iff_exists.1 live
  have new : node.proxy ≠ some target := by simpa [proxy, found] using other
  have contained : graph.contains target = true := live'
  cases back : graph.reaches target chunk <;> simp [ChunkGraph.setProxy, found, new, contained, back]

/-! ## Failures -/

/-- A failure changes nothing. -/
def Atomic {α : Type} (graph : ChunkGraph) (outcome : Outcome ChunkGraph α) : Prop :=
  ∀ cause, outcome.1 = .error cause → outcome.2 = graph

theorem atomic_ok {α : Type} (answer : α) : graph.Atomic (.ok answer, after) := nofun

theorem atomic_error {α : Type} (cause : AssemblyError) : graph.Atomic ((.error cause, graph) : Outcome ChunkGraph α) :=
  fun _ _ => rfl

theorem atomic_addChild (parent child : ChunkId) : graph.Atomic (graph.addChild parent child) := by
  unfold addChild
  split
  · exact atomic_error _
  · exact atomic_error _
  · split
    · exact atomic_error _
    · split
      · exact atomic_error _
      · exact atomic_ok _

theorem atomic_removeChild (parent child : ChunkId) : graph.Atomic (graph.removeChild parent child) := by
  unfold removeChild
  split
  · exact atomic_error _
  · exact atomic_ok _

theorem atomic_setProxy (chunk : ChunkId) (target : Option ChunkId) : graph.Atomic (graph.setProxy chunk target) := by
  unfold setProxy
  split
  · exact atomic_error _
  · split
    · exact atomic_ok _
    · cases target with
      | none => exact atomic_ok _
      | some goal =>
        dsimp only
        split
        · exact atomic_error _
        · split
          · exact atomic_error _
          · exact atomic_ok _

theorem atomic_createProxy (target : ChunkId) : graph.Atomic (graph.createProxy target) := by
  unfold createProxy
  split
  · exact atomic_error _
  · exact atomic_ok _

theorem atomic_addRoot (id : CollectionId) (root : ChunkId) : graph.Atomic (graph.addRoot id root) := by
  unfold addRoot
  split
  · exact atomic_error _
  · exact atomic_error _
  · split
    · exact atomic_ok _
    · exact atomic_ok _

theorem atomic_removeRoot (id : CollectionId) (root : ChunkId) : graph.Atomic (graph.removeRoot id root) := by
  unfold removeRoot
  split
  · exact atomic_error _
  · split
    · exact atomic_ok _
    · exact atomic_ok _

/-- Along every run, a child or a proxy is refused exactly if the graph with the new edge has a cycle, or the child is
there already, and an edit that fails changes nothing. -/
theorem edits_refused (events : List GraphEvent) :
    let graph := history events
    (∀ parent child,
      ((graph.addChild parent child).1 = .ok () ↔ (graph.node? parent).isSome ∧ (graph.node? child).isSome ∧
        child ∉ graph.children parent ∧ (graph.withChild parent child).Acyclic) ∧
      ((graph.addChild parent child).1 = .error (.cyclicDependency .addChild) ↔ (graph.node? parent).isSome ∧
        (graph.node? child).isSome ∧ ¬ (graph.withChild parent child).Acyclic) ∧
      ((graph.addChild parent child).1 = .error (.duplicateChild parent child) ↔ child ∈ graph.children parent)) ∧
    (∀ chunk target, (graph.node? chunk).isSome → (graph.node? target).isSome → graph.proxy chunk ≠ some target →
      ((graph.setProxy chunk (some target)).1 = .ok () ↔ (graph.withProxy chunk target).Acyclic) ∧
      ((graph.setProxy chunk (some target)).1 = .error (.cyclicDependency .setProxy) ↔
        ¬ (graph.withProxy chunk target).Acyclic)) ∧
    (∀ parent child, graph.Atomic (graph.addChild parent child)) ∧
    (∀ chunk target, graph.Atomic (graph.setProxy chunk target)) ∧
    (∀ target, graph.Atomic (graph.createProxy target)) ∧
    (∀ parent child, graph.Atomic (graph.removeChild parent child)) ∧
    (∀ id root, graph.Atomic (graph.addRoot id root)) ∧
    (∀ id root, graph.Atomic (graph.removeRoot id root)) := by
  intro graph
  have wellFormed : graph.WellFormed := (Tidy.history events).wellFormed
  exact ⟨wellFormed.addChild_verdict, fun chunk target live live' other => wellFormed.setProxy_verdict live live' other,
    atomic_addChild, atomic_setProxy, atomic_createProxy, atomic_removeChild, atomic_addRoot, atomic_removeRoot⟩

end ShaderWeave.ChunkGraph
