import Mathlib.Data.List.Nodup
import ShaderWeave.Proofs.Graph.Edits
import ShaderWeave.Proofs.Graph.Flattening

/-! # Well-formed graphs

A well-formed graph has no cycles, its edges lead to live chunks, and no chunk lists a child twice. Every edit keeps
it well-formed: those that add an edge search for a path back first, and a chunk that is removed takes all edges to
it along. In such a graph chains of proxies end.
-/

namespace ShaderWeave.ChunkGraph

open Relation

structure WellFormed (graph : ChunkGraph) : Prop where
  acyclic : graph.Acyclic
  closed : ∀ source target, graph.Edge source target → (graph.node? target).isSome
  nodup : ∀ id node, graph.node? id = some node → node.children.Nodup

variable {graph before after : ChunkGraph}

/-! ## Shapes -/

@[simp] theorem isSome_shape? (id : ChunkId) : (graph.shape? id).isSome = (graph.node? id).isSome :=
  Option.isSome_map

theorem edge_iff_shape {source target : ChunkId} :
    graph.Edge source target ↔
      ∃ children proxy, graph.shape? source = some (children, proxy) ∧ (proxy = some target ∨ target ∈ children) := by
  rw [edge_iff]
  constructor
  · rintro ⟨node, found, leads⟩
    exact ⟨_, _, shape?_eq_some_iff.2 ⟨node, found, rfl, rfl⟩, leads⟩
  · rintro ⟨children, proxy, shape, leads⟩
    obtain ⟨node, found, rfl, rfl⟩ := shape?_eq_some_iff.1 shape
    exact ⟨node, found, leads⟩

theorem shape?_of_nodes_eq {id : ChunkId} (same : after.node? id = before.node? id) :
    after.shape? id = before.shape? id := by
  rw [shape?, shape?, same]

theorem WellFormed.empty : empty.WellFormed where
  acyclic id cycle := by
    obtain ⟨next, edge, -⟩ := TransGen.head'_iff.1 cycle
    simpa using edge.live
  closed source target edge := by simpa using edge.live
  nodup id node found := by simp at found

/-- An edit that gives one chunk other edges and leaves all other chunks as they were. -/
private theorem WellFormed.reshape (wellFormed : before.WellFormed) {id : ChunkId} {children : List ChunkId}
    {proxy : Option ChunkId}
    (shape : ∀ other, after.shape? other = if other = id then some (children, proxy) else before.shape? other)
    (acyclic : after.Acyclic) (closed : ∀ target, proxy = some target ∨ target ∈ children →
      (after.node? target).isSome) (nodup : children.Nodup) : after.WellFormed where
  acyclic
  closed source target edge := by
    obtain ⟨children', proxy', found, leads⟩ := edge_iff_shape.1 edge
    rw [shape] at found
    split at found
    · cases found
      exact closed target leads
    · have live := wellFormed.closed source target (edge_iff_shape.2 ⟨_, _, found, leads⟩)
      rw [← isSome_shape?] at live ⊢
      rw [shape target]
      split <;> simp [live]
  nodup other node found := by
    have here := shape?_eq_some_iff.2 ⟨node, found, rfl, rfl⟩
    rw [shape] at here
    split at here
    · cases here
      exact nodup
    · obtain ⟨node', found', same, -⟩ := shape?_eq_some_iff.1 here
      exact same ▸ wellFormed.nodup other node' found'

/-- Nothing but shapes matters. -/
theorem WellFormed.of_shape (wellFormed : before.WellFormed)
    (shape : ∀ id, after.shape? id = before.shape? id) : after.WellFormed where
  acyclic := wellFormed.acyclic.of_subset fun source target edge => by
    rw [edge_iff_shape] at edge ⊢
    simpa only [shape] using edge
  closed source target edge := by
    rw [edge_iff_shape] at edge
    simp only [shape] at edge
    rw [← isSome_shape?, shape, isSome_shape?]
    exact wellFormed.closed source target (edge_iff_shape.2 edge)
  nodup id node found := by
    have here := shape?_eq_some_iff.2 ⟨node, found, rfl, rfl⟩
    rw [shape] at here
    obtain ⟨node', found', same, -⟩ := shape?_eq_some_iff.1 here
    exact same ▸ wellFormed.nodup id node' found'

/-! ## Inserting -/

/-- A chunk without children that nothing leads to yet may have any live chunk as its proxy. -/
private theorem WellFormed.of_insert (wellFormed : before.WellFormed) (id : ChunkId) (proxy : Option ChunkId)
    (shape : ∀ other, after.shape? other = if other = id then some ([], proxy) else before.shape? other)
    (fresh : before.node? id = none) (live : ∀ target, proxy = some target → (before.node? target).isSome) :
    after.WellFormed := by
  have isSome : ∀ other, (before.node? other).isSome → (after.node? other).isSome := by
    intro other live
    rw [← isSome_shape?] at live ⊢
    rw [shape]
    split <;> simp [live]
  refine wellFormed.reshape shape ?_ ?_ List.nodup_nil
  · cases proxy with
    | none =>
      apply wellFormed.acyclic.of_subset
      intro source target edge
      obtain ⟨children, proxy, found, leads⟩ := edge_iff_shape.1 edge
      rw [shape] at found
      split at found
      · cases found
        simp at leads
      · exact edge_iff_shape.2 ⟨children, proxy, found, leads⟩
    | some goal =>
      apply wellFormed.acyclic.of_edge id goal
      · intro source target edge
        obtain ⟨children, proxy, found, leads⟩ := edge_iff_shape.1 edge
        rw [shape] at found
        split at found
        · next new =>
          cases found
          exact .inr ⟨new, by simpa [eq_comm] using leads⟩
        · exact .inl (edge_iff_shape.2 ⟨children, proxy, found, leads⟩)
      · intro path
        rcases ReflTransGen.cases_tail path with rfl | ⟨last, -, edge⟩
        · simpa [fresh] using live id rfl
        · simpa [fresh] using wellFormed.closed last id edge
  · intro target leads
    rcases leads with rfl | member
    · exact isSome target (live target rfl)
    · simp at member

theorem WellFormed.insert (wellFormed : graph.WellFormed) (chunk : Chunk) :
    (graph.insert chunk).2.WellFormed := by
  refine wellFormed.of_insert _ none (fun other => ?_) (graph.node?_insert_key chunk) (by simp)
  rw [shape?, node?_insert]
  split <;> rfl

/-! ## Editing edges -/

theorem shape?_modifyNode {id : ChunkId} {node : ChunkNode} (found : graph.node? id = some node)
    (change : ChunkNode → ChunkNode) (other : ChunkId) :
    (graph.modifyNode id change).shape? other =
      if other = id then some ((change node).children, (change node).proxy) else graph.shape? other := by
  rw [shape?, node?_modifyNode]
  split
  · next here => simp [here, found]
  · rfl

theorem isSome_node?_modifyNode (id : ChunkId) (change : ChunkNode → ChunkNode) (other : ChunkId) :
    ((graph.modifyNode id change).node? other).isSome = (graph.node? other).isSome := by
  rw [node?_modifyNode]
  split <;> simp

/-- An edit of the edges of one chunk that adds one edge at most. -/
private theorem WellFormed.relink (wellFormed : graph.WellFormed) {id : ChunkId} {node : ChunkNode}
    (found : graph.node? id = some node) (change : ChunkNode → ChunkNode) (goal : Option ChunkId)
    (edges : ∀ target, (change node).proxy = some target ∨ target ∈ (change node).children →
      (node.proxy = some target ∨ target ∈ node.children) ∨ goal = some target)
    (live : ∀ target, goal = some target → (graph.node? target).isSome)
    (apart : ∀ target, goal = some target → ¬ ReflTransGen graph.Edge target id)
    (nodup : (change node).children.Nodup) : (graph.modifyNode id change).WellFormed := by
  have split_edge : ∀ source target, (graph.modifyNode id change).Edge source target →
      graph.Edge source target ∨ source = id ∧ goal = some target := by
    intro source target edge
    obtain ⟨children, proxy, shape, leads⟩ := edge_iff_shape.1 edge
    rw [shape?_modifyNode found] at shape
    split at shape
    · next here =>
      cases shape
      rcases edges target leads with old | new
      · exact .inl (edge_iff.2 ⟨node, here ▸ found, old⟩)
      · exact .inr ⟨here, new⟩
    · exact .inl (edge_iff_shape.2 ⟨children, proxy, shape, leads⟩)
  refine wellFormed.reshape (shape?_modifyNode found change) ?_ (fun target leads => ?_) nodup
  · cases goal with
    | none => exact wellFormed.acyclic.of_subset fun source target edge => by simpa using split_edge source target edge
    | some goal =>
      refine wellFormed.acyclic.of_edge id goal ?_
        (apart goal rfl)
      intro source target edge
      simpa [eq_comm] using split_edge source target edge
  · rw [isSome_node?_modifyNode]
    rcases edges target leads with old | new
    · exact wellFormed.closed id target (edge_iff.2 ⟨node, found, old⟩)
    · exact live target new

theorem WellFormed.addChild (wellFormed : graph.WellFormed) {parent child : ChunkId} {node : ChunkNode}
    (found : graph.node? parent = some node) (live : (graph.node? child).isSome) (new : child ∉ node.children)
    (apart : graph.reaches child parent = false) :
    (graph.modifyNode parent fun node => { node with children := node.children ++ [child] }).WellFormed := by
  apply wellFormed.relink found _ (some child)
  · intro target leads
    simp only [List.mem_append, List.mem_singleton] at leads
    rcases leads with proxied | old | rfl
    · exact .inl (.inl proxied)
    · exact .inl (.inr old)
    · exact .inr rfl
  · rintro _ ⟨⟩
    exact live
  · rintro _ ⟨⟩
    exact (reaches_eq_false_iff child parent).1 apart
  · have distinct := wellFormed.nodup parent node found
    refine List.nodup_append.2 ⟨distinct, List.nodup_singleton _, ?_⟩
    rintro other member _ single rfl
    exact new (List.mem_singleton.1 single ▸ member)

theorem WellFormed.removeChild (wellFormed : graph.WellFormed) {parent : ChunkId} {node : ChunkNode}
    (found : graph.node? parent = some node) (child : ChunkId) :
    (graph.modifyNode parent fun node => { node with children := node.children.erase child }).WellFormed := by
  refine wellFormed.relink found _ none ?_ (by simp) (by simp)
    ((wellFormed.nodup parent node found).erase child)
  intro target leads
  rcases leads with proxied | member
  · exact .inl (.inl proxied)
  · exact .inl (.inr (List.mem_of_mem_erase member))

theorem WellFormed.setProxy (wellFormed : graph.WellFormed) {id : ChunkId} {node : ChunkNode}
    (found : graph.node? id = some node) (target : Option ChunkId)
    (live : ∀ goal, target = some goal → (graph.node? goal).isSome)
    (apart : ∀ goal, target = some goal → graph.reaches goal id = false) :
    (graph.modifyNode id fun node => { node with proxy := target }).WellFormed := by
  refine wellFormed.relink found _ target ?_ live
    (fun goal proxied => (reaches_eq_false_iff goal id).1 (apart goal proxied)) (wellFormed.nodup id node found)
  intro goal leads
  rcases leads with proxied | member
  · exact .inr proxied
  · exact .inl (.inr member)

theorem WellFormed.createProxy (wellFormed : graph.WellFormed) {target : ChunkId}
    (live : (graph.node? target).isSome) :
    ((graph.insert .group).2.modifyNode (graph.insert .group).1 fun node =>
      { node with proxy := some target }).WellFormed := by
  refine wellFormed.of_insert (graph.insert .group).1 (some target) (fun other => ?_)
    (graph.node?_insert_key .group) (by rintro _ ⟨⟩; exact live)
  have new : (graph.insert .group).2.node? (graph.insert .group).1 = some (.ofChunk .group) := by simp [node?_insert]
  rw [shape?_modifyNode new]
  split
  · rfl
  · next other => rw [shape?, node?_insert, if_neg other, shape?]

/-! ## Removing -/

theorem WellFormed.remove (wellFormed : graph.WellFormed) {rest : ChunkGraph} {id : ChunkId}
    (nodes : ∀ other, rest.node? other = if other = id then none else (graph.node? other).map (·.detach id)) :
    rest.WellFormed := by
  have edge_cases : ∀ source target, rest.Edge source target → graph.Edge source target ∧ target ≠ id := by
    intro source target edge
    obtain ⟨node, found, leads⟩ := edge_iff.1 edge
    rw [nodes] at found
    split at found
    · simp at found
    · obtain ⟨node, held, rfl⟩ := Option.map_eq_some_iff.1 found
      rw [edge_iff]
      rcases leads with proxied | member
      · simp only [ChunkNode.detach] at proxied
        split at proxied
        · simp at proxied
        · next other => exact ⟨⟨node, held, .inl proxied⟩, fun same => other (same ▸ proxied)⟩
      · obtain ⟨member, other⟩ := List.mem_filter.1 member
        exact ⟨⟨node, held, .inr member⟩, by simpa using other⟩
  refine ⟨wellFormed.acyclic.of_subset fun source target edge => (edge_cases source target edge).1, ?_, ?_⟩
  · intro source target edge
    obtain ⟨edge, other⟩ := edge_cases source target edge
    rw [nodes, if_neg other, Option.isSome_map]
    exact wellFormed.closed source target edge
  · intro other node found
    rw [nodes] at found
    split at found
    · simp at found
    · obtain ⟨node, held, rfl⟩ := Option.map_eq_some_iff.1 found
      exact (wellFormed.nodup other node held).filter _

/-! ## Chains of proxies -/

/-- A chain of proxies that was followed to its end, however long it is. -/
inductive Resolves (graph : ChunkGraph) : ChunkId → ChunkId → Prop where
  | behaving {id : ChunkId} {node : ChunkNode} : graph.node? id = some node → node.proxy = none → Resolves graph id id
  | proxied {id next target : ChunkId} {node : ChunkNode} : graph.node? id = some node → node.proxy = some next →
      Resolves graph next target → Resolves graph id target

/-- Following proxies for as many steps as the start reaches chunks comes to the end of the chain. -/
private theorem WellFormed.follow_eq_ok (wellFormed : graph.WellFormed) (id : ChunkId) :
    ∀ steps, (graph.reach id).length ≤ steps → (graph.node? id).isSome →
      ∃ target, graph.follow steps id = .ok target ∧ graph.Resolves id target := by
  induction id using wellFormed.acyclic.induction with
  | step id ih =>
    intro steps enough live
    obtain ⟨node, found⟩ := Option.isSome_iff_exists.1 live
    have := length_reach_pos live
    obtain ⟨steps, rfl⟩ := Nat.exists_eq_add_one.2 (show 0 < steps by omega)
    cases proxied : node.proxy with
    | none => exact ⟨id, by simp [follow, found, proxied], .behaving found proxied⟩
    | some next =>
      have edge : graph.Edge id next := edge_iff.2 ⟨node, found, .inl proxied⟩
      have less := wellFormed.acyclic.reach_lt edge
      obtain ⟨target, followed, resolves⟩ := ih next edge steps (by omega) (wellFormed.closed id next edge)
      exact ⟨target, by simp [follow, found, proxied, followed], .proxied found proxied resolves⟩

theorem WellFormed.resolve_eq_ok (wellFormed : graph.WellFormed) {id : ChunkId} (live : (graph.node? id).isSome) :
    ∃ target, graph.resolve id = .ok target ∧ graph.Resolves id target :=
  wellFormed.follow_eq_ok id _ (Nat.le_succ_of_le (length_reach_le graph id)) live

/-- A chain ends at a live chunk that behaves itself. -/
theorem Resolves.behaves {id target : ChunkId} (resolves : graph.Resolves id target) :
    ∃ node, graph.node? target = some node ∧ node.proxy = none := by
  induction resolves with
  | behaving found proxied => exact ⟨_, found, proxied⟩
  | proxied _ _ _ ih => exact ih

end ShaderWeave.ChunkGraph
