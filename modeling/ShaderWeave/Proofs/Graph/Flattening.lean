import Mathlib.Data.List.Forall2
import ShaderWeave.Graph.Flatten
import ShaderWeave.Proofs.Graph.Reachability

/-! # Flattening without cycles

The traversal is cut off at a depth. In a graph without cycles that depth is never met, so a traversal is made of
the traversals from the chunks that its start leads to, and depends on nothing but the chunks that it visits.
-/

namespace ShaderWeave.ChunkGraph

open Relation

variable {graph : ChunkGraph}

/-- What a traversal reads of a live chunk. -/
def shape? (graph : ChunkGraph) (id : ChunkId) : Option (List ChunkId × Option ChunkId) :=
  (graph.node? id).map fun node => (node.children, node.proxy)

/-! ## The depth bound -/

theorem flattenFrom_of_gone (depth : Nat) {id : ChunkId} (gone : graph.node? id = none) :
    graph.flattenFrom depth id = {} := by
  cases depth <;> simp [flattenFrom, gone]

theorem Acyclic.flattenFrom_eq (acyclic : graph.Acyclic) (id : ChunkId) :
    ∀ first second, (graph.reach id).length ≤ first → (graph.reach id).length ≤ second →
      graph.flattenFrom first id = graph.flattenFrom second id := by
  induction id using acyclic.induction with
  | step id ih =>
    intro first second enough enough'
    cases found : graph.node? id with
    | none => rw [flattenFrom_of_gone _ found, flattenFrom_of_gone _ found]
    | some node =>
      have := length_reach_pos (show (graph.node? id).isSome by simp [found])
      obtain ⟨first, rfl⟩ := Nat.exists_eq_add_one.2 (show 0 < first by omega)
      obtain ⟨second, rfl⟩ := Nat.exists_eq_add_one.2 (show 0 < second by omega)
      have below : ∀ next, graph.Edge id next → graph.flattenFrom first next = graph.flattenFrom second next := by
        intro next edge
        have := acyclic.reach_lt edge
        exact ih next edge first second (by omega) (by omega)
      cases proxied : node.proxy with
      | some target =>
        have same := below target (edge_iff.2 ⟨node, found, .inl proxied⟩)
        simp only [flattenFrom, found, proxied, same]
      | none =>
        have same : node.children.map (graph.flattenFrom first) = node.children.map (graph.flattenFrom second) :=
          List.map_congr_left fun child member => below child (edge_iff.2 ⟨node, found, .inr member⟩)
        simp only [flattenFrom, found, proxied, same]

/-- No chunk reaches more chunks than there are, so a chunk below a live one has depth left. -/
private theorem Acyclic.flattenFrom_below (acyclic : graph.Acyclic) {depth : Nat} (all : graph.size = depth + 1)
    {id next : ChunkId} (edge : graph.Edge id next) : graph.flattenFrom depth next = graph.flatten next := by
  have := acyclic.reach_lt edge
  have := length_reach_le graph id
  exact acyclic.flattenFrom_eq next _ _ (by omega) (by omega)

private theorem size_eq_succ {id : ChunkId} (live : (graph.node? id).isSome) : ∃ depth, graph.size = depth + 1 := by
  have := length_reach_pos live
  have := length_reach_le graph id
  exact Nat.exists_eq_add_one.2 (by omega)

theorem flatten_of_gone {id : ChunkId} (gone : graph.node? id = none) : graph.flatten id = {} :=
  flattenFrom_of_gone _ gone

theorem Acyclic.flatten_of_proxied (acyclic : graph.Acyclic) {id target : ChunkId} {node : ChunkNode}
    (found : graph.node? id = some node) (proxied : node.proxy = some target) :
    graph.flatten id = { graph.flatten target with all := id :: (graph.flatten target).all } := by
  obtain ⟨depth, all⟩ := size_eq_succ (show (graph.node? id).isSome by simp [found])
  have below := acyclic.flattenFrom_below all (edge_iff.2 ⟨node, found, .inl proxied⟩)
  rw [flatten, all]
  simp only [flattenFrom, found, proxied, below]

theorem Acyclic.flatten_of_behaving (acyclic : graph.Acyclic) {id : ChunkId} {node : ChunkNode}
    (found : graph.node? id = some node) (behaving : node.proxy = none) :
    graph.flatten id =
      ⟨id :: (Flattening.join (node.children.map graph.flatten)).all,
        (Flattening.join (node.children.map graph.flatten)).actives ++ [id]⟩ := by
  obtain ⟨depth, all⟩ := size_eq_succ (show (graph.node? id).isSome by simp [found])
  have below : node.children.map (graph.flattenFrom depth) = node.children.map graph.flatten :=
    List.map_congr_left fun child member =>
      acyclic.flattenFrom_below all (edge_iff.2 ⟨node, found, .inr member⟩)
  rw [flatten, all]
  simp only [flattenFrom, found, behaving, below]

/-! ## Termination -/

/-- A finished traversal without any bound on its depth. -/
inductive Flattens (graph : ChunkGraph) : ChunkId → Flattening → Prop where
  | gone {id : ChunkId} : graph.node? id = none → Flattens graph id {}
  | proxied {id target : ChunkId} {node : ChunkNode} {below : Flattening} : graph.node? id = some node →
      node.proxy = some target → Flattens graph target below →
      Flattens graph id { below with all := id :: below.all }
  | behaving {id : ChunkId} {node : ChunkNode} {parts : List Flattening} : graph.node? id = some node →
      node.proxy = none → List.Forall₂ (Flattens graph) node.children parts →
      Flattens graph id ⟨id :: (Flattening.join parts).all, (Flattening.join parts).actives ++ [id]⟩

/-- Without cycles every traversal ends, and its result is the one with the bound. -/
theorem Acyclic.flattens (acyclic : graph.Acyclic) (id : ChunkId) : graph.Flattens id (graph.flatten id) := by
  induction id using acyclic.induction with
  | step id ih =>
    cases found : graph.node? id with
    | none =>
      rw [flatten_of_gone found]
      exact .gone found
    | some node =>
      cases proxied : node.proxy with
      | some target =>
        rw [acyclic.flatten_of_proxied found proxied]
        exact .proxied found proxied (ih target (edge_iff.2 ⟨node, found, .inl proxied⟩))
      | none =>
        rw [acyclic.flatten_of_behaving found proxied]
        refine .behaving found proxied ?_
        rw [List.forall₂_map_right_iff, List.forall₂_same]
        exact fun child member => ih child (edge_iff.2 ⟨node, found, .inr member⟩)

/-! ## What a traversal visits -/

private theorem mem_join {parts : List Flattening} {id : ChunkId} :
    (id ∈ (Flattening.join parts).all ↔ ∃ part ∈ parts, id ∈ part.all) ∧
      (id ∈ (Flattening.join parts).actives ↔ ∃ part ∈ parts, id ∈ part.actives) := by
  simp [Flattening.join, List.mem_flatMap]

theorem live_of_mem_flattenFrom {depth : Nat} {root id : ChunkId} (member : id ∈ (graph.flattenFrom depth root).all) :
    (graph.node? id).isSome := by
  fun_induction flattenFrom graph depth root with
  | case1 => simp at member
  | case2 => simp at member
  | case3 depth root node found target proxied below ih =>
    rcases List.mem_cons.1 member with rfl | member
    · simp [found]
    · exact ih member
  | case4 depth root node found behaving below ih =>
    rcases List.mem_cons.1 member with rfl | member
    · simp [found]
    · obtain ⟨part, isPart, member⟩ := mem_join.1.1 member
      obtain ⟨child, -, rfl⟩ := List.mem_map.1 isPart
      exact ih child member

theorem actives_subset_flattenFrom {depth : Nat} {root id : ChunkId}
    (member : id ∈ (graph.flattenFrom depth root).actives) : id ∈ (graph.flattenFrom depth root).all := by
  fun_induction flattenFrom graph depth root with
  | case1 => simp at member
  | case2 => simp at member
  | case3 depth root node found target proxied below ih => exact List.mem_cons_of_mem _ (ih member)
  | case4 depth root node found behaving below ih =>
    rcases List.mem_append.1 member with member | member
    · obtain ⟨part, isPart, member⟩ := mem_join.2.1 member
      obtain ⟨child, isChild, rfl⟩ := List.mem_map.1 isPart
      exact List.mem_cons_of_mem _ (mem_join.1.2 ⟨_, isPart, ih child member⟩)
    · rw [List.mem_singleton.1 member]
      exact List.mem_cons_self ..

theorem mem_flattenAll_all {roots : List ChunkId} {id : ChunkId} :
    id ∈ (graph.flattenAll roots).all ↔ ∃ root ∈ roots, id ∈ (graph.flatten root).all := by
  simp [flattenAll, Flattening.distinct, Flattening.join, List.flatMap_map]

theorem mem_flattenAll_actives {roots : List ChunkId} {id : ChunkId} :
    id ∈ (graph.flattenAll roots).actives ↔ ∃ root ∈ roots, id ∈ (graph.flatten root).actives := by
  simp [flattenAll, Flattening.distinct, Flattening.join, List.flatMap_map]

theorem live_of_mem_flattenAll {roots : List ChunkId} {id : ChunkId} (member : id ∈ (graph.flattenAll roots).all) :
    (graph.node? id).isSome := by
  obtain ⟨root, -, member⟩ := mem_flattenAll_all.1 member
  exact live_of_mem_flattenFrom member

theorem actives_subset_flattenAll {roots : List ChunkId} {id : ChunkId}
    (member : id ∈ (graph.flattenAll roots).actives) : id ∈ (graph.flattenAll roots).all := by
  obtain ⟨root, isRoot, member⟩ := mem_flattenAll_actives.1 member
  exact mem_flattenAll_all.2 ⟨root, isRoot, actives_subset_flattenFrom member⟩

/-! ## What a traversal depends on -/

theorem shape?_eq_some_iff {id : ChunkId} {children : List ChunkId} {proxy : Option ChunkId} :
    graph.shape? id = some (children, proxy) ↔
      ∃ node, graph.node? id = some node ∧ node.children = children ∧ node.proxy = proxy := by
  simp [shape?, Option.map_eq_some_iff]

/-- Edits of chunks that a traversal does not visit do not change it. -/
theorem flatten_congr {before after : ChunkGraph} (acyclic : before.Acyclic) (acyclic' : after.Acyclic)
    (closed : ∀ source target, before.Edge source target → (before.node? target).isSome) (id : ChunkId) :
    (before.node? id).isSome → (∀ other ∈ (before.flatten id).all, after.shape? other = before.shape? other) →
      after.flatten id = before.flatten id := by
  induction id using acyclic.induction with
  | step id ih =>
    intro live same
    obtain ⟨node, found⟩ := Option.isSome_iff_exists.1 live
    cases proxied : node.proxy with
    | some target =>
      have edge : before.Edge id target := edge_iff.2 ⟨node, found, .inl proxied⟩
      rw [acyclic.flatten_of_proxied found proxied] at same ⊢
      have shape := (same id (List.mem_cons_self ..)).trans (shape?_eq_some_iff.2 ⟨node, found, rfl, proxied⟩)
      obtain ⟨node', found', -, proxied'⟩ := shape?_eq_some_iff.1 shape
      rw [acyclic'.flatten_of_proxied found' proxied', ih target edge (closed id target edge)
        fun other member => same other (List.mem_cons_of_mem _ member)]
    | none =>
      rw [acyclic.flatten_of_behaving found proxied] at same ⊢
      have shape := (same id (List.mem_cons_self ..)).trans (shape?_eq_some_iff.2 ⟨node, found, rfl, proxied⟩)
      obtain ⟨node', found', children, proxied'⟩ := shape?_eq_some_iff.1 shape
      have parts : node.children.map after.flatten = node.children.map before.flatten := by
        apply List.map_congr_left
        intro child member
        have edge : before.Edge id child := edge_iff.2 ⟨node, found, .inr member⟩
        refine ih child edge (closed id child edge) fun other visited => same other (List.mem_cons_of_mem _ ?_)
        exact mem_join.1.2 ⟨_, List.mem_map_of_mem member, visited⟩
      rw [acyclic'.flatten_of_behaving found' proxied', children, parts]

theorem flattenAll_congr {before after : ChunkGraph} (acyclic : before.Acyclic) (acyclic' : after.Acyclic)
    (closed : ∀ source target, before.Edge source target → (before.node? target).isSome) {roots : List ChunkId}
    (live : ∀ root ∈ roots, (before.node? root).isSome)
    (same : ∀ other ∈ (before.flattenAll roots).all, after.shape? other = before.shape? other) :
    after.flattenAll roots = before.flattenAll roots := by
  have parts : roots.map after.flatten = roots.map before.flatten := by
    apply List.map_congr_left
    intro root member
    exact flatten_congr acyclic acyclic' closed root (live root member) fun other visited =>
      same other (mem_flattenAll_all.2 ⟨root, member, visited⟩)
  rw [flattenAll, flattenAll, parts]

end ShaderWeave.ChunkGraph
