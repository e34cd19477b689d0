import Mathlib.Data.List.Permutation
import ShaderWeave.Proofs.Lighting.Subscriptions

/-! # Taking chunks out

A chunk that goes takes the edges to it along, and every list forgets it. Nothing else moves but marks: those collections
have to look again that had the chunk, or visited a chunk with an edge to it, also if a proxy hides this edge. A removal
finds them through subscriptions alone, which is enough because subscriptions mirror visits.
-/

namespace ShaderWeave

namespace ChunkGraph

variable {graph rest : ChunkGraph} {id : ChunkId} {collection : ChunkCollection}

instance (graph : ChunkGraph) (source target : ChunkId) : Decidable (graph.Edge source target) :=
  inferInstanceAs (Decidable (target ∈ graph.successors source))

/-- Whether lists get out of date when a chunk goes: it is one of the roots, it was visited, or a visited chunk leads to
it. -/
def Concerns (graph : ChunkGraph) (id : ChunkId) (collection : ChunkCollection) : Prop :=
  id ∈ collection.roots ∨ id ∈ collection.all ∨ ∃ source ∈ collection.all, graph.Edge source id

instance (graph : ChunkGraph) (id : ChunkId) (collection : ChunkCollection) :
    Decidable (graph.Concerns id collection) :=
  inferInstanceAs (Decidable (_ ∨ _ ∨ _))

theorem edge_iff_links {source target : ChunkId} :
    graph.Edge source target ↔ ∃ node, graph.node? source = some node ∧ node.links target = true := by
  simp only [edge_iff, ChunkNode.links, Bool.or_eq_true, beq_iff_eq, List.contains_eq_mem, decide_eq_true_iff]

/-! ## What is left -/

/-- No edge leads to the chunk, and no collection lists it. -/
structure Forgets (graph : ChunkGraph) (id : ChunkId) : Prop where
  gone : graph.node? id = none
  edges : ∀ source, ¬ graph.Edge source id
  lists : ∀ other collection, graph.collection? other = some collection →
    id ∉ collection.roots ∧ id ∉ collection.all ∧ id ∉ collection.actives

theorem forgets_of_remove {chunk : Chunk} (removed : graph.remove id = some (chunk, rest)) : rest.Forgets id := by
  obtain ⟨-, marked, -, -, nodes, collections, -⟩ := remove_cases removed
  refine ⟨by rw [nodes, if_pos rfl], fun source edge => ?_, fun other collection found => ?_⟩
  · obtain ⟨node, found, leads⟩ := edge_iff.1 edge
    rw [nodes] at found
    split at found
    · cases found
    · obtain ⟨old, -, rfl⟩ := Option.map_eq_some_iff.1 found
      rcases leads with proxied | member
      · simp only [ChunkNode.detach] at proxied
        split at proxied
        · cases proxied
        · next apart => exact apart proxied
      · simp [ChunkNode.detach] at member
  · rw [collections] at found
    obtain ⟨old, -, rfl⟩ := Option.map_eq_some_iff.1 found
    have forgotten : id ∉ (old.forget id).roots ∧ id ∉ (old.forget id).all ∧ id ∉ (old.forget id).actives := by
      simp [ChunkCollection.mem_forget]
    split
    · exact forgotten
    · exact forgotten

/-! ## Marks -/

/-- Subscribers of the chunk and of those that lead to it are the collections that visited one of them. -/
theorem Mirrored.subscribed_iff (mirrored : graph.Mirrored) {node : ChunkNode} (live : graph.node? id = some node)
    {other : CollectionId} (found : graph.collection? other = some collection) :
    (other ∈ node.subscribers ∨ ∃ key linked, key ≠ id ∧ graph.node? key = some linked ∧ linked.links id = true ∧
      other ∈ linked.subscribers) ↔ id ∈ collection.all ∨ ∃ source ∈ collection.all, graph.Edge source id := by
  have visited (key : ChunkId) {node : ChunkNode} (live : graph.node? key = some node) :
      other ∈ node.subscribers ↔ key ∈ collection.all := by
    rw [← mirrored.visited_iff found key, subscribers_of_found live]
  rw [visited id live]
  constructor
  · rintro (member | ⟨key, linked, -, live', links, member⟩)
    · exact .inl member
    · exact .inr ⟨key, (visited key live').1 member, edge_iff_links.2 ⟨linked, live', links⟩⟩
  · rintro (member | ⟨source, member, edge⟩)
    · exact .inl member
    · by_cases same : source = id
      · exact .inl (same ▸ member)
      · obtain ⟨linked, live', links⟩ := edge_iff_links.1 edge
        exact .inr ⟨source, linked, same, live', links, (visited source live').2 member⟩

/-- A removal takes the chunk out of all lists, and marks the collections that it concerns. -/
theorem Mirrored.collection?_remove (mirrored : graph.Mirrored) {chunk : Chunk}
    (removed : graph.remove id = some (chunk, rest)) (other : CollectionId) :
    rest.collection? other = (graph.collection? other).map fun collection =>
      let without := { collection with
        roots := collection.roots.filter (· ≠ id)
        all := collection.all.filter (· ≠ id)
        actives := collection.actives.filter (· ≠ id) }
      if graph.Concerns id collection then { without with listDirty := true, codeDirty := true } else without := by
  obtain ⟨node, marked, live, -, -, collections, marks⟩ := remove_cases removed
  rw [collections]
  cases found : graph.collection? other with
  | none => rfl
  | some collection =>
    have reached : other ∈ marked ↔ id ∈ collection.all ∨ ∃ source ∈ collection.all, graph.Edge source id :=
      (marks other).trans (mirrored.subscribed_iff live found)
    have concerned : graph.Concerns id collection ↔
        (id ∈ collection.roots ∨ id ∈ collection.all) ∨ other ∈ marked := by
      rw [reached, Concerns]
      tauto
    rw [Option.map_some, Option.map_some]
    simp only [concerned]
    by_cases had : id ∈ collection.roots ∨ id ∈ collection.all
    · simp [ChunkCollection.forget, ChunkCollection.invalidateList, had]
    · by_cases mark : other ∈ marked
      · simp [ChunkCollection.forget, ChunkCollection.invalidateList, had, mark]
      · simp [ChunkCollection.forget, had, mark]

/-! ## Removal along runs -/

/-- Along every run, a live chunk that is removed is given back and forgotten. Every other chunk keeps its state, its other
edges in their order, its subscribers and whether its values wait. Every collection keeps its other entries in their order,
and gets both marks if the chunk concerns it; otherwise it keeps its marks. With a key that names nothing, nothing
happens. -/
theorem remove_detaches (events : List GraphEvent) (id : ChunkId) :
    let graph := history events
    (graph.node? id = none → graph.remove id = none ∧ graph.step (.remove id) = graph) ∧
    ∀ node, graph.node? id = some node → ∃ rest, graph.remove id = some (node.chunk, rest) ∧
      graph.step (.remove id) = rest ∧ rest.Forgets id ∧
      (∀ other, other ≠ id → rest.node? other = (graph.node? other).map fun node =>
        { node with
          children := node.children.filter (· ≠ id)
          proxy := if node.proxy = some id then none else node.proxy }) ∧
      ∀ other, rest.collection? other = (graph.collection? other).map fun collection =>
        let without := { collection with
          roots := collection.roots.filter (· ≠ id)
          all := collection.all.filter (· ≠ id)
          actives := collection.actives.filter (· ≠ id) }
        if graph.Concerns id collection then { without with listDirty := true, codeDirty := true } else without := by
  intro graph
  have mirrored : graph.Mirrored := (Tracks.history events).mirrored
  refine ⟨fun gone => ?_, fun node live => ?_⟩
  · have none := remove_eq_none_iff.2 gone
    exact ⟨none, by rw [step, none]; rfl⟩
  · cases removed : graph.remove id with
    | none => cases live.symm.trans (remove_eq_none_iff.1 removed)
    | some taken =>
      obtain ⟨chunk, rest⟩ := taken
      obtain ⟨node', -, live', rfl, nodes, -⟩ := remove_cases removed
      cases live.symm.trans live'
      refine ⟨rest, rfl, by rw [step, removed]; rfl, forgets_of_remove removed, fun other apart => ?_,
        mirrored.collection?_remove removed⟩
      rw [nodes, if_neg apart]
      rfl

/-- A group in whose place another group behaves, and which has a flag as its child. One collection visited both groups,
and a second one only the other group. -/
def dormantChild : List GraphEvent :=
  [.op (.insert (.flag ⟨"useFog", true⟩)), .op (.insert .group), .op (.insert .group),
    .op (.addChild ⟨2, 1⟩ ⟨1, 1⟩), .op (.setProxy ⟨2, 1⟩ (some ⟨3, 1⟩)), .op .createCollection, .op .createCollection,
    .op (.addRoot ⟨1, 1⟩ ⟨2, 1⟩), .op (.addRoot ⟨2, 1⟩ ⟨3, 1⟩), .op (.query ⟨1, 1⟩ .refresh),
    .op (.query ⟨2, 1⟩ .refresh)]

/-- Without the flag, the collection of the group that had it as a child has to look again, although it never visited the
flag. -/
theorem remove_marks_dormant_parent :
    ∃ rest, (history dormantChild).remove ⟨1, 1⟩ = some (.flag ⟨"useFog", true⟩, rest) ∧ rest.Forgets ⟨1, 1⟩ ∧
      rest.children ⟨2, 1⟩ = [] ∧ rest.proxy ⟨2, 1⟩ = some ⟨3, 1⟩ ∧
      rest.collection? ⟨1, 1⟩ = some ⟨[⟨2, 1⟩], [⟨2, 1⟩, ⟨3, 1⟩], [⟨3, 1⟩], true, true, ""⟩ ∧
      rest.collection? ⟨2, 1⟩ = some ⟨[⟨3, 1⟩], [⟨3, 1⟩], [⟨3, 1⟩], false, false, ""⟩ := by
  have live : ((history dormantChild).node? ⟨1, 1⟩).map (·.chunk) = some (.flag ⟨"useFog", true⟩) := by cbv
  have parent : ((history dormantChild).node? ⟨2, 1⟩).map (fun node => (node.children, node.proxy)) =
      some ([⟨1, 1⟩], some ⟨3, 1⟩) := by cbv
  have first : (history dormantChild).collection? ⟨1, 1⟩ =
      some ⟨[⟨2, 1⟩], [⟨2, 1⟩, ⟨3, 1⟩], [⟨3, 1⟩], false, false, ""⟩ := by cbv
  have second : (history dormantChild).collection? ⟨2, 1⟩ =
      some ⟨[⟨3, 1⟩], [⟨3, 1⟩], [⟨3, 1⟩], false, false, ""⟩ := by cbv
  have leaf : (history dormantChild).successors ⟨3, 1⟩ = [] := by cbv
  obtain ⟨node, found, state⟩ := Option.map_eq_some_iff.1 live
  obtain ⟨group, found', links⟩ := Option.map_eq_some_iff.1 parent
  obtain ⟨children, proxy⟩ := Prod.mk.inj links
  have edge : (history dormantChild).Edge ⟨2, 1⟩ ⟨1, 1⟩ := edge_iff.2 ⟨group, found', .inr (by simp [children])⟩
  obtain ⟨rest, removed, -, forgets, nodes, collections⟩ := (remove_detaches dormantChild ⟨1, 1⟩).2 node found
  have kept := nodes ⟨2, 1⟩ (by decide)
  rw [found', Option.map_some, children, proxy] at kept
  refine ⟨rest, state ▸ removed, forgets, ?_, ?_, ?_, ?_⟩
  · rw [ChunkGraph.children, kept]
    rfl
  · rw [ChunkGraph.proxy, kept]
    rfl
  · rw [collections, first, Option.map_some, if_pos (.inr (.inr ⟨⟨2, 1⟩, by simp, edge⟩))]
    rfl
  · rw [collections, second, Option.map_some, if_neg (by simp [Concerns, Edge, leaf])]
    rfl

end ChunkGraph

end ShaderWeave
