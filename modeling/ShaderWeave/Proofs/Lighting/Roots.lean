import ShaderWeave.Proofs.Lighting.Persistence
import ShaderWeave.Proofs.Program.Cache

/-! # The code below the root of a light model

While the root of a model leads to the chunks of the model, and these lead nowhere, a collection of the root has their
code, in their order. The root itself takes part in nothing.
-/

namespace ShaderWeave

namespace ChunkGraph

variable {graph : ChunkGraph}

private theorem node?_addChild_self {parent child : ChunkId} {node : ChunkNode} {next : ChunkGraph}
    (found : graph.node? parent = some node) (linked : graph.addChild parent child = (.ok (), next)) :
    next.node? parent = some { node with children := node.children ++ [child] } := by
  unfold addChild at linked
  split at linked
  · cases linked
  · cases linked
  · split at linked
    · cases linked
    · split at linked
      · cases linked
      · obtain ⟨-, rfl⟩ := Prod.mk.inj linked
        simp [found]

/-- Linking succeeds only if every child is appended. -/
theorem node?_addChildren_self {parent : ChunkId} {children : List ChunkId} {node : ChunkNode}
    (found : graph.node? parent = some node) (linked : (graph.addChildren parent children).1 = .ok ()) :
    (graph.addChildren parent children).2.node? parent = some { node with children := node.children ++ children } := by
  induction children generalizing graph node with
  | nil => simpa [addChildren] using found
  | cons child rest ih =>
    unfold addChildren at linked ⊢
    split at linked
    · next next first => simpa using ih (node?_addChild_self found first) linked
    · next failed =>
      exact absurd (Prod.ext linked rfl : graph.addChild parent child = (.ok (), _)) (failed _)

end ChunkGraph

/-! ## The root and what it leads to -/

private theorem eraseDups_of_nodup {ids : List ChunkId} (nodup : ids.Nodup) : ids.eraseDups = ids := by
  induction ids with
  | nil => rfl
  | cons id rest ih =>
    obtain ⟨absent, nodup⟩ := List.nodup_cons.1 nodup
    have others : rest.filter (fun other => !other == id) = rest := by
      rw [List.filter_eq_self]
      intro other member
      simpa using ne_of_mem_of_not_mem member absent
    rw [List.eraseDups_cons, others, ih nodup]

namespace ModelChunks

/-- The root leads to the chunks of the model, and these lead nowhere. -/
structure Intact (chunks : ModelChunks) (graph : ChunkGraph) : Prop where
  root : ∃ node, graph.node? chunks.root = some node ∧ node.children = chunks.inOrder ∧ node.proxy = none
  leaves : ∀ id ∈ chunks.inOrder, ∃ node, graph.node? id = some node ∧ node.children = [] ∧ node.proxy = none

/-- The root takes part in nothing, and the chunks below it have code. -/
structure Capped (chunks : ModelChunks) (graph : ChunkGraph) : Prop where
  root : graph.Bears chunks.root .none
  code : ∀ id ∈ chunks.inOrder, ∃ caps, graph.Bears id caps ∧ caps.code = true

variable {chunks : ModelChunks} {graph before after : ChunkGraph}

theorem Capped.persists (capped : chunks.Capped before) (persists : ChunkGraph.Persists before after) :
    chunks.Capped after where
  root := persists.bears capped.root
  code id member := by
    obtain ⟨caps, bears, code⟩ := capped.code id member
    exact ⟨caps, persists.bears bears, code⟩

theorem Intact.framed (intact : chunks.Intact before) (framed : ChunkGraph.Framed before after) :
    chunks.Intact after where
  root := by
    obtain ⟨node, found, children, proxy⟩ := intact.root
    obtain ⟨new, held, same⟩ := framed.found found
    obtain ⟨-, same⟩ := Prod.mk.inj same
    obtain ⟨sameChildren, sameProxy⟩ := Prod.mk.inj same
    exact ⟨new, held, sameChildren.trans children, sameProxy.trans proxy⟩
  leaves id member := by
    obtain ⟨node, found, children, proxy⟩ := intact.leaves id member
    obtain ⟨new, held, same⟩ := framed.found found
    obtain ⟨-, same⟩ := Prod.mk.inj same
    obtain ⟨sameChildren, sameProxy⟩ := Prod.mk.inj same
    exact ⟨new, held, sameChildren.trans children, sameProxy.trans proxy⟩

theorem Intact.of_nodes (intact : chunks.Intact before) (nodes : after.nodes = before.nodes) : chunks.Intact after :=
  intact.framed ⟨fun _ issued => nodes ▸ issued, fun id => by rw [ChunkGraph.node?, nodes]; rfl⟩

/-- The pool and the buckets take part in code and in setup. -/
structure Uploading (chunks : ModelChunks) (graph : ChunkGraph) : Prop where
  shadows : graph.Bears chunks.shadows ⟨true, true⟩
  buckets : ∀ type, graph.Bears (chunks.bucket type) ⟨true, true⟩

theorem Uploading.persists (uploading : chunks.Uploading before) (persists : ChunkGraph.Persists before after) :
    chunks.Uploading after :=
  ⟨persists.bears uploading.shadows, fun type => persists.bears (uploading.buckets type)⟩

/-- A traversal from the root lists the chunks of the model in their order, and then the root. -/
theorem Intact.actives (intact : chunks.Intact graph) (wellFormed : graph.WellFormed) :
    (graph.flattenAll [chunks.root]).actives = chunks.inOrder ++ [chunks.root] := by
  have acyclic := wellFormed.acyclic
  obtain ⟨root, found, children, proxy⟩ := intact.root
  have below : (chunks.inOrder.map graph.flatten).flatMap (·.actives) = chunks.inOrder := by
    have leaf : ∀ id ∈ chunks.inOrder, (graph.flatten id).actives = [id] := by
      intro id member
      obtain ⟨node, held, children, proxy⟩ := intact.leaves id member
      simp [acyclic.flatten_of_behaving held proxy, children, Flattening.join]
    rw [List.flatMap_map, List.flatMap_congr leaf, List.flatMap_singleton']
  have nodup : (chunks.inOrder ++ [chunks.root]).Nodup := by
    have edges : ∀ id ∈ chunks.inOrder, id ≠ chunks.root := by
      rintro _ member rfl
      exact acyclic _ (.single (ChunkGraph.edge_iff.2 ⟨root, found, .inr (children ▸ member)⟩))
    have once : chunks.inOrder.Nodup := children ▸ wellFormed.nodup _ root found
    exact List.nodup_append.2 ⟨once, by simp, by simpa using edges⟩
  simp only [ChunkGraph.flattenAll, Flattening.join, Flattening.distinct, List.map_cons, List.map_nil,
    List.flatMap_cons, List.flatMap_nil, List.append_nil, acyclic.flatten_of_behaving found proxy, children, below]
  exact eraseDups_of_nodup nodup

/-- The code below the root is that of the chunks of the model. -/
theorem Intact.codeBelow (intact : chunks.Intact graph) (capped : chunks.Capped graph) (wellFormed : graph.WellFormed) :
    graph.codeBelow [chunks.root] = chunks.inOrder.filterMap graph.chunk? := by
  obtain ⟨root, found, -, -⟩ := intact.root
  have idle : root.caps.code = false := by rw [capped.root.caps root found]; rfl
  have active : ∀ id ∈ chunks.inOrder, (graph.node? id).filter (·.caps.code) = graph.node? id := by
    intro id member
    obtain ⟨node, held, -, -⟩ := intact.leaves id member
    obtain ⟨caps, bears, code⟩ := capped.code id member
    rw [held, Option.filter_some, if_pos (by rw [bears.caps node held]; exact code)]
  have kept : (chunks.inOrder.filterMap graph.node?).filter (·.caps.code) = chunks.inOrder.filterMap graph.node? := by
    rw [List.filter_filterMap]
    exact List.filterMap_congr active
  rw [ChunkGraph.codeBelow, intact.actives wellFormed, ChunkGraph.nodesOf, List.filterMap_append, List.filter_append,
    kept]
  simp only [List.filterMap_cons, found, List.filterMap_nil, List.filter_cons, idle, List.filter_nil,
    Bool.false_eq_true, if_false, List.append_nil, List.map_filterMap]
  rfl

/-- A collection of the root generates the code of the chunks of the model. -/
theorem Intact.generate_eq (intact : chunks.Intact graph) (capped : chunks.Capped graph) (sound : graph.Sound)
    {collection : CollectionId} {found : ChunkCollection} (live : graph.collection? collection = some found)
    (roots : found.roots = [chunks.root]) :
    (graph.collectionGenerate collection).1 = Chunk.render (chunks.inOrder.filterMap graph.chunk?) := by
  rw [sound.collectionGenerate_eq live, ChunkGraph.generateAll_upToDate, roots,
    intact.codeBelow capped sound.wellFormed]

end ModelChunks

/-! ## New models -/

namespace LightModel

private theorem firstChunks_code (settings : LightModelSettings) (filter depth : Choice) :
    ∀ chunk ∈ (firstChunks settings filter depth).tail, chunk.caps.code = true := by
  simp [firstChunks, LightType.all, Chunk.caps]

/-- The root of a new model leads to its chunks. -/
theorem new_intact (graph : ChunkGraph) (settings : LightModelSettings) :
    ∃ model, (new graph settings).1 = .ok model ∧ model.chunks.Intact (new graph settings).2 ∧
      model.chunks.Capped (new graph settings).2 := by
  obtain ⟨chunks, filter, depth, filtered, formatted, keys, made⟩ := new_eq graph settings
  obtain ⟨nodup, nodes, -, -⟩ := graph.insertAll_spec (firstChunks settings filter depth)
  rw [← keys] at nodup nodes
  obtain ⟨stored, rest⟩ := List.forall₂_cons.1 (show List.Forall₂ _ (_ :: _) (_ :: _) from nodes)
  have linked : ((graph.insertAll (firstChunks settings filter depth)).2.addChildren chunks.root chunks.inOrder).1 =
      .ok () := by
    refine ChunkGraph.addChildren_eq_ok stored nodup ?_ (by simp [ChunkNode.ofChunk])
    intro child member
    obtain ⟨chunk, -, live⟩ := exists_of_forall₂ rest member
    exact ⟨_, live, rfl, rfl⟩
  have root := ChunkGraph.node?_addChildren_self stored linked
  have leaves : ∀ id ∈ chunks.inOrder, ∃ chunk ∈ (firstChunks settings filter depth).tail,
      ((graph.insertAll (firstChunks settings filter depth)).2.addChildren chunks.root chunks.inOrder).2.node? id =
        some (.ofChunk chunk) := by
    intro id member
    obtain ⟨chunk, isFirst, held⟩ := exists_of_forall₂ rest member
    have apart : id ≠ chunks.root := fun same => (List.nodup_cons.1 nodup).1 (same ▸ member)
    exact ⟨chunk, isFirst, (ChunkGraph.node?_addChildren_of_ne apart _).trans held⟩
  rw [made]
  refine ⟨_, rfl, ⟨⟨_, root, rfl, rfl⟩, fun id member => ?_⟩, ⟨.of_found root, fun id member => ?_⟩⟩
  · obtain ⟨chunk, -, held⟩ := leaves id member
    exact ⟨_, held, rfl, rfl⟩
  · obtain ⟨chunk, isFirst, held⟩ := leaves id member
    exact ⟨_, .of_found held, firstChunks_code settings filter depth chunk isFirst⟩

theorem new_uploading {graph : ChunkGraph} {settings : LightModelSettings} {model : LightModel}
    (made : (new graph settings).1 = .ok model) : model.chunks.Uploading (new graph settings).2 := by
  obtain ⟨other, filter, depth, made', leaves⟩ := new_leaves graph settings
  obtain rfl : other = model := Except.ok.inj (made'.symm.trans made)
  simp only [ModelChunks.inOrder, firstChunks, ModelChunks.buckets, LightType.all, List.map_cons, List.map_nil,
    List.cons_append, List.nil_append, List.tail_cons, List.forall₂_cons] at leaves
  obtain ⟨-, -, -, pool, -, directional, spot, point, ibl, -⟩ := leaves
  refine ⟨.of_found pool, fun type => ?_⟩
  cases type with
  | directional => exact .of_found directional
  | spot => exact .of_found spot
  | point => exact .of_found point
  | ibl => exact .of_found ibl

end LightModel

/-! ## New models without search -/

namespace ChunkGraph

/-- Appends a child without asking whether it may be one. -/
def link (graph : ChunkGraph) (parent child : ChunkId) : ChunkGraph :=
  (graph.modifyNode parent fun node => { node with children := node.children ++ [child] }).invalidateList parent

private theorem addChild_eq_link {graph : ChunkGraph} {parent child : ChunkId}
    (linked : (graph.addChild parent child).1 = .ok ()) : graph.addChild parent child = (.ok (), graph.link parent child) := by
  unfold addChild at linked ⊢
  split
  · simp_all
  · simp_all
  · split
    · simp_all
    · split
      · simp_all
      · rfl

/-- Where linking succeeds, nothing was found that forbids it. -/
theorem addChildren_eq_link {graph : ChunkGraph} {parent : ChunkId} {children : List ChunkId}
    (linked : (graph.addChildren parent children).1 = .ok ()) :
    graph.addChildren parent children = (.ok (), children.foldl (fun graph child => graph.link parent child) graph) := by
  induction children generalizing graph with
  | nil => rfl
  | cons child rest ih =>
    unfold addChildren at linked ⊢
    split at linked
    · next next first =>
      have here := addChild_eq_link (congrArg Prod.fst first)
      rw [first] at here
      obtain ⟨-, rfl⟩ := Prod.mk.inj here
      exact ih linked
    · next failed => exact absurd (Prod.ext linked rfl : graph.addChild parent child = (.ok (), _)) (failed _)

end ChunkGraph

namespace LightModel

/-- A model without lights, made without looking for cycles. -/
def assemble (graph : ChunkGraph) (settings : LightModelSettings) : Outcome ChunkGraph LightModel :=
  match filterChoice settings, depthChoice with
  | .error cause, _ => (.error cause, graph)
  | _, .error cause => (.error cause, graph)
  | .ok filter, .ok depth =>
    let (chunks, graph) := insertChunks graph settings filter depth
    (.ok { settings, chunks }, chunks.inOrder.foldl (fun graph child => graph.link chunks.root child) graph)

/-- The chunks of a new model never close a cycle. -/
theorem new_eq_assemble (graph : ChunkGraph) (settings : LightModelSettings) :
    new graph settings = assemble graph settings := by
  obtain ⟨model, made, -⟩ := new_intact graph settings
  obtain ⟨filter, filtered, -⟩ := filterChoice_eq_ok settings
  obtain ⟨depth, formatted, -⟩ := depthChoice_eq_ok
  simp only [new, assemble, filtered, formatted] at made ⊢
  split at made
  · next linked =>
    obtain ⟨-, rfl⟩ := Prod.mk.inj (linked.symm.trans (ChunkGraph.addChildren_eq_link (congrArg Prod.fst linked)))
    rfl
  · cases made

end LightModel

end ShaderWeave
