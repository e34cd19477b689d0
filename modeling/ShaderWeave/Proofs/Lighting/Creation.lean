import Mathlib.Data.List.Forall2
import ShaderWeave.Proofs.Graph.Chunks
import ShaderWeave.Proofs.Graph.Reachability

/-! # Creating light models

A new model takes keys that were never live together before, and nothing can go wrong when its chunks are linked: a
chunk that leads nowhere closes no cycle.
-/

namespace ShaderWeave

namespace ChunkGraph

open Relation

variable {graph : ChunkGraph}

/-! ## Several new chunks -/

/-- Inserts chunks one after the other. -/
def insertAll (graph : ChunkGraph) : List Chunk → List ChunkId × ChunkGraph
  | [] => ([], graph)
  | chunk :: rest =>
    let (id, graph) := graph.insert chunk
    let (ids, graph) := graph.insertAll rest
    (id :: ids, graph)

/-- New keys name nothing before, and are told apart. -/
theorem insertAll_spec (graph : ChunkGraph) (chunks : List Chunk) :
    (graph.insertAll chunks).1.Nodup ∧
      List.Forall₂ (fun id chunk => (graph.insertAll chunks).2.node? id = some (.ofChunk chunk))
        (graph.insertAll chunks).1 chunks ∧
      (∀ id ∈ (graph.insertAll chunks).1, graph.node? id = none) ∧
      ∀ id, id ∉ (graph.insertAll chunks).1 → (graph.insertAll chunks).2.node? id = graph.node? id := by
  induction chunks generalizing graph with
  | nil => simp [insertAll]
  | cons chunk rest ih =>
    obtain ⟨nodup, nodes, fresh, others⟩ := ih (graph.insert chunk).2
    have key := graph.node?_insert_key chunk
    have stored : (graph.insert chunk).2.node? (graph.insert chunk).1 = some (.ofChunk chunk) := by
      rw [node?_insert, if_pos rfl]
    have new : (graph.insert chunk).1 ∉ ((graph.insert chunk).2.insertAll rest).1 := fun member => by
      simp [fresh _ member] at stored
    refine ⟨List.nodup_cons.2 ⟨new, nodup⟩, .cons ?_ nodes, ?_, ?_⟩
    · exact (others _ new).trans stored
    · intro id member
      rcases List.mem_cons.1 member with rfl | later
      · exact key
      · have gone := fresh id later
        rw [node?_insert] at gone
        split at gone
        · simp at gone
        · exact gone
    · intro id absent
      obtain ⟨apart, absent⟩ : id ≠ (graph.insert chunk).1 ∧ id ∉ ((graph.insert chunk).2.insertAll rest).1 := by
        simpa [insertAll] using absent
      exact (others id absent).trans (by rw [node?_insert, if_neg apart])

/-- What a new chunk keeps of a graph, several new chunks keep. -/
theorem insertAll_keeps {keeps : ChunkGraph → ChunkGraph → Prop} (refl : ∀ graph, keeps graph graph)
    (trans : ∀ {first second third}, keeps first second → keeps second third → keeps first third)
    (step : ∀ graph chunk, keeps graph (graph.insert chunk).2) (graph : ChunkGraph) (chunks : List Chunk) :
    keeps graph (graph.insertAll chunks).2 := by
  induction chunks generalizing graph with
  | nil => exact refl graph
  | cons chunk rest ih => exact trans (step graph chunk) (ih (graph.insert chunk).2)

/-! ## Linking -/

/-- A chunk without edges reaches itself only. -/
theorem reaches_eq_false_of_leaf {id other : ChunkId} {node : ChunkNode} (found : graph.node? id = some node)
    (children : node.children = []) (proxy : node.proxy = none) (apart : id ≠ other) :
    graph.reaches id other = false := by
  rw [reaches_eq_false_iff]
  intro path
  rcases ReflTransGen.cases_head path with same | ⟨next, edge, -⟩
  · exact apart same
  · obtain ⟨node', found', leads⟩ := edge_iff.1 edge
    cases found.symm.trans found'
    simp [children, proxy] at leads

/-- Leaves that are no children of a live chunk yet can all become its children. -/
theorem addChildren_eq_ok {parent : ChunkId} {children : List ChunkId} {node : ChunkNode}
    (found : graph.node? parent = some node) (nodup : (parent :: children).Nodup)
    (leaves : ∀ child ∈ children, ∃ leaf, graph.node? child = some leaf ∧ leaf.children = [] ∧ leaf.proxy = none)
    (new : ∀ child ∈ children, child ∉ node.children) : (graph.addChildren parent children).1 = .ok () := by
  induction children generalizing graph node with
  | nil => rfl
  | cons child rest ih =>
    obtain ⟨leaf, live, noChildren, noProxy⟩ := leaves child (List.mem_cons_self ..)
    have parts := nodup
    simp only [List.nodup_cons, List.mem_cons, not_or] at parts
    obtain ⟨⟨apart, parentAbsent⟩, childAbsent, restNodup⟩ := parts
    have safe := reaches_eq_false_of_leaf live noChildren noProxy (Ne.symm apart)
    have linked : graph.addChild parent child =
        (.ok (), (graph.modifyNode parent fun node =>
          { node with children := node.children ++ [child] }).invalidateList parent) := by
      simp [addChild, live, found, new child (List.mem_cons_self ..), safe]
    rw [addChildren, linked]
    have stored : ((graph.modifyNode parent fun node =>
        { node with children := node.children ++ [child] }).invalidateList parent).node? parent =
          some { node with children := node.children ++ [child] } := by
      simp [found]
    apply ih stored (List.nodup_cons.2 ⟨parentAbsent, restNodup⟩)
    · intro other member
      obtain ⟨leaf, held, rest⟩ := leaves other (List.mem_cons_of_mem _ member)
      refine ⟨leaf, ?_, rest⟩
      have away : other ≠ parent := ne_of_mem_of_not_mem member parentAbsent
      simp [away, held]
    · intro other member
      have old := new other (List.mem_cons_of_mem _ member)
      have away : other ≠ child := ne_of_mem_of_not_mem member childAbsent
      simp [old, away]

/-- Linking changes the node of the parent only. -/
theorem node?_addChild_of_ne {parent child id : ChunkId} (apart : id ≠ parent) :
    (graph.addChild parent child).2.node? id = graph.node? id := by
  rcases graph.addChild_cases parent child with same | ⟨-, -, -, -, -, same⟩
  · rw [same]
  · simp [same, apart]

theorem node?_addChildren_of_ne {parent id : ChunkId} (apart : id ≠ parent) (children : List ChunkId) :
    (graph.addChildren parent children).2.node? id = graph.node? id := by
  let keeps (before after : ChunkGraph) : Prop := after.node? id = before.node? id
  exact graph.addChildren_keeps (show ∀ graph, keeps graph graph from fun _ => rfl)
    (fun first second => second.trans first) (fun _ _ => node?_addChild_of_ne apart) children

end ChunkGraph

namespace LightModel

variable {graph : ChunkGraph} {settings : LightModelSettings}

theorem filterChoice_eq_ok (settings : LightModelSettings) :
    ∃ choice, filterChoice settings = .ok choice ∧ choice.name = "shadowFilter" ∧
      choice.variants = ShadowFiltering.variants := by
  cases filtering : settings.shadowFiltering <;>
    exact ⟨_, by rw [filterChoice, filtering]; rfl, rfl, rfl⟩

theorem depthChoice_eq_ok :
    ∃ choice, depthChoice = .ok choice ∧ choice.name = "depthFormat" ∧ choice.variants = DepthFormat.variants :=
  ⟨_, rfl, rfl, rfl⟩

/-- The states of the chunks of a new model. -/
def firstChunks (settings : LightModelSettings) (filter depth : Choice) : List Chunk :=
  [.group, .flag ⟨"iblShadowing", settings.iblShadowing⟩, .choice filter, .choice depth,
    .shadowPool (poolOf settings), .stencil ⟨LightBucket.lightsSlot, "lights/pre-light-setup"⟩] ++
    LightType.all.map (fun type => .lightBucket (.new type)) ++
    [.stencil ⟨LightBucket.lightsSlot, "lights/post-light-setup"⟩]

theorem insertChunks_eq (graph : ChunkGraph) (settings : LightModelSettings) (filter depth : Choice) :
    (insertChunks graph settings filter depth).1.root :: (insertChunks graph settings filter depth).1.inOrder =
        (graph.insertAll (firstChunks settings filter depth)).1 ∧
      (insertChunks graph settings filter depth).2 = (graph.insertAll (firstChunks settings filter depth)).2 :=
  ⟨rfl, rfl⟩

theorem exists_of_forall₂ {α β : Type} {relation : α → β → Prop} {xs : List α} {ys : List β}
    (related : List.Forall₂ relation xs ys) {x : α} (member : x ∈ xs) : ∃ y ∈ ys, relation x y := by
  induction related with
  | nil => simp at member
  | cons first _ ih =>
    rcases List.mem_cons.1 member with rfl | later
    · exact ⟨_, List.mem_cons_self .., first⟩
    · obtain ⟨y, isLater, found⟩ := ih later
      exact ⟨y, List.mem_cons_of_mem _ isLater, found⟩

/-- A new model is always made: all chunks are inserted, and then linked to the root. -/
theorem new_eq (graph : ChunkGraph) (settings : LightModelSettings) :
    ∃ chunks filter depth, filterChoice settings = .ok filter ∧ depthChoice = .ok depth ∧
      chunks.root :: chunks.inOrder = (graph.insertAll (firstChunks settings filter depth)).1 ∧
      new graph settings = (.ok { settings, chunks },
        ((graph.insertAll (firstChunks settings filter depth)).2.addChildren chunks.root chunks.inOrder).2) := by
  obtain ⟨filter, filtered, -⟩ := filterChoice_eq_ok settings
  obtain ⟨depth, formatted, -⟩ := depthChoice_eq_ok
  obtain ⟨keys, after⟩ := insertChunks_eq graph settings filter depth
  obtain ⟨nodup, nodes, -, -⟩ := graph.insertAll_spec (firstChunks settings filter depth)
  refine ⟨(insertChunks graph settings filter depth).1, filter, depth, filtered, formatted, keys, ?_⟩
  rw [← keys] at nodup nodes
  rw [← after] at nodes ⊢
  obtain ⟨stored, rest⟩ := List.forall₂_cons.1 (show List.Forall₂ _ (_ :: _) (_ :: _) from nodes)
  have linked : ((insertChunks graph settings filter depth).2.addChildren
      (insertChunks graph settings filter depth).1.root (insertChunks graph settings filter depth).1.inOrder).1 =
        .ok () := by
    refine ChunkGraph.addChildren_eq_ok stored nodup ?_ (by simp [ChunkNode.ofChunk])
    intro child member
    obtain ⟨chunk, -, live⟩ := exists_of_forall₂ rest member
    exact ⟨_, live, rfl, rfl⟩
  rw [new, filtered, formatted]
  dsimp only
  split
  · next linking => rw [linking]
  · next failing =>
    rw [failing] at linked
    cases linked

/-- What new chunks and new children keep of a graph, a new model keeps. -/
theorem new_keeps {keeps : ChunkGraph → ChunkGraph → Prop} (refl : ∀ graph, keeps graph graph)
    (trans : ∀ {first second third}, keeps first second → keeps second third → keeps first third)
    (insert : ∀ graph chunk, keeps graph (graph.insert chunk).2)
    (addChild : ∀ graph parent child, keeps graph (graph.addChild parent child).2) (graph : ChunkGraph)
    (settings : LightModelSettings) : keeps graph (new graph settings).2 := by
  obtain ⟨chunks, filter, depth, -, -, -, made⟩ := new_eq graph settings
  rw [made]
  have inserted := ChunkGraph.insertAll_keeps refl trans insert graph (firstChunks settings filter depth)
  exact trans inserted (ChunkGraph.addChildren_keeps _ refl trans (fun graph => addChild graph chunks.root) _)

/-- The chunks of a new model are told apart, were not there before, and have their first states. -/
theorem new_spec (graph : ChunkGraph) (settings : LightModelSettings) :
    ∃ model filter depth, (new graph settings).1 = .ok model ∧ model.settings = settings ∧ model.lights = .empty ∧
      filterChoice settings = .ok filter ∧ depthChoice = .ok depth ∧
      (model.chunks.root :: model.chunks.inOrder).Nodup ∧
      List.Forall₂ (fun id chunk => (new graph settings).2.chunk? id = some chunk)
        (model.chunks.root :: model.chunks.inOrder) (firstChunks settings filter depth) := by
  obtain ⟨chunks, filter, depth, filtered, formatted, keys, made⟩ := new_eq graph settings
  obtain ⟨nodup, nodes, -, -⟩ := graph.insertAll_spec (firstChunks settings filter depth)
  rw [← keys] at nodup nodes
  rw [made]
  refine ⟨_, filter, depth, rfl, rfl, rfl, filtered, formatted, nodup, nodes.imp ?_⟩
  intro id chunk stored
  rw [ChunkGraph.chunk?_addChildren, ChunkGraph.chunk?, stored]
  rfl

/-- The first states of the chunks that an update reads. -/
theorem new_chunks {graph : ChunkGraph} {settings : LightModelSettings} {model : LightModel}
    (made : (new graph settings).1 = .ok model) :
    (∃ depth, depthChoice = .ok depth ∧
      (new graph settings).2.chunk? model.chunks.depthFormat = some (.choice depth)) ∧
      (new graph settings).2.chunk? model.chunks.shadows = some (.shadowPool (poolOf settings)) ∧
      ∀ type, (new graph settings).2.chunk? (model.chunks.bucket type) = some (.lightBucket (.new type)) := by
  obtain ⟨other, filter, depth, made', -, -, -, formatted, -, chunks⟩ := new_spec graph settings
  obtain rfl : other = model := Except.ok.inj (made'.symm.trans made)
  simp only [ModelChunks.inOrder, firstChunks, ModelChunks.buckets, LightType.all, List.map_cons, List.map_nil,
    List.cons_append, List.nil_append, List.forall₂_cons] at chunks
  obtain ⟨-, -, -, format, pool, -, directional, spot, point, ibl, -⟩ := chunks
  refine ⟨⟨depth, formatted, format⟩, pool, fun type => ?_⟩
  cases type with
  | directional => exact directional
  | spot => exact spot
  | point => exact point
  | ibl => exact ibl

/-- Below the root of a new model there are leaves only. -/
theorem new_leaves (graph : ChunkGraph) (settings : LightModelSettings) :
    ∃ model filter depth, (new graph settings).1 = .ok model ∧
      List.Forall₂ (fun id chunk => (new graph settings).2.node? id = some (.ofChunk chunk)) model.chunks.inOrder
        (firstChunks settings filter depth).tail := by
  obtain ⟨chunks, filter, depth, -, -, keys, made⟩ := new_eq graph settings
  obtain ⟨nodup, nodes, -, -⟩ := graph.insertAll_spec (firstChunks settings filter depth)
  rw [← keys] at nodup nodes
  rw [made]
  refine ⟨_, filter, depth, rfl, ?_⟩
  have later := (List.forall₂_cons.1 (show List.Forall₂ _ (_ :: _) (_ :: _) from nodes)).2
  have apart : ∀ id ∈ chunks.inOrder, id ≠ chunks.root := fun id member same =>
    (List.nodup_cons.1 nodup).1 (same ▸ member)
  apply ((List.forall₂_and_left _ _).2 ⟨apart, later⟩).imp
  intro id chunk held
  exact (ChunkGraph.node?_addChildren_of_ne held.1 _).trans held.2

end LightModel

end ShaderWeave
