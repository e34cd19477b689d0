import Mathlib.Logic.Relation
import ShaderWeave.Graph

/-! # Paths of the chunk graph

The edges of a graph lead from live chunks to their proxy targets and children. The search behind cycle checks
decides whether there is a path, and in a graph without cycles every chunk reaches more live chunks than any
chunk that it leads to, which makes edges well-founded.
-/

namespace ShaderWeave.ChunkGraph

open Relation

/-- The children of a proxied chunk count as well. -/
def Edge (graph : ChunkGraph) (source target : ChunkId) : Prop := target ∈ graph.successors source

/-- No path of one edge or more leads back to where it starts. -/
def Acyclic (graph : ChunkGraph) : Prop := ∀ id, ¬ TransGen graph.Edge id id

variable {graph : ChunkGraph}

theorem edge_iff {source target : ChunkId} :
    graph.Edge source target ↔
      ∃ node, graph.node? source = some node ∧ (node.proxy = some target ∨ target ∈ node.children) := by
  cases found : graph.node? source with
  | none => simp [Edge, successors, found]
  | some node => simp [Edge, successors, found, Option.mem_toList]

theorem Edge.live {source target : ChunkId} (edge : graph.Edge source target) :
    (graph.node? source).isSome := by
  obtain ⟨node, found, -⟩ := edge_iff.1 edge
  simp [found]

/-! ## The search -/

/-- Whether a path leads to `needle` whose other chunks are all unvisited. -/
inductive LeadsTo (graph : ChunkGraph) (needle : ChunkId) (visited : List ChunkId) : ChunkId → Prop where
  | here : LeadsTo graph needle visited needle
  | step {id next : ChunkId} : id ∉ visited → graph.Edge id next → LeadsTo graph needle visited next →
      LeadsTo graph needle visited id

theorem LeadsTo.of_cons {needle id start : ChunkId} {visited : List ChunkId}
    (leads : graph.LeadsTo needle (id :: visited) start) : graph.LeadsTo needle visited start := by
  induction leads with
  | here => exact .here
  | step fresh edge _ ih => exact .step (fun member => fresh (List.mem_cons_of_mem _ member)) edge ih

/-- A path either avoids a chunk or has a part behind it that does. -/
theorem LeadsTo.avoid {needle start : ChunkId} {visited : List ChunkId} (id : ChunkId)
    (leads : graph.LeadsTo needle visited start) :
    graph.LeadsTo needle (id :: visited) start ∨
      ∃ next, graph.Edge id next ∧ graph.LeadsTo needle (id :: visited) next := by
  induction leads with
  | here => exact .inl .here
  | @step source next fresh edge _ ih =>
    rcases ih with avoids | later
    · by_cases same : source = id
      · exact .inr ⟨next, same ▸ edge, avoids⟩
      · exact .inl (.step (by simp [same, fresh]) edge avoids)
    · exact .inr later

theorem not_leadsTo_of_mem {needle id : ChunkId} {visited : List ChunkId} (member : id ∈ visited)
    (other : id ≠ needle) : ¬ graph.LeadsTo needle visited id := by
  intro leads
  cases leads with
  | here => exact other rfl
  | step fresh _ _ => exact fresh member

/-- A chunk on top of the stack that was visited leads to nothing new. -/
theorem leadsTo_skip {needle id : ChunkId} {visited stack : List ChunkId} (other : id ≠ needle) (known : id ∈ visited) :
    (∃ start ∈ stack, graph.LeadsTo needle visited start) ↔
      ∃ start ∈ id :: stack, graph.LeadsTo needle visited start := by
  constructor
  · rintro ⟨start, waiting, leads⟩
    exact ⟨start, List.mem_cons_of_mem _ waiting, leads⟩
  · rintro ⟨start, member, leads⟩
    rcases List.mem_cons.1 member with rfl | waiting
    · exact absurd leads (not_leadsTo_of_mem known other)
    · exact ⟨start, waiting, leads⟩

/-- A chunk on top of the stack gives way to the chunks it leads to, in whatever order. -/
theorem leadsTo_expand {needle id : ChunkId} {visited stack next : List ChunkId}
    (other : id ≠ needle) (fresh : id ∉ visited) (successors : next.Perm (graph.successors id)) :
    (∃ start ∈ next ++ stack, graph.LeadsTo needle (id :: visited) start) ↔
      ∃ start ∈ id :: stack, graph.LeadsTo needle visited start := by
  constructor
  · rintro ⟨start, member, leads⟩
    rcases List.mem_append.1 member with after | waiting
    · have edge : graph.Edge id start := successors.mem_iff.1 after
      exact ⟨id, List.mem_cons_self .., .step fresh edge leads.of_cons⟩
    · exact ⟨start, List.mem_cons_of_mem _ waiting, leads.of_cons⟩
  · rintro ⟨start, member, leads⟩
    rcases leads.avoid id with avoids | ⟨after, edge, leads⟩
    · rcases List.mem_cons.1 member with rfl | waiting
      · exact absurd avoids (not_leadsTo_of_mem (List.mem_cons_self ..) other)
      · exact ⟨start, List.mem_append_right _ waiting, avoids⟩
    · exact ⟨after, List.mem_append_left _ (successors.mem_iff.2 edge), leads⟩

theorem search_eq_true_iff (needle : ChunkId) (visited stack : List ChunkId) :
    graph.search needle visited stack = true ↔ ∃ start ∈ stack, graph.LeadsTo needle visited start := by
  fun_induction search graph needle visited stack with
  | case1 => simp
  | case2 visited stack => exact iff_of_true rfl ⟨_, List.mem_cons_self .., .here⟩
  | case3 visited id stack other known ih => rw [ih, leadsTo_skip other known]
  | case4 visited id stack other fresh gone ih =>
    rw [ih, ← leadsTo_expand other fresh (.of_eq (show [] = graph.successors id by simp [successors, gone]))]
    simp
  | case5 visited id stack other fresh node found ih =>
    rw [ih, ← leadsTo_expand other fresh
      (.of_eq (show node.proxy.toList ++ node.children = graph.successors id by simp [successors, found]))]

theorem leadsTo_nil_iff {needle start : ChunkId} :
    graph.LeadsTo needle [] start ↔ ReflTransGen graph.Edge start needle := by
  constructor
  · intro leads
    induction leads with
    | here => exact .refl
    | step _ edge _ ih => exact .head edge ih
  · intro path
    induction path using ReflTransGen.head_induction_on with
    | refl => exact .here
    | head edge _ ih => exact .step (List.not_mem_nil) edge ih

/-- The search finds a path exactly if there is one. -/
theorem reaches_iff (root needle : ChunkId) :
    graph.reaches root needle = true ↔ ReflTransGen graph.Edge root needle := by
  rw [reaches, search_eq_true_iff, ← leadsTo_nil_iff]
  simp

theorem reaches_eq_false_iff (root needle : ChunkId) :
    graph.reaches root needle = false ↔ ¬ ReflTransGen graph.Edge root needle := by
  rw [← reaches_iff, Bool.not_eq_true]

/-! ## Graphs without cycles -/

/-- A path over old edges and one new edge either needs only old ones, or reaches the new edge and goes on behind it. -/
private theorem split_at_edge {before after : ChunkGraph} {source target first last : ChunkId}
    (edges : ∀ a b, after.Edge a b → before.Edge a b ∨ a = source ∧ b = target)
    (apart : ¬ ReflTransGen before.Edge target source) (path : TransGen after.Edge first last) :
    TransGen before.Edge first last ∨
      ReflTransGen before.Edge first source ∧ ReflTransGen before.Edge target last := by
  induction path with
  | single edge =>
    rcases edges _ _ edge with old | ⟨rfl, rfl⟩
    · exact .inl (.single old)
    · exact .inr ⟨.refl, .refl⟩
  | tail _ edge ih =>
    rcases ih with path | ⟨toSource, fromTarget⟩
    · rcases edges _ _ edge with old | ⟨rfl, rfl⟩
      · exact .inl (.tail path old)
      · exact .inr ⟨path.to_reflTransGen, .refl⟩
    · rcases edges _ _ edge with old | ⟨rfl, rfl⟩
      · exact .inr ⟨toSource, .tail fromTarget old⟩
      · exact absurd fromTarget apart

/-- An edge whose end does not lead back to its start closes no cycle. -/
theorem Acyclic.of_edge {before after : ChunkGraph} (acyclic : before.Acyclic) (source target : ChunkId)
    (edges : ∀ a b, after.Edge a b → before.Edge a b ∨ a = source ∧ b = target)
    (apart : ¬ ReflTransGen before.Edge target source) : after.Acyclic := by
  intro id cycle
  rcases split_at_edge edges apart cycle with old | ⟨toSource, fromTarget⟩
  · exact acyclic id old
  · exact apart (fromTarget.trans toSource)

theorem Acyclic.of_subset {before after : ChunkGraph} (acyclic : before.Acyclic)
    (edges : ∀ a b, after.Edge a b → before.Edge a b) : after.Acyclic :=
  fun id cycle => acyclic id (TransGen.mono edges id id cycle)

/-- The live chunks that a chunk reaches, itself included. -/
def reach (graph : ChunkGraph) (id : ChunkId) : List ChunkId := graph.nodes.keys.filter (graph.reaches id)

theorem length_reach_le (graph : ChunkGraph) (id : ChunkId) : (graph.reach id).length ≤ graph.size := by
  have keys : graph.nodes.keys.length = graph.size := by simp [Arena.keys, size, Arena.size]
  exact keys ▸ List.length_filter_le ..

theorem length_reach_pos {id : ChunkId} (live : (graph.node? id).isSome) : 0 < (graph.reach id).length := by
  have member : id ∈ graph.reach id :=
    List.mem_filter.2 ⟨(Arena.mem_keys_iff _ _).2 live, (reaches_iff id id).2 .refl⟩
  exact List.length_pos_of_mem member

theorem Acyclic.reach_lt (acyclic : graph.Acyclic) {id next : ChunkId} (edge : graph.Edge id next) :
    (graph.reach next).length < (graph.reach id).length := by
  have member : id ∈ graph.nodes.keys := (Arena.mem_keys_iff _ _).2 edge.live
  refine length_filter_lt ?_ member ((reaches_iff id id).2 .refl) ?_
  · intro other reached
    exact (reaches_iff id other).2 (.head edge ((reaches_iff next other).1 reached))
  · exact (reaches_eq_false_iff next id).2 fun back => acyclic id (.head' edge back)

/-- In a graph without cycles, what holds of a chunk whenever it holds of all chunks it leads to holds of all. -/
theorem Acyclic.induction (acyclic : graph.Acyclic) {motive : ChunkId → Prop}
    (step : ∀ id, (∀ next, graph.Edge id next → motive next) → motive id) (id : ChunkId) : motive id :=
  (measure fun id => (graph.reach id).length).wf.induction id fun id ih =>
    step id fun next edge => ih next (acyclic.reach_lt edge)

end ShaderWeave.ChunkGraph
