import Mathlib.Data.List.Induction
import ShaderWeave.Proofs.Graph.WellFormed

/-! # The order of traversals

A traversal goes on from a proxied chunk to its target only, and from any other chunk to its children. It comes to
every chunk that is reached this way, and lists a chunk that behaves behind all that are reached from it, wherever
these were met first. Dropping repetitions keeps what came first.
-/

namespace ShaderWeave

/-! ## First visits -/

/-- The list names what a walk comes to, each once, in the order in which the walk first comes to it. -/
structure FirstVisits {α : Type} [BEq α] (walk list : List α) : Prop where
  nodup : list.Nodup
  mem_iff : ∀ item, item ∈ list ↔ item ∈ walk
  order : ∀ first ∈ list, ∀ second ∈ list, list.idxOf first < list.idxOf second ↔ walk.idxOf first < walk.idxOf second

section
variable {α : Type} [BEq α] [LawfulBEq α] {walk list : List α}

/-- The walk goes on to an item that it was at before. -/
private theorem FirstVisits.concat_of_mem (visits : FirstVisits walk list) {item : α} (known : item ∈ walk) :
    FirstVisits (walk ++ [item]) list where
  nodup := visits.nodup
  mem_iff other := by
    rw [visits.mem_iff, List.mem_append, List.mem_singleton]
    exact ⟨.inl, fun member => member.elim id fun same => same ▸ known⟩
  order first member second member' := by
    rw [visits.order first member second member', List.idxOf_append_of_mem ((visits.mem_iff first).1 member),
      List.idxOf_append_of_mem ((visits.mem_iff second).1 member')]

/-- The walk comes to an item for the first time. -/
private theorem FirstVisits.concat_of_not_mem (visits : FirstVisits walk list) {item : α} (new : item ∉ walk) :
    FirstVisits (walk ++ [item]) (list ++ [item]) where
  nodup := by
    refine List.nodup_append.2 ⟨visits.nodup, List.nodup_singleton _, ?_⟩
    rintro other member _ single rfl
    exact new (List.mem_singleton.1 single ▸ (visits.mem_iff other).1 member)
  mem_iff other := by rw [List.mem_append, List.mem_append, visits.mem_iff]
  order first member second member' := by
    have unlisted : item ∉ list := fun member => new ((visits.mem_iff item).1 member)
    have old : ∀ other ∈ list, other ∈ walk := fun other => (visits.mem_iff other).1
    rcases List.mem_append.1 member with first_old | first_new <;>
      rcases List.mem_append.1 member' with second_old | second_new
    · rw [List.idxOf_append_of_mem first_old, List.idxOf_append_of_mem second_old,
        List.idxOf_append_of_mem (old first first_old), List.idxOf_append_of_mem (old second second_old)]
      exact visits.order first first_old second second_old
    · obtain rfl := List.mem_singleton.1 second_new
      rw [List.idxOf_append_of_mem first_old, List.idxOf_append_of_mem (old first first_old),
        List.idxOf_append_of_notMem unlisted, List.idxOf_append_of_notMem new]
      exact iff_of_true (Nat.lt_add_right _ (List.idxOf_lt_length_of_mem first_old))
        (Nat.lt_add_right _ (List.idxOf_lt_length_of_mem (old first first_old)))
    · obtain rfl := List.mem_singleton.1 first_new
      rw [List.idxOf_append_of_mem second_old, List.idxOf_append_of_mem (old second second_old),
        List.idxOf_append_of_notMem unlisted, List.idxOf_append_of_notMem new]
      have := List.idxOf_lt_length_of_mem second_old
      have := List.idxOf_lt_length_of_mem (old second second_old)
      omega
    · obtain rfl := List.mem_singleton.1 first_new
      obtain rfl := List.mem_singleton.1 second_new
      exact iff_of_false (Nat.lt_irrefl _) (Nat.lt_irrefl _)

/-- Dropping repetitions keeps the first visits. -/
theorem firstVisits_eraseDups (walk : List α) : FirstVisits walk walk.eraseDups := by
  induction walk using List.reverseRecOn with
  | nil => exact ⟨List.nodup_nil, by simp, by simp⟩
  | append_singleton walk item ih =>
    rw [List.eraseDups_append]
    by_cases known : item ∈ walk
    · have rest : ([item].removeAll walk).eraseDups = [] := by simp [List.removeAll, known]
      rw [rest, List.append_nil]
      exact ih.concat_of_mem known
    · have rest : ([item].removeAll walk).eraseDups = [item] := by
        simp [List.removeAll, known, List.eraseDups_cons]
      rw [rest]
      exact ih.concat_of_not_mem known

end

namespace ChunkGraph

open Relation

variable {graph : ChunkGraph}

/-! ## Where a traversal goes -/

/-- A traversal goes on from `source` to `target`. -/
inductive Enters (graph : ChunkGraph) (source target : ChunkId) : Prop where
  | proxied {node : ChunkNode} : graph.node? source = some node → node.proxy = some target → Enters graph source target
  | behaving {node : ChunkNode} : graph.node? source = some node → node.proxy = none → target ∈ node.children →
      Enters graph source target

theorem Enters.edge {source target : ChunkId} (enters : graph.Enters source target) : graph.Edge source target := by
  cases enters with
  | proxied found leads => exact edge_iff.2 ⟨_, found, .inl leads⟩
  | behaving found _ member => exact edge_iff.2 ⟨_, found, .inr member⟩

theorem enters_of_proxied {id target next : ChunkId} {node : ChunkNode} (found : graph.node? id = some node)
    (proxied : node.proxy = some target) : graph.Enters id next ↔ next = target := by
  constructor
  · intro enters
    cases enters with
    | proxied found' leads =>
      cases found.symm.trans found'
      exact Option.some.inj (leads.symm.trans proxied)
    | behaving found' unproxied _ =>
      cases found.symm.trans found'
      cases proxied.symm.trans unproxied
  · rintro rfl
    exact .proxied found proxied

theorem enters_of_behaving {id next : ChunkId} {node : ChunkNode} (found : graph.node? id = some node)
    (behaving : node.proxy = none) : graph.Enters id next ↔ next ∈ node.children := by
  constructor
  · intro enters
    cases enters with
    | proxied found' leads =>
      cases found.symm.trans found'
      cases behaving.symm.trans leads
    | behaving found' _ member =>
      cases found.symm.trans found'
      exact member
  · exact .behaving found behaving

theorem proxy_of_found {id : ChunkId} {node : ChunkNode} (found : graph.node? id = some node) :
    graph.proxy id = node.proxy := by
  simp [proxy, found]

/-! ## What a traversal comes to -/

/-- A traversal comes to exactly the chunks that are reached from its start. -/
theorem WellFormed.mem_flatten_all (wellFormed : graph.WellFormed) {id : ChunkId} (root : ChunkId) :
    (graph.node? root).isSome → (id ∈ (graph.flatten root).all ↔ ReflTransGen graph.Enters root id) := by
  induction root using wellFormed.acyclic.induction with
  | step root ih =>
    intro live
    have later : ∀ next, graph.Enters root next →
        (id ∈ (graph.flatten next).all ↔ ReflTransGen graph.Enters next id) := fun next enters =>
      ih next enters.edge (wellFormed.closed root next enters.edge)
    obtain ⟨node, found⟩ := Option.isSome_iff_exists.1 live
    rw [ReflTransGen.cases_head_iff, eq_comm]
    cases proxied : node.proxy with
    | some target =>
      have enters := (enters_of_proxied found proxied).2 (rfl : target = target)
      rw [wellFormed.acyclic.flatten_of_proxied found proxied, List.mem_cons, later target enters]
      refine or_congr Iff.rfl ⟨fun path => ⟨target, enters, path⟩, ?_⟩
      rintro ⟨next, enters', path⟩
      rwa [(enters_of_proxied found proxied).1 enters'] at path
    | none =>
      rw [wellFormed.acyclic.flatten_of_behaving found proxied, List.mem_cons]
      simp only [Flattening.join, List.flatMap_map, List.mem_flatMap]
      refine or_congr Iff.rfl (exists_congr fun next => ?_)
      rw [← enters_of_behaving found proxied]
      exact and_congr_right (later next)

/-- Of these, it lists those that behave. -/
theorem WellFormed.mem_flatten_actives (wellFormed : graph.WellFormed) {id : ChunkId} (root : ChunkId) :
    id ∈ (graph.flatten root).actives ↔ id ∈ (graph.flatten root).all ∧ graph.proxy id = none := by
  induction root using wellFormed.acyclic.induction with
  | step root ih =>
    cases found : graph.node? root with
    | none => simp [flatten_of_gone found]
    | some node =>
      cases proxied : node.proxy with
      | some target =>
        have away : graph.proxy root ≠ none := by simp [proxy_of_found found, proxied]
        rw [wellFormed.acyclic.flatten_of_proxied found proxied, List.mem_cons,
          ih target (edge_iff.2 ⟨node, found, .inl proxied⟩)]
        refine ⟨fun member => ⟨.inr member.1, member.2⟩, fun member => ⟨?_, member.2⟩⟩
        exact member.1.resolve_left fun here => away (here ▸ member.2)
      | none =>
        have here : graph.proxy root = none := (proxy_of_found found).trans proxied
        have below : ∀ child ∈ node.children,
            (id ∈ (graph.flatten child).actives ↔ id ∈ (graph.flatten child).all ∧ graph.proxy id = none) :=
          fun child member => ih child (edge_iff.2 ⟨node, found, .inr member⟩)
        rw [wellFormed.acyclic.flatten_of_behaving found proxied, List.mem_append, List.mem_singleton, List.mem_cons]
        simp only [Flattening.join, List.flatMap_map, List.mem_flatMap]
        constructor
        · rintro (⟨child, isChild, member⟩ | rfl)
          · obtain ⟨member, behaves⟩ := (below child isChild).1 member
            exact ⟨.inr ⟨child, isChild, member⟩, behaves⟩
          · exact ⟨.inl rfl, here⟩
        · rintro ⟨rfl | ⟨child, isChild, member⟩, behaves⟩
          · exact .inr rfl
          · exact .inl ⟨child, isChild, (below child isChild).2 ⟨member, behaves⟩⟩

/-! ## The order of active chunks -/

/-- The first visit to a chunk comes behind the first visits to all behaving chunks that are reached from it. -/
def Ordered (graph : ChunkGraph) (walk : List ChunkId) : Prop :=
  ∀ parent ∈ walk, ∀ below, TransGen graph.Enters parent below → graph.proxy below = none →
    walk.idxOf below < walk.idxOf parent

theorem ordered_nil : graph.Ordered [] := by
  intro parent member
  simp at member

/-- What comes later changes nothing in the order of what was met. -/
theorem Ordered.extended {walk : List ChunkId} (ordered : graph.Ordered walk) {parent below : ChunkId}
    (early : parent ∈ walk) (path : TransGen graph.Enters parent below) (behaves : graph.proxy below = none)
    (later : List ChunkId) : (walk ++ later).idxOf below < (walk ++ later).idxOf parent := by
  have less := ordered parent early below path behaves
  have met : below ∈ walk := List.idxOf_lt_length_iff.1 (Nat.lt_trans less (List.idxOf_lt_length_of_mem early))
  rwa [List.idxOf_append_of_mem early, List.idxOf_append_of_mem met]

theorem Ordered.append {first second : List ChunkId} (ordered : graph.Ordered first)
    (ordered' : graph.Ordered second) : graph.Ordered (first ++ second) := by
  intro parent member below path behaves
  by_cases early : parent ∈ first
  · exact ordered.extended early path behaves second
  · have late : parent ∈ second := (List.mem_append.1 member).resolve_left early
    have less := ordered' parent late below path behaves
    rw [List.idxOf_append_of_notMem early]
    by_cases met : below ∈ first
    · rw [List.idxOf_append_of_mem met]
      exact Nat.lt_add_right _ (List.idxOf_lt_length_of_mem met)
    · rw [List.idxOf_append_of_notMem met]
      exact Nat.add_lt_add_left less _

theorem Ordered.flatMap {α : Type} {parts : List α} {walk : α → List ChunkId}
    (ordered : ∀ part ∈ parts, graph.Ordered (walk part)) : graph.Ordered (parts.flatMap walk) := by
  induction parts with
  | nil => exact ordered_nil
  | cons part rest ih =>
    rw [List.flatMap_cons]
    exact (ordered part (List.mem_cons_self ..)).append (ih fun other member =>
      ordered other (List.mem_cons_of_mem _ member))

/-- A chunk may end a walk that came to all behaving chunks reached from it. -/
theorem Ordered.concat {walk : List ChunkId} (ordered : graph.Ordered walk) {id : ChunkId}
    (met : ∀ below, TransGen graph.Enters id below → graph.proxy below = none → below ∈ walk) :
    graph.Ordered (walk ++ [id]) := by
  intro parent member below path behaves
  by_cases early : parent ∈ walk
  · exact ordered.extended early path behaves [id]
  · obtain rfl : parent = id := List.mem_singleton.1 ((List.mem_append.1 member).resolve_left early)
    have known := met below path behaves
    rw [List.idxOf_append_of_mem known, List.idxOf_append_of_notMem early]
    exact Nat.lt_add_right _ (List.idxOf_lt_length_of_mem known)

theorem WellFormed.ordered_flatten (wellFormed : graph.WellFormed) (root : ChunkId) :
    graph.Ordered (graph.flatten root).actives := by
  induction root using wellFormed.acyclic.induction with
  | step root ih =>
    cases found : graph.node? root with
    | none =>
      rw [flatten_of_gone found]
      exact ordered_nil
    | some node =>
      cases proxied : node.proxy with
      | some target =>
        rw [wellFormed.acyclic.flatten_of_proxied found proxied]
        exact ih target (edge_iff.2 ⟨node, found, .inl proxied⟩)
      | none =>
        rw [wellFormed.acyclic.flatten_of_behaving found proxied]
        simp only [Flattening.join, List.flatMap_map]
        have ordered : graph.Ordered (node.children.flatMap fun child => (graph.flatten child).actives) :=
          .flatMap fun child member => ih child (edge_iff.2 ⟨node, found, .inr member⟩)
        refine ordered.concat fun below path behaves => ?_
        obtain ⟨child, enters, path⟩ := TransGen.head'_iff.1 path
        have live := wellFormed.closed root child enters.edge
        have member : child ∈ node.children := (enters_of_behaving found proxied).1 enters
        refine List.mem_flatMap.2 ⟨child, member, ?_⟩
        exact (wellFormed.mem_flatten_actives child).2 ⟨(wellFormed.mem_flatten_all child live).2 path, behaves⟩

/-! ## Traversals of several roots -/

/-- What the lists of a traversal say about the graph. -/
structure Emits (graph : ChunkGraph) (roots all actives : List ChunkId) : Prop where
  nodup_all : all.Nodup
  mem_all : ∀ id, id ∈ all ↔ ∃ root ∈ roots, ReflTransGen graph.Enters root id
  nodup_actives : actives.Nodup
  mem_actives : ∀ id, id ∈ actives ↔ id ∈ all ∧ graph.proxy id = none
  /-- Whatever behaves in the place of a child, or is reached from there, comes before the parent. -/
  children_first : ∀ parent ∈ actives, ∀ child ∈ graph.children parent, ∀ below ∈ actives,
    ReflTransGen graph.Enters child below → actives.idxOf below < actives.idxOf parent
  /-- The roots are walked one after the other, as deep as it goes, and with all repetitions. -/
  walked : ∃ walks, List.Forall₂ graph.Flattens roots walks ∧ FirstVisits (Flattening.join walks).all all ∧
    FirstVisits (Flattening.join walks).actives actives

theorem WellFormed.emits (wellFormed : graph.WellFormed) {roots : List ChunkId}
    (live : ∀ root ∈ roots, (graph.node? root).isSome) :
    graph.Emits roots (graph.flattenAll roots).all (graph.flattenAll roots).actives := by
  have visits : FirstVisits (Flattening.join (roots.map graph.flatten)).actives (graph.flattenAll roots).actives :=
    firstVisits_eraseDups _
  have visits' : FirstVisits (Flattening.join (roots.map graph.flatten)).all (graph.flattenAll roots).all :=
    firstVisits_eraseDups _
  refine ⟨visits'.nodup, ?_, visits.nodup, ?_, ?_, roots.map graph.flatten, ?_, visits', visits⟩
  · intro id
    rw [mem_flattenAll_all]
    exact exists_congr fun root => and_congr_right fun member => wellFormed.mem_flatten_all root (live root member)
  · intro id
    rw [mem_flattenAll_actives, mem_flattenAll_all]
    constructor
    · rintro ⟨root, isRoot, member⟩
      obtain ⟨member, behaves⟩ := (wellFormed.mem_flatten_actives root).1 member
      exact ⟨⟨root, isRoot, member⟩, behaves⟩
    · rintro ⟨⟨root, isRoot, member⟩, behaves⟩
      exact ⟨root, isRoot, (wellFormed.mem_flatten_actives root).2 ⟨member, behaves⟩⟩
  · intro parent member child isChild below member' path
    have ordered : graph.Ordered (Flattening.join (roots.map graph.flatten)).actives := by
      simp only [Flattening.join, List.flatMap_map]
      exact .flatMap fun root _ => wellFormed.ordered_flatten root
    have behaves : ∀ id ∈ (graph.flattenAll roots).actives, graph.proxy id = none := by
      intro id member
      obtain ⟨root, -, member⟩ := mem_flattenAll_actives.1 member
      exact ((wellFormed.mem_flatten_actives root).1 member).2
    have enters : graph.Enters parent child := by
      have unproxied := behaves parent member
      cases found : graph.node? parent with
      | none => simp [children, found] at isChild
      | some node =>
        rw [proxy_of_found found] at unproxied
        exact .behaving found unproxied (by simpa [children, found] using isChild)
    rw [visits.order below member' parent member]
    exact ordered parent ((visits.mem_iff parent).1 member) below (TransGen.head' enters path) (behaves below member')
  · rw [List.forall₂_map_right_iff, List.forall₂_same]
    exact fun root _ => wellFormed.acyclic.flattens root

end ChunkGraph

end ShaderWeave
