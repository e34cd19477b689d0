import Mathlib.Data.List.Chain
import ShaderWeave.Proofs.Arena
import ShaderWeave.Proofs.Graph.Reachability

/-! # Rounds of the search

The search for a chunk keeps a stack, on which a chunk may stand many times, and the chunks that it visited. Each of its
rounds takes one chunk from the stack, and a live chunk that was not visited puts all chunks that it leads to there. No
round changes what is found, whatever the order of these chunks, and each link is put on the stack at most once, so the
rounds come to an end in every graph, also around cycles and links to chunks that are gone.
-/

namespace ShaderWeave

/-- Where a search stands: the chunks that it visited and those that it still has to look at, the next one first. -/
structure SearchState where
  visited : List ChunkId := []
  stack : List ChunkId
  deriving DecidableEq, Repr

namespace SearchState

def start (root : ChunkId) : SearchState := { stack := [root] }

/-- The answer, if the search has come to its end. -/
def answer? (needle : ChunkId) (state : SearchState) : Option Bool :=
  match state.stack with
  | [] => some false
  | id :: _ => if id = needle then some true else none

end SearchState

namespace ChunkGraph

variable {graph : ChunkGraph} {needle : ChunkId}

/-! ## Paths -/

/-- Each chunk of the list but the last is live, and the next one is its proxy target or one of its children. -/
def IsPath (graph : ChunkGraph) (path : List ChunkId) : Prop :=
  path.IsChain fun id next =>
    ∃ node, graph.node? id = some node ∧ (node.proxy = some next ∨ next ∈ node.children)

theorem exists_path_iff {root needle : ChunkId} :
    (∃ path, path.head? = some root ∧ path.getLast? = some needle ∧ graph.IsPath path) ↔
      Relation.ReflTransGen graph.Edge root needle := by
  have chain : ∀ path, graph.IsPath path ↔ path.IsChain graph.Edge := fun _ =>
    List.IsChain.iff fun _ _ => edge_iff.symm
  constructor
  · rintro ⟨path, first, last, linked⟩
    obtain ⟨rest, rfl⟩ := List.head?_eq_some_iff.1 first
    have ends : (root :: rest).getLast (List.cons_ne_nil _ _) = needle :=
      Option.some.inj ((List.getLast?_eq_some_getLast _).symm.trans last)
    exact List.relationReflTransGen_of_exists_isChain_cons rest ((chain _).1 linked) ends
  · intro reached
    obtain ⟨rest, linked, ends⟩ := List.exists_isChain_cons_of_relationReflTransGen reached
    exact ⟨root :: rest, rfl, ends ▸ List.getLast?_eq_some_getLast _, (chain _).2 linked⟩

/-! ## Rounds -/

/-- One round: the chunk on top of the stack is not the one that is looked for. It was visited before, or is now, and
then the chunks that it leads to come on the stack, in any order. -/
inductive Round (graph : ChunkGraph) (needle : ChunkId) : SearchState → SearchState → Prop where
  | known {id : ChunkId} {visited stack : List ChunkId} : id ≠ needle → id ∈ visited →
      Round graph needle ⟨visited, id :: stack⟩ ⟨visited, stack⟩
  | fresh {id : ChunkId} {visited stack next : List ChunkId} : id ≠ needle → id ∉ visited →
      next.Perm (graph.successors id) →
      Round graph needle ⟨visited, id :: stack⟩ ⟨id :: visited, next ++ stack⟩

/-- A number of rounds, one after the other. -/
inductive Rounds (graph : ChunkGraph) (needle : ChunkId) (first : SearchState) : Nat → SearchState → Prop where
  | none : Rounds graph needle first 0 first
  | more {count : Nat} {before after : SearchState} : Rounds graph needle first count before →
      graph.Round needle before after → Rounds graph needle first (count + 1) after

/-! ## What is found -/

/-- What the search finds from where it stands. -/
def finds (graph : ChunkGraph) (needle : ChunkId) (state : SearchState) : Bool :=
  graph.search needle state.visited state.stack

theorem Round.finds_eq {before after : SearchState} (round : graph.Round needle before after) :
    graph.finds needle after = graph.finds needle before := by
  rw [Bool.eq_iff_iff, finds, finds, search_eq_true_iff, search_eq_true_iff]
  cases round with
  | known other known => exact leadsTo_skip other known
  | fresh other fresh successors => exact leadsTo_expand other fresh successors

theorem Rounds.finds_eq {first last : SearchState} {count : Nat} (rounds : graph.Rounds needle first count last) :
    graph.finds needle last = graph.finds needle first := by
  induction rounds with
  | none => rfl
  | more _ round ih => exact round.finds_eq.trans ih

/-- A search that has come to its end answers what it finds. -/
theorem finds_of_answer? {state : SearchState} {answer : Bool} (ended : state.answer? needle = some answer) :
    graph.finds needle state = answer := by
  obtain ⟨visited, stack⟩ := state
  cases stack with
  | nil =>
    obtain rfl := Option.some.inj ended
    rw [finds, search]
  | cons id rest =>
    rw [SearchState.answer?, Option.ite_none_right_eq_some] at ended
    obtain ⟨here, rfl⟩ : id = needle ∧ true = answer := ended.imp_right Option.some.inj
    rw [finds, search, if_pos here]

/-- A search that has not come to its end goes on. -/
theorem exists_round {state : SearchState} (unended : state.answer? needle = none) :
    ∃ next, graph.Round needle state next := by
  obtain ⟨visited, stack⟩ := state
  cases stack with
  | nil => cases unended
  | cons id rest =>
    have other : id ≠ needle := by
      rintro rfl
      simp [SearchState.answer?] at unended
    by_cases known : id ∈ visited
    · exact ⟨_, .known other known⟩
    · exact ⟨_, .fresh other known (.refl _)⟩

/-! ## How many rounds there are -/

/-- Number of links that lead from some chunks: to their proxy targets and their children. -/
def linksFrom (graph : ChunkGraph) (ids : List ChunkId) : Nat := (ids.flatMap graph.successors).length

/-- Number of links in the graph. -/
def linkCount (graph : ChunkGraph) : Nat := graph.linksFrom graph.nodes.keys

/-- Rounds that are left at most: for each chunk on the stack, and for each link of a chunk that was not visited. -/
def remaining (graph : ChunkGraph) (state : SearchState) : Nat :=
  state.stack.length + graph.linksFrom (graph.unvisited state.visited)

theorem remaining_start (root : ChunkId) : graph.remaining (.start root) = graph.linkCount + 1 := by
  rw [remaining, unvisited, List.filter_eq_self.2 (by simp [SearchState.start]), linkCount, Nat.add_comm]
  rfl

theorem unvisited_cons (id : ChunkId) (visited : List ChunkId) :
    graph.unvisited (id :: visited) = (graph.unvisited visited).erase id := by
  have nodup : (graph.unvisited visited).Nodup := graph.nodes.nodup_keys.filter _
  rw [nodup.erase_eq_filter, unvisited, unvisited, List.filter_filter]
  apply List.filter_congr
  intro other _
  by_cases same : other = id
  · simp [same]
  · simp [same]

/-- A visit takes the links of the chunk from those that are left. -/
theorem linksFrom_unvisited {id : ChunkId} {visited : List ChunkId} (fresh : id ∉ visited) :
    graph.linksFrom (graph.unvisited visited) =
      (graph.successors id).length + graph.linksFrom (graph.unvisited (id :: visited)) := by
  rw [unvisited_cons]
  by_cases live : id ∈ graph.nodes.keys
  · have member : id ∈ graph.unvisited visited := List.mem_filter.2 ⟨live, by simpa using fresh⟩
    have first : (graph.unvisited visited).Perm (id :: (graph.unvisited visited).erase id) :=
      List.perm_cons_erase member
    rw [linksFrom, (first.flatMap_right graph.successors).length_eq, List.flatMap_cons, List.length_append]
    rfl
  -- A visited id need not be live: it stands for no chunk then, and leads nowhere.
  · have gone : graph.successors id = [] := by
      rw [Arena.mem_keys_iff, Option.not_isSome_iff_eq_none] at live
      simp [successors, node?, live]
    have absent : id ∉ graph.unvisited visited := fun member => live (List.mem_filter.1 member).1
    rw [gone, List.erase_of_not_mem absent, List.length_nil, Nat.zero_add]

/-- Each round takes one from what is left. -/
theorem Round.remaining_eq {before after : SearchState} (round : graph.Round needle before after) :
    graph.remaining before = graph.remaining after + 1 := by
  cases round with
  | known => simp only [remaining, List.length_cons]; omega
  | fresh _ fresh successors =>
    have links := graph.linksFrom_unvisited fresh
    simp only [remaining, List.length_cons, List.length_append, successors.length_eq]
    omega

theorem Rounds.remaining_eq {first last : SearchState} {count : Nat} (rounds : graph.Rounds needle first count last) :
    graph.remaining first = graph.remaining last + count := by
  induction rounds with
  | none => rfl
  | more _ round ih =>
    rw [ih, round.remaining_eq]
    omega

/-- The search answers whether there is a path, in every graph. However it orders what it has to look at, it ends after
one round for each link and one for the root at most, and answers the same. -/
theorem reaches_decides (graph : ChunkGraph) (root needle : ChunkId) :
    (graph.reaches root needle = true ↔
      ∃ path, path.head? = some root ∧ path.getLast? = some needle ∧ graph.IsPath path) ∧
    ∀ count state, graph.Rounds needle (.start root) count state → count ≤ graph.linkCount + 1 ∧
      ((∃ next, graph.Round needle state next) ∨ state.answer? needle = some (graph.reaches root needle)) := by
  refine ⟨(reaches_iff root needle).trans exists_path_iff.symm, ?_⟩
  intro count state rounds
  have left := rounds.remaining_eq
  rw [remaining_start] at left
  refine ⟨by omega, ?_⟩
  cases ended : state.answer? needle with
  | none => exact .inl (exists_round ended)
  | some answer =>
    have same : graph.finds needle state = graph.reaches root needle := rounds.finds_eq
    exact .inr (congrArg some ((finds_of_answer? ended).symm.trans same))

end ChunkGraph

end ShaderWeave
