import ShaderWeave.Chunk

/-! # The chunk graph

A graph owns chunks and collections and names them by keys. A chunk has children, which come before it in the
code, and may have a proxy, which then behaves in its place. Collections are flattened views of some root chunks;
they subscribe to every chunk they visited, and an edit of a chunk marks the collections subscribed to it.

An operation that can fail gives an `Outcome`: its result or the cause, and the graph that it leaves either way.
-/

namespace ShaderWeave

/-- Result of an operation that may fail, with the state that it leaves in either case. -/
abbrev Outcome (σ α : Type) := Except AssemblyError α × σ

structure ChunkNode where
  chunk : Chunk
  /-- Read once, when the chunk is inserted. -/
  caps : Caps
  children : List ChunkId := []
  proxy : Option ChunkId := none
  /-- Collections that visited the chunk when they were flattened last. -/
  subscribers : List CollectionId := []
  /-- Whether values wait for their upload. -/
  pending : Bool := true

namespace ChunkNode

def ofChunk (chunk : Chunk) : ChunkNode := { chunk, caps := chunk.caps }

def subscribe (node : ChunkNode) (collection : CollectionId) : ChunkNode :=
  if collection ∈ node.subscribers then node
  else { node with subscribers := node.subscribers ++ [collection] }

def unsubscribe (node : ChunkNode) (collection : CollectionId) : ChunkNode :=
  { node with subscribers := node.subscribers.filter (· ≠ collection) }

/-- Whether an edge leads from the node to `id`. -/
def links (node : ChunkNode) (id : ChunkId) : Bool :=
  node.proxy == some id || node.children.contains id

/-- The node without its edges to `id`. -/
def detach (node : ChunkNode) (id : ChunkId) : ChunkNode :=
  { node with
    children := node.children.filter (· ≠ id)
    proxy := if node.proxy = some id then none else node.proxy }

end ChunkNode

/-- A flattened view of root chunks, as of its last refresh. -/
structure ChunkCollection where
  roots : List ChunkId := []
  /-- Every chunk visited, proxied ones included. -/
  all : List ChunkId := []
  /-- The chunks that behave, children before parents, each once. -/
  actives : List ChunkId := []
  /-- Whether lists and hash are out of date. -/
  listDirty : Bool := true
  /-- Whether the hash is out of date. -/
  codeDirty : Bool := true
  hash : String := ""
  deriving DecidableEq, Repr

namespace ChunkCollection

def invalidateList (collection : ChunkCollection) : ChunkCollection :=
  { collection with listDirty := true, codeDirty := true }

def invalidateCode (collection : ChunkCollection) : ChunkCollection :=
  { collection with codeDirty := true }

/-- The collection with other roots, whose lists are out of date. -/
def withRoots (collection : ChunkCollection) (roots : List ChunkId) : ChunkCollection :=
  { collection with roots, listDirty := true, codeDirty := true }

/-- Drops a chunk that is gone. A collection that had it among its roots or visited it is out of date. -/
def forget (collection : ChunkCollection) (id : ChunkId) : ChunkCollection :=
  let rest :=
    { collection with
      roots := collection.roots.filter (· ≠ id)
      all := collection.all.filter (· ≠ id)
      actives := collection.actives.filter (· ≠ id) }
  if id ∈ collection.roots ∨ id ∈ collection.all then rest.invalidateList else rest

end ChunkCollection

structure ChunkGraph where
  nodes : Arena .chunk ChunkNode := .empty
  collections : Arena .collection ChunkCollection := .empty

namespace ChunkGraph

def empty : ChunkGraph := {}

instance : Inhabited ChunkGraph := ⟨empty⟩

/-! ## Nodes -/

def node? (graph : ChunkGraph) (id : ChunkId) : Option ChunkNode := graph.nodes.get? id

def node (graph : ChunkGraph) (id : ChunkId) : Except AssemblyError ChunkNode :=
  match graph.node? id with
  | some node => .ok node
  | none => .error (.chunkNotFound id)

def contains (graph : ChunkGraph) (id : ChunkId) : Bool := graph.nodes.contains id

def size (graph : ChunkGraph) : Nat := graph.nodes.size

def isEmpty (graph : ChunkGraph) : Bool := graph.size == 0

def modifyNode (graph : ChunkGraph) (id : ChunkId) (change : ChunkNode → ChunkNode) : ChunkGraph :=
  { graph with nodes := graph.nodes.modify id change }

/-- The state of a live chunk. -/
def chunk? (graph : ChunkGraph) (id : ChunkId) : Option Chunk := (graph.node? id).map (·.chunk)

/-- Replaces the state of a chunk and marks nothing. The chunk's capabilities stay as they were. -/
def setChunk (graph : ChunkGraph) (id : ChunkId) (chunk : Chunk) : ChunkGraph :=
  graph.modifyNode id fun node => { node with chunk }

/-- The states of two different live chunks. -/
def pair? (graph : ChunkGraph) (first second : ChunkId) : Option (Chunk × Chunk) :=
  if first = second then none
  else do return (← graph.chunk? first, ← graph.chunk? second)

/-- Makes sure that a chunk is of one kind. -/
def expectKind (graph : ChunkGraph) (id : ChunkId) (kind : ChunkKind) : Except AssemblyError ChunkId := do
  let node ← graph.node id
  if node.chunk.kind = kind then .ok id else .error (.kindMismatch id kind)

def insert (graph : ChunkGraph) (chunk : Chunk) : ChunkId × ChunkGraph :=
  let (id, nodes) := graph.nodes.insert (.ofChunk chunk)
  (id, { graph with nodes })

/-! ## Marking -/

/-- Marks the lists of some collections as out of date. -/
def markLists (graph : ChunkGraph) (ids : List CollectionId) : ChunkGraph :=
  { graph with
    collections := graph.collections.mapEntries fun id collection =>
      if id ∈ ids then collection.invalidateList else collection }

/-- Marks the hashes of some collections as out of date. -/
def markCodes (graph : ChunkGraph) (ids : List CollectionId) : ChunkGraph :=
  { graph with
    collections := graph.collections.mapEntries fun id collection =>
      if id ∈ ids then collection.invalidateCode else collection }

/-- Collections subscribed to a chunk. -/
def subscribers (graph : ChunkGraph) (id : ChunkId) : List CollectionId :=
  ((graph.node? id).map (·.subscribers)).getD []

/-- After a change of structure: the subscribed collections have new lists. -/
def invalidateList (graph : ChunkGraph) (id : ChunkId) : ChunkGraph :=
  graph.markLists (graph.subscribers id)

/-- After a change of code: the subscribed collections have a new hash. -/
def invalidateCode (graph : ChunkGraph) (id : ChunkId) : ChunkGraph :=
  graph.markCodes (graph.subscribers id)

/-- After a change of values: they wait for their upload. -/
def markPending (graph : ChunkGraph) (id : ChunkId) : ChunkGraph :=
  graph.modifyNode id fun node => { node with pending := true }

/-! ## Reachability -/

/-- Where edges lead from a chunk. The children of a proxied chunk count: they come back when the proxy goes. -/
def successors (graph : ChunkGraph) (id : ChunkId) : List ChunkId :=
  match graph.node? id with
  | none => []
  | some node => node.proxy.toList ++ node.children

/-- The live chunks that were not visited. -/
def unvisited (graph : ChunkGraph) (visited : List ChunkId) : List ChunkId :=
  graph.nodes.keys.filter (· ∉ visited)

theorem length_filter_lt {α : Type} {keep narrow : α → Bool} {items : List α}
    (weaker : ∀ item, narrow item = true → keep item = true) {item : α} (member : item ∈ items)
    (kept : keep item = true) (dropped : narrow item = false) :
    (items.filter narrow).length < (items.filter keep).length := by
  induction items with
  | nil => simp at member
  | cons first rest ih =>
    have le : (rest.filter narrow).length ≤ (rest.filter keep).length := by
      simpa only [List.countP_eq_length_filter] using List.countP_mono_left fun other _ => weaker other
    rcases List.mem_cons.1 member with rfl | later
    · simp only [List.filter_cons, kept, dropped, if_true, Bool.false_eq_true, if_false, List.length_cons]
      omega
    · have := ih later
      by_cases narrowed : narrow first = true
      · simp only [List.filter_cons, narrowed, weaker first narrowed, if_true, List.length_cons]
        omega
      · by_cases wide : keep first = true <;> simp [narrowed, wide] <;> omega

theorem unvisited_cons_lt (graph : ChunkGraph) {id : ChunkId} {visited : List ChunkId}
    (live : (graph.node? id).isSome) (fresh : id ∉ visited) :
    (graph.unvisited (id :: visited)).length < (graph.unvisited visited).length := by
  have member : id ∈ graph.nodes.keys := (Arena.mem_keys_iff _ _).2 live
  refine length_filter_lt ?_ member (by simpa using fresh) (by simp)
  intro other narrow
  simp only [List.mem_cons, decide_eq_true_eq] at narrow ⊢
  exact fun member => narrow (.inr member)

theorem unvisited_cons_le (graph : ChunkGraph) (id : ChunkId) (visited : List ChunkId) :
    (graph.unvisited (id :: visited)).length ≤ (graph.unvisited visited).length := by
  simp only [unvisited, ← List.countP_eq_length_filter]
  refine List.countP_mono_left fun other _ narrow => ?_
  simp only [List.mem_cons, decide_eq_true_eq] at narrow ⊢
  exact fun member => narrow (.inr member)

/-- Looks for `needle` from the chunks on the stack on. Each live chunk is entered once. -/
def search (graph : ChunkGraph) (needle : ChunkId) (visited : List ChunkId) : List ChunkId → Bool
  | [] => false
  | id :: stack =>
    if id = needle then true
    else if _known : id ∈ visited then search graph needle visited stack
    else
      match _live : graph.node? id with
      | none => search graph needle (id :: visited) stack
      | some node => search graph needle (id :: visited) (node.proxy.toList ++ node.children ++ stack)
termination_by stack => ((graph.unvisited visited).length, stack.length)
decreasing_by
  · exact Prod.Lex.right _ (by simp)
  · rcases Nat.lt_or_eq_of_le (graph.unvisited_cons_le id visited) with less | same
    · exact Prod.Lex.left _ _ less
    · rw [same]
      exact Prod.Lex.right _ (by simp)
  · exact Prod.Lex.left _ _ (graph.unvisited_cons_lt (by simp [_live]) _known)

/-- Whether a path leads from `root` to `needle`, which may be the same chunk. -/
def reaches (graph : ChunkGraph) (root needle : ChunkId) : Bool :=
  graph.search needle [] [root]

/-! ## Edits -/

/-- Appends `child` to the children of `parent`. -/
def addChild (graph : ChunkGraph) (parent child : ChunkId) : Outcome ChunkGraph Unit :=
  match graph.node? child, graph.node? parent with
  | none, _ => (.error (.chunkNotFound child), graph)
  | _, none => (.error (.chunkNotFound parent), graph)
  | some _, some node =>
    if child ∈ node.children then (.error (.duplicateChild parent child), graph)
    else if graph.reaches child parent then (.error (.cyclicDependency .addChild), graph)
    else
      let graph := graph.modifyNode parent fun node => { node with children := node.children ++ [child] }
      (.ok (), graph.invalidateList parent)

/-- Takes `child` from the children of `parent`, and tells whether it was there. The subscribed collections are
marked in either case. -/
def removeChild (graph : ChunkGraph) (parent child : ChunkId) : Outcome ChunkGraph Bool :=
  match graph.node? parent with
  | none => (.error (.chunkNotFound parent), graph)
  | some node =>
    let graph := graph.modifyNode parent fun node => { node with children := node.children.erase child }
    (.ok (node.children.contains child), graph.invalidateList parent)

def children (graph : ChunkGraph) (id : ChunkId) : List ChunkId :=
  ((graph.node? id).map (·.children)).getD []

/-- Lets `target` behave in the place of `chunk`, or `chunk` itself again if there is no target. -/
def setProxy (graph : ChunkGraph) (chunk : ChunkId) (target : Option ChunkId) : Outcome ChunkGraph Unit :=
  match graph.node? chunk with
  | none => (.error (.chunkNotFound chunk), graph)
  | some node =>
    if node.proxy = target then (.ok (), graph)
    else
      let link := (graph.modifyNode chunk fun node => { node with proxy := target }).invalidateList chunk
      match target with
      | none => (.ok (), link)
      | some goal =>
        if !graph.contains goal then (.error (.chunkNotFound goal), graph)
        else if graph.reaches goal chunk then (.error (.cyclicDependency .setProxy), graph)
        else (.ok (), link)

def proxy (graph : ChunkGraph) (id : ChunkId) : Option ChunkId :=
  (graph.node? id).bind (·.proxy)

/-- A new chunk in whose place `target` behaves. -/
def createProxy (graph : ChunkGraph) (target : ChunkId) : Outcome ChunkGraph ChunkId :=
  match graph.node? target with
  | none => (.error (.chunkNotFound target), graph)
  | some _ =>
    let (id, graph) := graph.insert .group
    (.ok id, graph.modifyNode id fun node => { node with proxy := some target })

/-- Takes a chunk out, and every edge to it. Its own children stay. The collections that visited it or a chunk
that lost an edge are marked. -/
def remove (graph : ChunkGraph) (id : ChunkId) : Option (Chunk × ChunkGraph) :=
  match graph.nodes.remove id with
  | none => none
  | some (node, rest) =>
    let touched := (rest.entries.filter fun (_, other) => other.links id).flatMap fun (_, other) => other.subscribers
    let graph : ChunkGraph :=
      { nodes := rest.mapEntries fun _ other => other.detach id
        collections := graph.collections.mapEntries fun _ collection => collection.forget id }
    some (node.chunk, graph.markLists (node.subscribers ++ touched))

/-! ## Behaviour behind proxies -/

/-- Follows proxies for at most `steps` steps. -/
def follow (graph : ChunkGraph) : Nat → ChunkId → Except AssemblyError ChunkId
  | 0, id => .ok id
  | steps + 1, id =>
    match graph.node? id with
    | none => .error (.chunkNotFound id)
    | some node =>
      match node.proxy with
      | none => .ok id
      | some target => follow graph steps target

/-- The chunk that behaves in the place of `id`. A chain of proxies has no more members than there are chunks. -/
def resolve (graph : ChunkGraph) (id : ChunkId) : Except AssemblyError ChunkId :=
  graph.follow (graph.size + 1) id

/-- The node that behaves in the place of `id`. -/
def behaving (graph : ChunkGraph) (id : ChunkId) : Except AssemblyError ChunkNode := do
  graph.node (← graph.resolve id)

def generate (graph : ChunkGraph) (id : ChunkId) (slots : SlotBuffer) : Except AssemblyError SlotBuffer := do
  (← graph.behaving id).chunk.generate slots

def hash (graph : ChunkGraph) (id : ChunkId) : Except AssemblyError String :=
  (graph.behaving id).map (·.chunk.hash)

def caps (graph : ChunkGraph) (id : ChunkId) : Except AssemblyError Caps :=
  (graph.behaving id).map (·.caps)

/-- Whether the chunk has values that wait for their upload. -/
def isPending (graph : ChunkGraph) (id : ChunkId) : Except AssemblyError Bool :=
  (graph.behaving id).map (·.pending)

/-- The values that a live chunk uploads if it takes part in setup; they wait no longer. -/
def uploadsOf (graph : ChunkGraph) (id : ChunkId) (declares : String → Bool) : List UniformCall × ChunkGraph :=
  match graph.node? id with
  | none => ([], graph)
  | some node =>
    if node.caps.setup then
      (node.chunk.uploads declares, graph.modifyNode id fun node => { node with pending := false })
    else ([], graph)

/-- Uploads the chunk's values to a program that declares some names. -/
def setup (graph : ChunkGraph) (id : ChunkId) (declares : String → Bool) : Outcome ChunkGraph (List UniformCall) :=
  match graph.resolve id with
  | .error cause => (.error cause, graph)
  | .ok target =>
    let (calls, graph) := graph.uploadsOf target declares
    (.ok calls, graph)

end ChunkGraph

end ShaderWeave
