import ShaderWeave.Graph.Flatten

/-! # Collections of a graph

A collection lists its chunks and joins their hashes when it is asked, and only if something was marked since the last
time: a new list also makes a new hash. Flattening subscribes the collection to every chunk that it visits and ends
the subscription to those it no longer visits.
-/

namespace ShaderWeave.ChunkGraph

def collection? (graph : ChunkGraph) (id : CollectionId) : Option ChunkCollection :=
  graph.collections.get? id

def modifyCollection (graph : ChunkGraph) (id : CollectionId) (change : ChunkCollection → ChunkCollection) :
    ChunkGraph :=
  { graph with collections := graph.collections.modify id change }

def createCollection (graph : ChunkGraph) : CollectionId × ChunkGraph :=
  let (id, collections) := graph.collections.insert {}
  (id, { graph with collections })

/-- Takes a collection out and ends its subscriptions. -/
def removeCollection (graph : ChunkGraph) (id : CollectionId) : Option (ChunkCollection × ChunkGraph) :=
  match graph.collections.remove id with
  | none => none
  | some (collection, collections) =>
    some (collection,
      { nodes := graph.nodes.mapEntries fun key node =>
          if key ∈ collection.all then node.unsubscribe id else node
        collections })

/-- Appends a root. Adding a root again changes nothing. -/
def addRoot (graph : ChunkGraph) (id : CollectionId) (root : ChunkId) : Outcome ChunkGraph Unit :=
  match graph.node? root, graph.collection? id with
  | none, _ => (.error (.chunkNotFound root), graph)
  | _, none => (.error (.collectionNotFound id), graph)
  | some _, some collection =>
    if root ∈ collection.roots then (.ok (), graph)
    else
      (.ok (), graph.modifyCollection id fun collection => collection.withRoots (collection.roots ++ [root]))

/-- Takes a root out, and tells whether it was there. -/
def removeRoot (graph : ChunkGraph) (id : CollectionId) (root : ChunkId) : Outcome ChunkGraph Bool :=
  match graph.collection? id with
  | none => (.error (.collectionNotFound id), graph)
  | some collection =>
    if root ∈ collection.roots then
      (.ok true, graph.modifyCollection id fun collection =>
        collection.withRoots (collection.roots.filter (· ≠ root)))
    else (.ok false, graph)

/-! ## Refreshing -/

/-- Flattens the roots again and mends the subscriptions. -/
def rebuild (graph : ChunkGraph) (id : CollectionId) (collection : ChunkCollection) : ChunkGraph :=
  let lists := graph.flattenAll collection.roots
  { nodes := graph.nodes.mapEntries fun key node =>
      if key ∈ lists.all then node.subscribe id
      else if key ∈ collection.all then node.unsubscribe id
      else node
    collections := graph.collections.set id
      { collection with all := lists.all, actives := lists.actives, listDirty := false, codeDirty := true } }

/-- The live chunks among `actives`. -/
def nodesOf (graph : ChunkGraph) (actives : List ChunkId) : List ChunkNode :=
  actives.filterMap graph.node?

/-- Hashes of the chunks with code, joined. -/
def joinedHash (graph : ChunkGraph) (actives : List ChunkId) : String :=
  String.intercalate "|" (((graph.nodesOf actives).filter (·.caps.code)).map (·.chunk.hash))

/-- Brings a collection up to date, and tells whether its hash changed. -/
def refresh (graph : ChunkGraph) (id : CollectionId) : Outcome ChunkGraph Bool :=
  match graph.collection? id with
  | none => (.error (.collectionNotFound id), graph)
  | some collection =>
    if !collection.listDirty && !collection.codeDirty then (.ok false, graph)
    else
      let graph := if collection.listDirty then graph.rebuild id collection else graph
      match graph.collection? id with
      | none => (.error (.collectionNotFound id), graph)
      | some collection =>
        let hash := graph.joinedHash collection.actives
        (.ok (collection.hash != hash), graph.modifyCollection id ({ · with codeDirty := false, hash }))

/-- Refreshes a collection and looks at it. -/
def refreshed (graph : ChunkGraph) (id : CollectionId) : Outcome ChunkGraph ChunkCollection :=
  match graph.refresh id with
  | (.error cause, graph) => (.error cause, graph)
  | (.ok _, graph) =>
    match graph.collection? id with
    | none => (.error (.collectionNotFound id), graph)
    | some collection => (.ok collection, graph)

/-! ## Behaviour of the active chunks -/

def collectionHash (graph : ChunkGraph) (id : CollectionId) : Outcome ChunkGraph String :=
  let (result, graph) := graph.refreshed id
  (result.map (·.hash), graph)

def collectionActives (graph : ChunkGraph) (id : CollectionId) : Outcome ChunkGraph (List ChunkId) :=
  let (result, graph) := graph.refreshed id
  (result.map (·.actives), graph)

/-- Code of some chunks, one after the other, in slots with a stamp. -/
def generateAll (graph : ChunkGraph) (stamp : String) (actives : List ChunkId) : Except AssemblyError SlotBuffer :=
  ((graph.nodesOf actives).filter (·.caps.code)).foldlM (fun slots node => node.chunk.generate slots)
    (SlotBuffer.stamped stamp)

/-- Code of the active chunks, stamped with the hash of the collection. -/
def collectionGenerate (graph : ChunkGraph) (id : CollectionId) : Outcome ChunkGraph SlotBuffer :=
  let (result, graph) := graph.refreshed id
  (result.bind fun collection => graph.generateAll collection.hash collection.actives, graph)

/-- Values of some chunks, one after the other. -/
def uploadsOfAll (graph : ChunkGraph) (declares : String → Bool) : List ChunkId → List UniformCall × ChunkGraph
  | [] => ([], graph)
  | id :: rest =>
    let (first, graph) := graph.uploadsOf id declares
    let (others, graph) := graph.uploadsOfAll declares rest
    (first ++ others, graph)

/-- Uploads the values of the active chunks to a program that declares some names. -/
def collectionSetup (graph : ChunkGraph) (id : CollectionId) (declares : String → Bool) :
    Outcome ChunkGraph (List UniformCall) :=
  match graph.refreshed id with
  | (.error cause, graph) => (.error cause, graph)
  | (.ok collection, graph) =>
    let (calls, graph) := graph.uploadsOfAll declares collection.actives
    (.ok calls, graph)

/-- Whether an active chunk has values that wait for their upload. -/
def collectionIsPending (graph : ChunkGraph) (id : CollectionId) : Outcome ChunkGraph Bool :=
  let (result, graph) := graph.refreshed id
  (result.map fun collection =>
    (graph.nodesOf collection.actives).any fun node => node.caps.setup && node.pending, graph)

end ShaderWeave.ChunkGraph
