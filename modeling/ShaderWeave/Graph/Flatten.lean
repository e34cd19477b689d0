import ShaderWeave.Graph

/-! # Flattening

The traversal behind collections. It visits a chunk before what it leads to, and lists a chunk as active behind its
children. A proxied chunk is visited, but only its target is looked into.
-/

namespace ShaderWeave

/-- Chunks in the order of a traversal: all that were visited, and those that behave. -/
structure Flattening where
  all : List ChunkId := []
  actives : List ChunkId := []
  deriving DecidableEq, Repr

namespace Flattening

def append (first second : Flattening) : Flattening :=
  ⟨first.all ++ second.all, first.actives ++ second.actives⟩

def join (parts : List Flattening) : Flattening :=
  ⟨parts.flatMap (·.all), parts.flatMap (·.actives)⟩

/-- Each chunk once, at its first place. -/
def distinct (flattening : Flattening) : Flattening :=
  ⟨flattening.all.eraseDups, flattening.actives.eraseDups⟩

end Flattening

namespace ChunkGraph

/-- Traversal from `id` over paths of less than `depth` edges. -/
def flattenFrom (graph : ChunkGraph) : Nat → ChunkId → Flattening
  | 0, _ => {}
  | depth + 1, id =>
    match graph.node? id with
    | none => {}
    | some node =>
      match node.proxy with
      | some target =>
        let below := graph.flattenFrom depth target
        { below with all := id :: below.all }
      | none =>
        let below := Flattening.join (node.children.map fun child => graph.flattenFrom depth child)
        ⟨id :: below.all, below.actives ++ [id]⟩

/-- Traversal from `id`. A path without repetition has less edges than there are chunks. -/
def flatten (graph : ChunkGraph) (id : ChunkId) : Flattening :=
  graph.flattenFrom graph.size id

/-- Traversal from some roots, one after the other, with each chunk once. -/
def flattenAll (graph : ChunkGraph) (roots : List ChunkId) : Flattening :=
  (Flattening.join (roots.map graph.flatten)).distinct

end ChunkGraph

end ShaderWeave
