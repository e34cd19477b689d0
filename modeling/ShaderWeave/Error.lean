import ShaderWeave.Arena
import ShaderWeave.Stencil

/-! # Errors

What can go wrong while programs are assembled, by cause, and the text of each.
-/

namespace ShaderWeave

/-- The kinds of chunks. -/
inductive ChunkKind where
  | group
  | flag
  | choice
  | stencil
  | shadowPool
  | lightBucket
  | custom
  deriving DecidableEq, Repr

/-- The edits that could make a chunk depend on itself. -/
inductive Linking where
  | addChild
  | setProxy
  deriving DecidableEq, Repr

def Linking.name : Linking → String
  | .addChild => "add_child"
  | .setProxy => "set_proxy"

inductive AssemblyError where
  /-- The edit would make a chunk reachable from itself. -/
  | cyclicDependency (edit : Linking)
  | duplicateChild (parent child : ChunkId)
  | chunkNotFound (id : ChunkId)
  | collectionNotFound (id : CollectionId)
  | kindMismatch (id : ChunkId) (expected : ChunkKind)
  | stencil (cause : Stencil.RenderError)
  /-- A choice without variants. -/
  | emptyChoice (name : String)
  | unknownVariant (name value : String)
  /-- The graphics layer refused the sources of a program. -/
  | programRejected (label diagnostic : String)
  deriving DecidableEq, Repr

/-- The text of an error. How kinds of chunks are called is up to the caller. -/
def AssemblyError.message (kindName : ChunkKind → String) : AssemblyError → String
  | cyclicDependency edit => edit.name ++ "() would lead to a cyclic chunk dependency"
  | duplicateChild parent child => "chunk " ++ child.describe ++ " is already a child of " ++ parent.describe
  | chunkNotFound id => "chunk not found: " ++ id.describe
  | collectionNotFound id => "chunk collection not found: " ++ id.describe
  | kindMismatch id expected => "chunk " ++ id.describe ++ " is not a " ++ kindName expected
  | stencil cause => "Shader template error: " ++ cause.message
  | emptyChoice name => "shader enum '" ++ name ++ "' has no variants"
  | unknownVariant name value => "unknown variant '" ++ value ++ "' for shader enum '" ++ name ++ "'"
  | programRejected label diagnostic => "Failed to compile program '" ++ label ++ "': " ++ diagnostic

end ShaderWeave
