import ShaderWeave.Chunk.Definitions
import ShaderWeave.Lighting.Bucket

/-! # Chunks

A chunk is a unit of shader behaviour: it generates code into slots, has a hash of everything that shapes this code, and
uploads values. A chunk that is `custom` brings its own behaviour.

Two states that generate different code must hash differently; states with the same code may share their programs.
-/

namespace ShaderWeave

/-- What a chunk takes part in. -/
structure Caps where
  code : Bool
  setup : Bool
  deriving DecidableEq, Repr

namespace Caps

def none : Caps := ⟨false, false⟩

/-- One for code, and two for setup. -/
def bits (caps : Caps) : Nat :=
  (if caps.code then 1 else 0) + if caps.setup then 2 else 0

end Caps

/-- Behaviour of a chunk from outside the library. -/
structure CustomChunk where
  caps : Caps
  hash : String
  generate : SlotBuffer → Except AssemblyError SlotBuffer
  /-- Values for a program, which may depend on the names that the program declares. -/
  uploads : (String → Bool) → List UniformCall

inductive Chunk where
  /-- A chunk without behaviour: a root for others, or a place for a proxy. -/
  | group
  | flag (flag : Flag)
  | choice (choice : Choice)
  | stencil (chunk : StencilChunk)
  | shadowPool (pool : ShadowPool)
  | lightBucket (bucket : LightBucket)
  | custom (chunk : CustomChunk)

namespace Chunk

def kind : Chunk → ChunkKind
  | group => .group
  | flag _ => .flag
  | choice _ => .choice
  | stencil _ => .stencil
  | shadowPool _ => .shadowPool
  | lightBucket _ => .lightBucket
  | custom _ => .custom

def caps : Chunk → Caps
  | group => .none
  | flag _ | choice _ | stencil _ => ⟨true, false⟩
  | shadowPool _ | lightBucket _ => ⟨true, true⟩
  | custom chunk => chunk.caps

/-- Adds the chunk's code to `slots`. -/
def generate (slots : SlotBuffer) : Chunk → Except AssemblyError SlotBuffer
  | group => .ok slots
  | flag state => .ok (slots.add definitionsSlot state.code)
  | choice state => .ok (slots.add definitionsSlot state.code)
  | stencil chunk => chunk.generate slots
  | shadowPool pool => pool.generate slots
  | lightBucket bucket => bucket.generate slots
  | custom chunk => chunk.generate slots

def hash : Chunk → String
  | group => ""
  | flag state => state.hash
  | choice state => state.hash
  | stencil chunk => chunk.hash
  | shadowPool pool => pool.hash
  | lightBucket bucket => bucket.hash
  | custom chunk => chunk.hash

/-- The values that the chunk pushes to a program, in order. -/
def uploads (declares : String → Bool) : Chunk → List UniformCall
  | group | flag _ | choice _ | stencil _ => []
  | shadowPool pool => pool.uploads declares
  | lightBucket bucket => bucket.uploads
  | custom chunk => chunk.uploads declares

end Chunk

end ShaderWeave
