import ShaderWeave.Chunk

/-! # Chunks from fixed fragments

A chunk given by data alone: the code it adds to each slot, and the values it uploads. If it reserves bindings, each
`@` in its code stands for the number of the first one.
-/

namespace ShaderWeave

structure FragmentChunk where
  caps : Caps
  hash : String := ""
  fragments : List SlotCode := []
  /-- Number of bindings to reserve, if any are reserved. -/
  bindings : Option Nat := none
  uniforms : List UniformCall := []
  deriving DecidableEq, Repr

namespace FragmentChunk

/-- Puts the number of a binding in place of each mark. -/
def numbered (binding : Nat) (code : String) : String :=
  String.join (code.toList.map fun char => if char = '@' then toString binding else char.toString)

def addTo (fragments : List SlotCode) (slots : SlotBuffer) : SlotBuffer :=
  fragments.foldl (fun slots fragment => slots.add fragment.key fragment.code) slots

def generate (chunk : FragmentChunk) (slots : SlotBuffer) : SlotBuffer :=
  match chunk.bindings with
  | none => addTo chunk.fragments slots
  | some count =>
    let (binding, slots) := slots.reserve count
    addTo (chunk.fragments.map fun fragment => { fragment with code := numbered binding fragment.code }) slots

def toChunk (chunk : FragmentChunk) : Chunk :=
  .custom
    { caps := chunk.caps
      hash := chunk.hash
      generate := fun slots => .ok (chunk.generate slots)
      uploads := fun _ => chunk.uniforms }

end FragmentChunk

end ShaderWeave
