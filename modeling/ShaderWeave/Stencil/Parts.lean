import ShaderWeave.Stencil

/-! # Parts of stencils

Short names for the terms and lines that the shader stencils are made of.
-/

namespace ShaderWeave.Stencil

instance : Coe Term Piece := ⟨.hole⟩

def value (name : String) : Term :=
  .variable name

def plus (name : String) (amount : Int) : Term :=
  .apply .add (.variable name) (.literal amount)

def times (name : String) (factor : Int) : Term :=
  .apply .multiply (.variable name) (.literal factor)

/-- The sum of a name, an amount and the number of the current repeat. -/
def plusEach (name : String) (amount : Int) (index : String) : Term :=
  .apply .add (plus name amount) (.variable index)

/-- Lines without holes. -/
def plain (lines : List String) : List Item :=
  lines.map fun line => .line [.text line]

/-- A resource declared under a binding of the first group. -/
def resource (binding : Term) (declaration : List Piece) : Item :=
  .line ("@group(0) @binding(" :: binding :: ") " :: declaration)

end ShaderWeave.Stencil
