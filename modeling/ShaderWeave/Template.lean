import ShaderWeave.Stencil.Library
import ShaderWeave.Template.Marker

/-! # Program templates

A template is a vertex and a fragment text with slot markers, under a name of its own. Resolving it puts the code
of a slot buffer in place of the markers of both stages.
-/

namespace ShaderWeave

structure Template where
  /-- Takes part in program keys, so two different templates never share one. -/
  uid : String
  vertex : String
  fragment : String
  deriving DecidableEq, Repr

namespace Template

/-- The template whose stages are two stencils of the library without parameters. -/
def ofStencils (uid vertex fragment : String) : Except Stencil.RenderError Template := do
  let vertex ← Stencil.renderNamed vertex []
  let fragment ← Stencil.renderNamed fragment []
  return { uid, vertex, fragment }

/-- The lit surface. -/
def standard : Except Stencil.RenderError Template :=
  ofStencils "standard" "standard.vert" "standard.frag"

/-- Both stages with the code of `slots` in place of their markers. -/
def resolve (template : Template) (slots : SlotBuffer) : String × String :=
  (Marker.resolve template.vertex slots, Marker.resolve template.fragment slots)

end Template

end ShaderWeave
