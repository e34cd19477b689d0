import ShaderWeave.Stencil.Lights
import ShaderWeave.Stencil.Shadows
import ShaderWeave.Stencil.Surface

/-! # The stencil library

The shader stencils by name. A name may carry the ending `.wgsl`, and a backslash in it stands for a slash.
-/

namespace ShaderWeave.Stencil

def library : List (String × List Item) := [
  ("standard.vert", surfaceVertex),
  ("standard.frag", surfaceFragment),
  ("lights/brdf", reflectance),
  ("lights/directional-lights-pre", directionalDeclarations),
  ("lights/directional-light", directionalLight),
  ("lights/spot-lights-pre", spotDeclarations),
  ("lights/spot-light", spotLight),
  ("lights/point-lights-pre", pointDeclarations),
  ("lights/point-light", pointLight),
  ("lights/ibl-lights-pre", environmentDeclarations),
  ("lights/ibl-light", environmentLight),
  ("lights/shadow-maps-pre", shadowDeclarations),
  ("lights/pre-light-setup", lightSums),
  ("lights/post-light-setup", lightTotal)]

/-- The ending that a stencil's name may carry. -/
def ending : List Char := ['.', 'w', 'g', 's', 'l']

/-- The spelling under which the library lists a stencil. -/
def listedName (name : String) : String :=
  let chars := name.toList.map fun char => if char = '\\' then '/' else char
  if ending.isSuffixOf chars then String.ofList (chars.take (chars.length - ending.length))
  else String.ofList chars

def find? (name : String) : Option (List Item) :=
  library.lookup (listedName name)

/-- Fills the named stencil. Faults carry the name as it was given. -/
def renderNamed (name : String) (bindings : Bindings) : Except RenderError String :=
  match find? name with
  | some items => render name items bindings
  | none => .error (.notFound name)

end ShaderWeave.Stencil
