import ShaderWeave.Error
import ShaderWeave.Text.Blank
import ShaderWeave.Uniform.Declared
import ShaderWeave.Uniform.Store

/-! # Programs and backends

A backend makes programs for one graphics context from the texts of two stages. Two kinds of program are known here: one
that records the values pushed to it, and one that stages them in a uniform store until the graphics layer takes them.
-/

namespace ShaderWeave

/-- A graphics context. -/
structure ContextId where
  number : Nat
  deriving DecidableEq, Repr

/-- A program that keeps its sources, and every value pushed to it since the last look. -/
structure RecordedProgram where
  vertex : String
  fragment : String
  calls : List UniformCall := []
  deriving DecidableEq, Repr

/-- A program with a store for the uniforms that its sources declare. -/
structure StagedProgram where
  label : String
  uniforms : UniformStore
  deriving DecidableEq, Repr

inductive Program where
  | recorded (program : RecordedProgram)
  | staged (program : StagedProgram)
  deriving DecidableEq, Repr

/-- Whether `part` stands anywhere in a text. -/
def containsChars (part : List Char) : List Char → Bool
  | [] => part.isEmpty
  | char :: rest => part.isPrefixOf (char :: rest) || containsChars part rest

def containsText (text part : String) : Bool :=
  containsChars part.toList text.toList

namespace RecordedProgram

/-- A recorded program is taken to declare every name that its sources contain. -/
def declares (program : RecordedProgram) (name : String) : Bool :=
  containsText program.vertex name || containsText program.fragment name

/-- The values pushed since the last look. -/
def takeCalls (program : RecordedProgram) : List UniformCall × RecordedProgram :=
  (program.calls, { program with calls := [] })

end RecordedProgram

namespace StagedProgram

def ofSources (label vertex fragment : String) : StagedProgram :=
  ⟨label, .ofDeclared (Declared.names vertex ++ Declared.names fragment)⟩

/-- Hands the bytes of a pending array over, and tells whether there were any. -/
def upload (program : StagedProgram) (name : String) : Bool × StagedProgram :=
  match program.uniforms.takeBytes name with
  | some (_, uniforms) => (true, { program with uniforms })
  | none => (false, program)

end StagedProgram

namespace Program

def declares : Program → String → Bool
  | recorded program => program.declares
  | staged program => program.uniforms.declares

/-- Pushes one value. A staged program ignores names that it does not declare. -/
def setUniform (call : UniformCall) : Program → Program
  | recorded program => .recorded { program with calls := program.calls ++ [call] }
  | staged program => .staged { program with uniforms := (program.uniforms.stage call.name call.value).2 }

def setUniforms (calls : List UniformCall) (program : Program) : Program :=
  calls.foldl (fun program call => program.setUniform call) program

end Program

/-- Makes programs for one context, from a label and the texts of the vertex and the fragment stage. -/
structure Backend (P : Type) where
  context : ContextId
  create : String → String → String → Except AssemblyError P

/-- Refuses a stage without any text. -/
def checkStage (label stage source : String) : Except AssemblyError Unit :=
  if Text.isAllBlank source then .error (.programRejected label (stage ++ ": empty source")) else .ok ()

namespace Backend

/-- Accepts all sources. -/
def recording (context : ContextId) : Backend Program where
  context
  create _ vertex fragment := .ok (.recorded { vertex, fragment })

/-- Accepts sources whose stages both have text. -/
def staging (context : ContextId) : Backend Program where
  context
  create label vertex fragment := do
    checkStage label "vertex" vertex
    checkStage label "fragment" fragment
    return .staged (.ofSources label vertex fragment)

/-- Refuses all sources. -/
def refusing {P : Type} (context : ContextId) (diagnostic : String) : Backend P where
  context
  create label _ _ := .error (.programRejected label diagnostic)

end Backend

end ShaderWeave
