import ShaderWeave.Error
import ShaderWeave.Slots
import ShaderWeave.Stencil.Library

/-! # Definition chunks

The chunks without uploads: a flag declares a constant of two values, a choice declares one of several named
constants, and a stencil chunk puts a stencil without parameters into a slot. Each hash has the chunk's name beside its state,
because chunks that declare different constants must not hash alike.
-/

namespace ShaderWeave

/-- Slot of the constants that flags and choices declare. -/
def definitionsSlot : String := "definitions"

/-! ## Flags -/

structure Flag where
  name : String
  value : Bool
  deriving DecidableEq, Repr

namespace Flag

/-- Sets the value, and tells whether it changed. -/
def set (flag : Flag) (value : Bool) : Bool × Flag :=
  (flag.value != value, { flag with value })

def code (flag : Flag) : String :=
  "const " ++ flag.name ++ ": bool = " ++ (if flag.value then "true" else "false") ++ ";\n"

def hash (flag : Flag) : String :=
  flag.name ++ if flag.value then "1" else "0"

end Flag

/-! ## Choices -/

structure Choice where
  name : String
  variants : List String
  /-- Position of the variant that is chosen. -/
  current : Nat
  current_lt : current < variants.length

namespace Choice

/-- A choice set to its first variant. -/
def new (name : String) (variants : List String) : Except AssemblyError Choice :=
  if nonempty : 0 < variants.length then .ok ⟨name, variants, 0, nonempty⟩ else .error (.emptyChoice name)

/-- The chosen variant. -/
def value (choice : Choice) : String := choice.variants.get ⟨choice.current, choice.current_lt⟩

/-- Chooses the first variant of this name, and tells whether the position changed. -/
def set (choice : Choice) (value : String) : Except AssemblyError (Bool × Choice) :=
  let position := choice.variants.idxOf value
  if inside : position < choice.variants.length then
    .ok (choice.current != position, { choice with current := position, current_lt := inside })
  else .error (.unknownVariant choice.name value)

def withValue (name : String) (variants : List String) (value : String) : Except AssemblyError Choice := do
  let choice ← new name variants
  return (← choice.set value).2

/-- One constant for each variant, and one for the choice. -/
def code (choice : Choice) : String :=
  String.join (choice.variants.mapIdx fun index variant =>
    "const " ++ choice.name ++ "_" ++ variant ++ ": u32 = " ++ toString index ++ "u;\n") ++
  "const " ++ choice.name ++ ": u32 = " ++ choice.name ++ "_" ++ choice.value ++ ";\n"

def hash (choice : Choice) : String :=
  choice.name ++ "=" ++ choice.value

end Choice

/-! ## Stencil chunks -/

structure StencilChunk where
  slot : String
  stencil : String
  deriving DecidableEq, Repr

namespace StencilChunk

def generate (chunk : StencilChunk) (slots : SlotBuffer) : Except AssemblyError SlotBuffer :=
  match Stencil.renderNamed chunk.stencil [] with
  | .ok code => .ok (slots.add chunk.slot code)
  | .error cause => .error (.stencil cause)

/-- The code never varies, so the names of slot and stencil stand for it. -/
def hash (chunk : StencilChunk) : String :=
  chunk.slot ++ ":" ++ chunk.stencil

end StencilChunk

end ShaderWeave
