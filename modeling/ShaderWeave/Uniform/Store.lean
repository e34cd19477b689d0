import ShaderWeave.Uniform

/-! # Uniform stores

A store keeps the latest value of each uniform that a program declares, until the graphics layer takes its
bytes. A value is pending from its staging until then; staging an equal value again leaves it as it is.
-/

namespace ShaderWeave

/-- A value as it is kept: a pair is kept as an array of two numbers. -/
inductive StagedUniform where
  | floats (components : Nat) (data : List Single)
  | texture (handle : TextureHandle)
  deriving DecidableEq, Repr

namespace StagedUniform

def ofValue : UniformValue → StagedUniform
  | .floats components data => .floats components data
  | .vec2 value => .floats 2 [value.x, value.y]
  | .texture handle => .texture handle

/-- The value that a kept one stands for. -/
def toValue : StagedUniform → UniformValue
  | .floats components data => .floats components data
  | .texture handle => .texture handle

/-- Equality as numbers, so an array with a NaN differs from itself. -/
def same : StagedUniform → StagedUniform → Bool
  | .floats components data, .floats otherComponents otherData =>
    components == otherComponents && data.length == otherData.length &&
      (data.zip otherData).all fun (left, right) => left.sameNumber right
  | .texture handle, .texture other => decide (handle = other)
  | _, _ => false

/-- Bytes of an array; a texture has none. -/
def bytes? : StagedUniform → Option (List UInt8)
  | .floats _ data => some (data.flatMap Single.bytes)
  | .texture _ => none

def texture? : StagedUniform → Option TextureHandle
  | .floats _ _ => none
  | .texture handle => some handle

end StagedUniform

structure StagedEntry where
  name : String
  value : StagedUniform
  pending : Bool
  deriving DecidableEq, Repr

structure UniformStore where
  /-- Names that the store accepts. -/
  declared : List String
  entries : List StagedEntry := []
  deriving DecidableEq, Repr

namespace UniformStore

def ofDeclared (declared : List String) : UniformStore := { declared := declared.eraseDups }

/-- The declared names in order. -/
def declaredNames (store : UniformStore) : List String :=
  store.declared.mergeSort

def declares (store : UniformStore) (name : String) : Bool :=
  store.declared.contains name

def entry? (store : UniformStore) (name : String) : Option StagedEntry :=
  store.entries.find? fun entry => entry.name == name

/-- Replaces the entry of its name, or adds it. -/
def put (entry : StagedEntry) : List StagedEntry → List StagedEntry
  | [] => [entry]
  | first :: rest => if first.name = entry.name then entry :: rest else first :: put entry rest

/-- Stages a value. A name that is not declared is refused and changes nothing. -/
def stage (store : UniformStore) (name : String) (value : UniformValue) : Bool × UniformStore :=
  if store.declares name then
    let staged := StagedUniform.ofValue value
    match store.entry? name with
    | some entry =>
      if entry.value.same staged then (true, store)
      else (true, { store with entries := put ⟨name, staged, true⟩ store.entries })
    | none => (true, { store with entries := put ⟨name, staged, true⟩ store.entries })
  else (false, store)

def get? (store : UniformStore) (name : String) : Option StagedUniform :=
  (store.entry? name).map (·.value)

def bytes? (store : UniformStore) (name : String) : Option (List UInt8) :=
  (store.get? name).bind StagedUniform.bytes?

def texture? (store : UniformStore) (name : String) : Option TextureHandle :=
  (store.get? name).bind StagedUniform.texture?

def isPending (store : UniformStore) (name : String) : Bool :=
  (store.entry? name).any (·.pending)

/-- Names with a pending value, in order. -/
def pendingNames (store : UniformStore) : List String :=
  ((store.entries.filter (·.pending)).map (·.name)).mergeSort

/-- Gives the bytes of a pending array, which is then no longer pending. -/
def takeBytes (store : UniformStore) (name : String) : Option (List UInt8 × UniformStore) :=
  match store.entry? name with
  | some entry =>
    if entry.pending then
      entry.value.bytes?.map fun bytes =>
        (bytes, { store with entries := put { entry with pending := false } store.entries })
    else none
  | none => none

/-! ## Reading after an edit -/

theorem find?_put (entry : StagedEntry) (name : String) (entries : List StagedEntry) :
    (put entry entries).find? (fun other => other.name == name) =
      if name = entry.name then some entry else entries.find? fun other => other.name == name := by
  induction entries with
  | nil => by_cases same : name = entry.name <;> simp [put, same, Ne.symm]
  | cons first rest ih =>
    by_cases here : first.name = entry.name <;> by_cases same : name = entry.name <;>
      simp [put, here, same]
    all_goals grind

end UniformStore

end ShaderWeave
