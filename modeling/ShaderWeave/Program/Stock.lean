import ShaderWeave.Names
import ShaderWeave.Program.Registry

/-! # Program stocks

A stock holds templates, backends, caches and registries by name, with the ledger of all programs that were made, and
the references to them that its user holds under names. It keeps the books: an operation enters its programs in the
ledger, and a reference that is replaced or dropped is given back.

Operations on a backend, cache or registry that is not bound give nothing.
-/

namespace ShaderWeave

/-- What a stock knows of a backend. -/
structure StockedBackend where
  context : ContextId
  /-- Whether its programs stage their uniforms; otherwise they record them. -/
  staging : Bool
  /-- While given, all sources are refused with this diagnostic. -/
  refusal : Option String := none
  /-- Number of programs made. -/
  made : Nat := 0
  deriving DecidableEq, Repr

def StockedBackend.backend (stocked : StockedBackend) : Backend Program :=
  match stocked.refusal with
  | some diagnostic => .refusing stocked.context diagnostic
  | none => if stocked.staging then .staging stocked.context else .recording stocked.context

/-- Where a cache is found. A registry makes the cache of a context when it is first asked for it. -/
inductive CachePlace where
  | named (name : String)
  | registered (registry : String) (context : ContextId)
  deriving DecidableEq, Repr

/-- What a program got: the values pushed to it since the last look, or the names that wait for their upload. -/
inductive ProgramView where
  | calls (calls : List UniformCall)
  | pending (names : List String)
  deriving DecidableEq, Repr

structure ProgramStock where
  /-- How many contexts were opened. -/
  contexts : Nat := 0
  backends : Names StockedBackend := {}
  templates : Names Template := {}
  caches : Names ProgramCache := {}
  registries : Names CacheRegistry := {}
  ledger : ProgramLedger Program := {}
  /-- References of the user. -/
  held : Names ProgramId := {}

namespace ProgramStock

/-! ## Backends -/

/-- A backend for a new context. -/
def openBackend (stock : ProgramStock) (name : String) (staging : Bool) : ContextId × ProgramStock :=
  let context := ⟨stock.contexts + 1⟩
  (context,
    { stock with contexts := stock.contexts + 1, backends := stock.backends.bind name { context, staging } })

def modifyBackend (stock : ProgramStock) (name : String) (change : StockedBackend → StockedBackend) :
    ProgramStock :=
  match stock.backends.lookup? name with
  | some backend => { stock with backends := stock.backends.bind name (change backend) }
  | none => stock

/-- Counts the programs by which the ledger grew. -/
def countMade (stock : ProgramStock) (name : String) (before : ProgramLedger Program) : ProgramStock :=
  stock.modifyBackend name fun backend =>
    { backend with made := backend.made + (stock.ledger.entries.length - before.entries.length) }

def addTemplate (stock : ProgramStock) (name : String) (template : Template) : ProgramStock :=
  { stock with templates := stock.templates.bind name template }

/-! ## Caches -/

/-- Binds a new cache. One that had the name before gives its references back. -/
def addCache (stock : ProgramStock) (name : String) (context : ContextId) (settings : CacheSettings) :
    ProgramStock :=
  let ledger := match stock.caches.lookup? name with
    | some old => (old.clear stock.ledger).2
    | none => stock.ledger
  { stock with ledger, caches := stock.caches.bind name (.new context settings) }

/-- Binds a new registry. One that had the name before gives the references of its caches back. -/
def addRegistry (stock : ProgramStock) (name : String) (settings : CacheSettings) : ProgramStock :=
  let ledger := match stock.registries.lookup? name with
    | some old => old.caches.foldl (fun ledger (_, cache) => (cache.clear ledger).2) stock.ledger
    | none => stock.ledger
  { stock with ledger, registries := stock.registries.bind name { settings } }

/-- The cache at a place. -/
def cache? (stock : ProgramStock) : CachePlace → Option ProgramCache
  | .named name => stock.caches.lookup? name
  | .registered registry context => (stock.registries.lookup? registry).map fun registry =>
    (registry.getOrCreate context).1

def putCache (stock : ProgramStock) (cache : ProgramCache) : CachePlace → ProgramStock
  | .named name => { stock with caches := stock.caches.bind name cache }
  | .registered name context =>
    match stock.registries.lookup? name with
    | some registry =>
      { stock with registries := stock.registries.bind name ((registry.getOrCreate context).2.put context cache) }
    | none => stock

/-- Runs an operation of a cache on the ledger. -/
def onCache {α : Type} (stock : ProgramStock) (place : CachePlace)
    (operation : ProgramCache → ProgramLedger Program → α × ProgramCache × ProgramLedger Program) :
    Option (α × ProgramStock) :=
  (stock.cache? place).map fun cache =>
    let (result, cache, ledger) := operation cache stock.ledger
    (result, { stock with ledger }.putCache cache place)

/-- Takes the cache of a context out of a registry. -/
def destroyCache (stock : ProgramStock) (name : String) (context : ContextId) :
    Option (Option ProgramCache × ProgramStock) :=
  (stock.registries.lookup? name).map fun registry =>
    match registry.destroy stock.ledger context with
    | some (cache, registry, ledger) =>
      (some cache, { stock with ledger, registries := stock.registries.bind name registry })
    | none => (none, stock)

/-! ## Programs -/

/-- Gives the user's new reference to a name, or drops it at once. A reference that the name held is dropped. -/
def hold (stock : ProgramStock) (name : Option String) (id : ProgramId) : ProgramStock :=
  match name with
  | none => { stock with ledger := stock.ledger.release id }
  | some name =>
    let ledger := match stock.held.lookup? name with
      | some old => stock.ledger.release old
      | none => stock.ledger
    { stock with ledger, held := stock.held.bind name id }

/-- Ends the making of a program: counts it, and holds the user's reference to it if there is one. -/
def keep (stock : ProgramStock) (before : ProgramLedger Program) (backendName : String) (name : Option String)
    (result : Except AssemblyError ProgramId) : Outcome ProgramStock ProgramId :=
  let counted := stock.countMade backendName before
  match result with
  | .error cause => (.error cause, counted)
  | .ok id => (.ok id, counted.hold name id)

/-- Makes a program outside all caches, and holds it under a name if one is given. -/
def create (stock : ProgramStock) (backendName label vertex fragment : String) (name : Option String) :
    Option (Outcome ProgramStock ProgramId) :=
  (stock.backends.lookup? backendName).map fun backend =>
    match backend.backend.create label vertex fragment with
    | .error cause => (.error cause, stock)
    | .ok program =>
      let (id, ledger) := stock.ledger.add program backend.context 1
      { stock with ledger }.keep stock.ledger backendName name (.ok id)

/-- The program of a source, from a cache. It is held under a name if one is given. -/
def compile (stock : ProgramStock) (place : CachePlace) (backendName : String) (source : ProgramSource)
    (name : Option String) : Option (Outcome ProgramStock ProgramId) := do
  let backend ← stock.backends.lookup? backendName
  let (result, next) ← stock.onCache place fun cache ledger => cache.compile ledger backend.backend source
  return next.keep stock.ledger backendName name result

/-- The program of a template and a collection, from a cache. It is held under a name if one is given. -/
def compileCollection (stock : ProgramStock) (graph : ChunkGraph) (place : CachePlace) (backendName : String)
    (template : Template) (collection : CollectionId) (name : Option String) :
    Option (Outcome (ProgramStock × ChunkGraph) ProgramId) := do
  let backend ← stock.backends.lookup? backendName
  let ((result, graph), next) ← stock.onCache place fun cache ledger =>
    let (result, cache, ledger, graph) :=
      cache.compileCollection ledger backend.backend template graph collection
    ((result, graph), cache, ledger)
  let (result, stock) := next.keep stock.ledger backendName name result
  return (result, stock, graph)

/-- Gives a held reference to a cache, which tells whether it evicted the program. The name is unbound. -/
def release (stock : ProgramStock) (place : CachePlace) (name : String) : Option (Option Bool × ProgramStock) :=
  match stock.held.lookup? name with
  | none => some (none, stock)
  | some id =>
    ({ stock with held := stock.held.unbind name }.onCache place fun cache ledger => cache.release ledger id).map
      fun (evicted, stock) => (some evicted, stock)

/-- Drops a held reference and gives the number of those that are left. The name is unbound. -/
def forget (stock : ProgramStock) (name : String) : Option Nat × ProgramStock :=
  match stock.held.lookup? name with
  | none => (none, stock)
  | some id =>
    let ledger := stock.ledger.release id
    (some (ledger.references id), { stock with ledger, held := stock.held.unbind name })

/-- Number of references to a held program. -/
def references? (stock : ProgramStock) (name : String) : Option Nat :=
  (stock.held.lookup? name).map stock.ledger.references

/-- The program that a name holds. -/
def program? (stock : ProgramStock) (name : String) : Option Program :=
  (stock.held.lookup? name).bind stock.ledger.program?

def modifyProgram (stock : ProgramStock) (name : String) (change : Program → Program) : ProgramStock :=
  match stock.held.lookup? name with
  | some id => { stock with ledger := stock.ledger.modifyProgram id change }
  | none => stock

/-- Pushes values to a held program and looks at what it got. -/
def push (stock : ProgramStock) (name : String) (calls : List UniformCall) :
    Option (ProgramView × ProgramStock) :=
  (stock.program? name).map fun program =>
    match program.setUniforms calls with
    | .recorded recorded =>
      let (calls, recorded) := recorded.takeCalls
      (.calls calls, stock.modifyProgram name fun _ => .recorded recorded)
    | .staged staged =>
      (.pending staged.uniforms.pendingNames, stock.modifyProgram name fun _ => .staged staged)

end ProgramStock

end ShaderWeave
