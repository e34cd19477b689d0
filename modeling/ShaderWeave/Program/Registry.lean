import ShaderWeave.Program.Cache

/-! # Cache registries

A registry keeps one program cache for each graphics context. A cache is made when its context is first used, and lives
until the context is destroyed.
-/

namespace ShaderWeave

structure CacheRegistry where
  /-- Settings of the caches made from now on. -/
  settings : CacheSettings := {}
  /-- Each cache under the context that it is found by. -/
  caches : List (ContextId × ProgramCache) := []
  deriving DecidableEq, Repr

namespace CacheRegistry

variable {P : Type}

def size (registry : CacheRegistry) : Nat := registry.caches.length

def isEmpty (registry : CacheRegistry) : Bool := registry.caches.isEmpty

def get? (registry : CacheRegistry) (context : ContextId) : Option ProgramCache :=
  registry.caches.lookup context

/-- The cache of a context, made if there is none. -/
def getOrCreate (registry : CacheRegistry) (context : ContextId) : ProgramCache × CacheRegistry :=
  match registry.get? context with
  | some cache => (cache, registry)
  | none =>
    let cache := ProgramCache.new context registry.settings
    (cache, { registry with caches := registry.caches ++ [(context, cache)] })

/-- Puts a changed cache in the place of the one under a context. -/
def put (registry : CacheRegistry) (context : ContextId) (cache : ProgramCache) : CacheRegistry :=
  { registry with
    caches := registry.caches.map fun (other, old) => (other, if other = context then cache else old) }

/-- Takes the cache of a context out, which drops its references. -/
def destroy (registry : CacheRegistry) (ledger : ProgramLedger P) (context : ContextId) :
    Option (ProgramCache × CacheRegistry × ProgramLedger P) :=
  (registry.get? context).map fun cache =>
    (cache, { registry with caches := registry.caches.filter fun (other, _) => other != context },
      ledger.releaseAll cache.programs)

end CacheRegistry

end ShaderWeave
