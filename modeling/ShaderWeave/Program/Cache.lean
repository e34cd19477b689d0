import ShaderWeave.Collection
import ShaderWeave.Hash.Tokens
import ShaderWeave.Program.Ledger
import ShaderWeave.Template

/-! # Program caches

A cache keeps the programs of one context by a key that stands for their sources: the template's name and the stamp of
the slots, which covers all that the chunks generate. Slots filled by hand have no stamp and are keyed by their code. So a
program that is found is neither resolved nor compiled again.

The cache holds one reference to each of its programs. A program is evicted only when that is the last one.
-/

namespace ShaderWeave

/-- A template with the slots to be put into it. -/
structure ProgramSource where
  template : Template
  slots : SlotBuffer
  deriving DecidableEq, Repr

namespace ProgramSource

/-- What the key is made of. The empty second token keeps code apart from stamps. -/
def keyTokens (source : ProgramSource) : List String :=
  if source.slots.stamp ≠ "" ∨ source.slots.isEmpty then [source.template.uid, source.slots.stamp]
  else [source.template.uid, ""] ++ source.slots.entries.flatMap fun entry => [entry.key, entry.code]

def key (source : ProgramSource) : String :=
  Hash.Tokens.hash source.keyTokens

end ProgramSource

/-- What a cache has done since it was made. -/
structure CacheStats where
  hits : Nat := 0
  misses : Nat := 0
  /-- Programs made. -/
  compilations : Nat := 0
  /-- Sources refused. -/
  failures : Nat := 0
  evictions : Nat := 0
  deriving DecidableEq, Repr

structure CachedProgram where
  key : String
  program : ProgramId
  deriving DecidableEq, Repr

structure ProgramCache where
  context : ContextId
  settings : CacheSettings := {}
  entries : List CachedProgram := []
  stats : CacheStats := {}
  deriving DecidableEq, Repr

namespace ProgramCache

variable {P : Type}

def new (context : ContextId) (settings : CacheSettings) : ProgramCache := { context, settings }

def size (cache : ProgramCache) : Nat := cache.entries.length

def isEmpty (cache : ProgramCache) : Bool := cache.entries.isEmpty

def get? (cache : ProgramCache) (key : String) : Option ProgramId :=
  (cache.entries.find? fun entry => entry.key == key).map (·.program)

def contains (cache : ProgramCache) (key : String) : Bool := (cache.get? key).isSome

/-- Programs of the cache. -/
def programs (cache : ProgramCache) : List ProgramId := cache.entries.map (·.program)

/-- The program under `key`, with one more reference for the caller. -/
def hit? (cache : ProgramCache) (ledger : ProgramLedger P) (key : String) :
    Option (ProgramId × ProgramCache × ProgramLedger P) :=
  (cache.get? key).map fun program =>
    (program, { cache with stats := { cache.stats with hits := cache.stats.hits + 1 } }, ledger.retain program)

/-- Makes a program and keeps it under `key`. Besides the cache, the caller has a reference. Nothing is kept of
sources that the backend refuses. -/
def miss (cache : ProgramCache) (ledger : ProgramLedger P) (backend : Backend P) (key : String)
    (source : ProgramSource) : Outcome (ProgramCache × ProgramLedger P) ProgramId :=
  let stats := { cache.stats with misses := cache.stats.misses + 1 }
  let (vertex, fragment) := source.template.resolve source.slots
  match backend.create source.template.uid vertex fragment with
  | .error cause =>
    (.error cause, { cache with stats := { stats with failures := stats.failures + 1 } }, ledger)
  | .ok program =>
    let (id, ledger) := ledger.add program backend.context 2
    (.ok id,
      { cache with
        entries := cache.entries ++ [⟨key, id⟩]
        stats := { stats with compilations := stats.compilations + 1 } },
      ledger)

/-- The program of a source, made if the cache does not have it. -/
def compile (cache : ProgramCache) (ledger : ProgramLedger P) (backend : Backend P) (source : ProgramSource) :
    Outcome (ProgramCache × ProgramLedger P) ProgramId :=
  match cache.hit? ledger source.key with
  | some (program, cache, ledger) => (.ok program, cache, ledger)
  | none => cache.miss ledger backend source.key source

/-- The program of a template and a collection. Code is generated only if the cache does not have the program. -/
def compileCollection (cache : ProgramCache) (ledger : ProgramLedger P) (backend : Backend P)
    (template : Template) (graph : ChunkGraph) (collection : CollectionId) :
    Outcome (ProgramCache × ProgramLedger P × ChunkGraph) ProgramId :=
  match graph.collectionHash collection with
  | (.error cause, graph) => (.error cause, cache, ledger, graph)
  | (.ok hash, graph) =>
    let key := Hash.Tokens.hashPair template.uid hash
    match cache.hit? ledger key with
    | some (program, cache, ledger) => (.ok program, cache, ledger, graph)
    | none =>
      match graph.collectionGenerate collection with
      | (.error cause, graph) => (.error cause, cache, ledger, graph)
      | (.ok slots, graph) =>
        let (result, cache, ledger) := cache.miss ledger backend key ⟨template, slots⟩
        (result, cache, ledger, graph)

/-- Counts programs that were dropped because nobody else held them. -/
def countEvictions (cache : ProgramCache) (count : Nat) : ProgramCache :=
  { cache with stats := { cache.stats with evictions := cache.stats.evictions + count } }

/-- Gives a reference back. The program is evicted if the cache then holds the only one; tells whether it was. -/
def release (cache : ProgramCache) (ledger : ProgramLedger P) (program : ProgramId) :
    Bool × ProgramCache × ProgramLedger P :=
  let ledger := ledger.release program
  if program ∈ cache.programs ∧ ledger.references program = 1 then
    let rest := { cache with entries := cache.entries.eraseP fun entry => entry.program == program }
    (true, rest.countEvictions 1, ledger.release program)
  else (false, cache, ledger)

/-- Evicts every program that nobody else holds, and tells how many there were. -/
def purge (cache : ProgramCache) (ledger : ProgramLedger P) : Nat × ProgramCache × ProgramLedger P :=
  let (kept, unused) := cache.entries.partition fun entry => 1 < ledger.references entry.program
  (unused.length, { cache with entries := kept }.countEvictions unused.length,
    ledger.releaseAll (unused.map (·.program)))

/-- Drops all programs, which are not counted as evictions. -/
def clear (cache : ProgramCache) (ledger : ProgramLedger P) : ProgramCache × ProgramLedger P :=
  ({ cache with entries := [] }, ledger.releaseAll cache.programs)

end ProgramCache

end ShaderWeave
