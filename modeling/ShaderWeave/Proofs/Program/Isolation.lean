import Mathlib.Data.List.Induction
import ShaderWeave.Program.Registry
import ShaderWeave.Proofs.Program.Cache

/-! # Caches of several contexts

Devices with different contexts use one registry. Each finds the cache of its own context there, also after the cache was
destroyed and made again, so no device gets a program that another one made.
-/

namespace ShaderWeave

variable {P Device : Type}

namespace CacheRegistry

variable {registry : CacheRegistry} {context other : ContextId} {cache : ProgramCache}

/-! ## Looking a cache up -/

theorem get?_put (registry : CacheRegistry) (context other : ContextId) (cache : ProgramCache) :
    (registry.put context cache).get? other =
      (registry.get? other).map fun old => if other = context then cache else old := by
  obtain ⟨settings, caches⟩ := registry
  simp only [get?, put]
  induction caches with
  | nil => rfl
  | cons first rest ih =>
    obtain ⟨key, old⟩ := first
    by_cases here : other = key
    · simp [here]
    · simp [List.lookup_cons, beq_eq_false_iff_ne.2 here, ih]

theorem fst_getOrCreate (registry : CacheRegistry) (context : ContextId) :
    (registry.getOrCreate context).1 = (registry.get? context).getD (.new context registry.settings) := by
  unfold getOrCreate
  cases registry.get? context <;> rfl

theorem get?_getOrCreate (registry : CacheRegistry) (context other : ContextId) :
    (registry.getOrCreate context).2.get? other =
      if other = context then some (registry.getOrCreate context).1 else registry.get? other := by
  unfold getOrCreate
  cases found : registry.get? context with
  | some cache =>
    by_cases here : other = context
    · rw [if_pos here, here, found]
    · rw [if_neg here]
  | none =>
    by_cases here : other = context
    · simp only [get?] at found
      simp [get?, here, found, List.lookup_append]
    · simp [get?, here, List.lookup_append, List.lookup_cons, beq_eq_false_iff_ne.2 here]

/-- A cache that was looked up or made, and is put back changed. -/
theorem get?_put_getOrCreate (registry : CacheRegistry) (context other : ContextId) (cache : ProgramCache) :
    ((registry.getOrCreate context).2.put context cache).get? other =
      if other = context then some cache else registry.get? other := by
  rw [get?_put, get?_getOrCreate]
  split
  · rfl
  · exact congrFun Option.map_id_fun' _

theorem get?_destroy {ledger after : ProgramLedger P} {rest : CacheRegistry}
    (destroyed : registry.destroy ledger context = some (cache, rest, after)) (other : ContextId) :
    rest.get? other = if other = context then none else registry.get? other := by
  obtain ⟨old, -, same⟩ := Option.map_eq_some_iff.1 destroyed
  cases same
  obtain ⟨settings, caches⟩ := registry
  simp only [get?]
  clear destroyed
  induction caches with
  | nil => simp
  | cons first rest ih =>
    obtain ⟨key, old⟩ := first
    by_cases gone : key = context
    · subst gone
      rw [List.filter_cons_of_neg (by simp), ih]
      split
      · rfl
      · next elsewhere => rw [List.lookup_cons, beq_eq_false_iff_ne.2 elsewhere]
    · rw [List.filter_cons_of_pos (by simpa using gone), List.lookup_cons, List.lookup_cons, ih]
      by_cases here : other = key
      · simp [here, gone]
      · simp [beq_eq_false_iff_ne.2 here]

end CacheRegistry

/-! ## Devices that use a registry -/

/-- What a cache is asked for. -/
inductive CacheRequest where
  | ofSource (source : ProgramSource)
  | ofCollection (template : Template) (graph : ChunkGraph) (collection : CollectionId)

/-- The answer of a cache, with the backend to make the program if the cache does not have it. -/
def CacheRequest.answer (request : CacheRequest) (cache : ProgramCache) (ledger : ProgramLedger P)
    (backend : Backend P) : Outcome (ProgramCache × ProgramLedger P) ProgramId :=
  match request with
  | .ofSource source => cache.compile ledger backend source
  | .ofCollection template graph collection =>
    let (result, cache, ledger, _) := cache.compileCollection ledger backend template graph collection
    (result, cache, ledger)

theorem CacheRequest.served (request : CacheRequest) (cache : ProgramCache) (ledger : ProgramLedger P)
    (backend : Backend P) : ∃ key?, cache.Served ledger backend key? (request.answer cache ledger backend) := by
  cases request with
  | ofSource source => exact ⟨_, cache.served_compile ledger backend source⟩
  | ofCollection template graph collection =>
    exact ⟨_, cache.served_compileCollection ledger backend template graph collection⟩

/-- A registry, with the programs that were made and what clients have of them. -/
structure SharedCaches (P : Type) where
  registry : CacheRegistry
  ledger : ProgramLedger P
  /-- The references of all clients, with a program once for each. -/
  held : List ProgramId

/-- A device is known by the context of its backend. What the backend makes of sources may be different each time. -/
inductive SharedOp (Device P : Type) where
  | request (device : Device) (create : String → String → String → Except AssemblyError P) (request : CacheRequest)
  /-- A client gives a reference back to the cache of a context. -/
  | release (context : ContextId) (program : ProgramId)
  | purge (context : ContextId)
  | destroy (context : ContextId)
  /-- A client takes another reference to a program that it has. -/
  | clone (program : ProgramId)
  | drop (program : ProgramId)

/-- The context whose cache an operation is about. -/
def SharedOp.context? (contexts : Device → ContextId) : SharedOp Device P → Option ContextId
  | .request device _ _ => some (contexts device)
  | .release context _ | .purge context | .destroy context => some context
  | .clone _ | .drop _ => none

namespace SharedCaches

variable {contexts : Device → ContextId} {settings : CacheSettings} {ops : List (SharedOp Device P)} {device : Device}
  {context : ContextId} {cache : ProgramCache} {program : ProgramId}

def start (settings : CacheSettings) : SharedCaches P := ⟨{ settings }, {}, []⟩

/-- A request of a device goes to the cache of its context, which is made first if there is none. -/
def ask (state : SharedCaches P) (backend : Backend P) (request : CacheRequest) : Outcome (SharedCaches P) ProgramId :=
  let (cache, registry) := state.registry.getOrCreate backend.context
  let (result, cache, ledger) := request.answer cache state.ledger backend
  (result, ⟨registry.put backend.context cache, ledger, result.toOption.toList ++ state.held⟩)

/-- Clients can only take, drop or give back references to programs that they have. -/
def step (contexts : Device → ContextId) (state : SharedCaches P) : SharedOp Device P → SharedCaches P
  | .request device create request => (state.ask ⟨contexts device, create⟩ request).2
  | .release context program =>
    match state.registry.get? context with
    | some cache =>
      if program ∈ state.held then
        let (_, cache, ledger) := cache.release state.ledger program
        ⟨state.registry.put context cache, ledger, state.held.erase program⟩
      else state
    | none => state
  | .purge context =>
    match state.registry.get? context with
    | some cache =>
      let (_, cache, ledger) := cache.purge state.ledger
      { state with registry := state.registry.put context cache, ledger }
    | none => state
  | .destroy context =>
    match state.registry.destroy state.ledger context with
    | some (_, registry, ledger) => { state with registry, ledger }
    | none => state
  | .clone program =>
    if program ∈ state.held then
      { state with ledger := state.ledger.retain program, held := program :: state.held }
    else state
  | .drop program =>
    if program ∈ state.held then
      { state with ledger := state.ledger.release program, held := state.held.erase program }
    else state

def run (contexts : Device → ContextId) (settings : CacheSettings) (ops : List (SharedOp Device P)) :
    SharedCaches P :=
  ops.foldl (step contexts) (start settings)

theorem run_concat (op : SharedOp Device P) :
    run contexts settings (ops ++ [op]) = (run contexts settings ops).step contexts op := by
  simp [run]

/-! ## What an operation does to a cache -/

/-- What an operation makes of the cache of its context: it lets it answer a request, takes entries out of it, or removes it
altogether. -/
inductive Turns (contexts : Device → ContextId) (state : SharedCaches P) (context : ContextId) :
    SharedOp Device P → Option ProgramCache → Prop where
  | answers (device : Device) (create : String → String → String → Except AssemblyError P) (request : CacheRequest)
      (own : contexts device = context) :
      Turns contexts state context (.request device create request)
        (some (request.answer (state.registry.getOrCreate context).1 state.ledger ⟨context, create⟩).2.1)
  | shrinks (op : SharedOp Device P) {old cache : ProgramCache} (found : state.registry.get? context = some old)
      (same : cache.context = old.context) (fewer : cache.entries ⊆ old.entries) :
      Turns contexts state context op (some cache)
  | removes (op : SharedOp Device P) : Turns contexts state context op none

/-- An operation on a context is about the cache of this context alone. -/
theorem step_turns (state : SharedCaches P) {op : SharedOp Device P} (about : op.context? contexts = some context) :
    ∃ changed, Turns contexts state context op changed ∧ ∀ other,
      (state.step contexts op).registry.get? other = if other = context then changed else state.registry.get? other := by
  have put {old changed : ProgramCache} (found : state.registry.get? context = some old) (other : ContextId) :
      (state.registry.put context changed).get? other =
        if other = context then some changed else state.registry.get? other := by
    rw [CacheRegistry.get?_put]
    split
    · next here => rw [here, found, Option.map_some]
    · exact congrFun Option.map_id_fun' _
  have unchanged {held : Option ProgramCache} (found : state.registry.get? context = held) (other : ContextId) :
      state.registry.get? other = if other = context then held else state.registry.get? other := by
    split
    · next here => rw [here, found]
    · rfl
  cases op with
  | clone program | drop program => cases about
  | request device create request =>
    cases about
    exact ⟨_, .answers device create request rfl, fun other => state.registry.get?_put_getOrCreate _ other _⟩
  | release context program =>
    cases about
    rw [step]
    cases found : state.registry.get? context with
    | none => exact ⟨none, .removes _, unchanged found⟩
    | some old =>
      dsimp only
      split
      · exact ⟨_, .shrinks _ found (old.context_release _ _) (old.release_spec _ _).1, put found⟩
      · exact ⟨some old, .shrinks _ found rfl (List.Subset.refl _), unchanged found⟩
  | purge context =>
    cases about
    rw [step]
    cases found : state.registry.get? context with
    | none => exact ⟨none, .removes _, unchanged found⟩
    | some old => exact ⟨_, .shrinks _ found (old.context_purge _) (old.purge_spec _).1, put found⟩
  | destroy context =>
    cases about
    refine ⟨none, .removes _, fun other => ?_⟩
    rw [step]
    split
    · next destroyed => exact CacheRegistry.get?_destroy destroyed other
    · next absent => exact unchanged (Option.map_eq_none_iff.1 absent) other

/-- An operation on one context leaves the caches of all others as they are. -/
theorem get?_step_of_ne (state : SharedCaches P) {op : SharedOp Device P}
    (elsewhere : op.context? contexts ≠ some context) :
    (state.step contexts op).registry.get? context = state.registry.get? context := by
  cases about : op.context? contexts with
  | some other =>
    obtain ⟨changed, -, after⟩ := state.step_turns about
    rw [after, if_neg]
    rintro rfl
    exact elsewhere about
  | none =>
    cases op with
    | clone program | drop program =>
      rw [step]
      split <;> rfl
    | request | release | purge | destroy => cases about

/-! ## Who made a program -/

/-- The program was made in a request of the device: the backend of the device made it there, and it was new. -/
def MadeBy (contexts : Device → ContextId) (settings : CacheSettings) (ops : List (SharedOp Device P)) (device : Device)
    (program : ProgramId) : Prop :=
  ∃ before create request after label vertex fragment made,
    ops = before ++ .request device create request :: after ∧ create label vertex fragment = .ok made ∧
      ¬ (run contexts settings before).ledger.Knows program ∧
      (run contexts settings (before ++ [.request device create request])).ledger.program? program = some made

theorem MadeBy.concat (made : MadeBy contexts settings ops device program) (op : SharedOp Device P) :
    MadeBy contexts settings (ops ++ [op]) device program := by
  obtain ⟨before, create, request, after, label, vertex, fragment, program, rfl, made⟩ := made
  exact ⟨before, create, request, after ++ [op], label, vertex, fragment, program, by simp, made⟩

/-- The cache is one of this context, and devices with the context made its programs. -/
structure Owned (contexts : Device → ContextId) (settings : CacheSettings) (ops : List (SharedOp Device P))
    (context : ContextId) (cache : ProgramCache) : Prop where
  own : cache.context = context
  made : ∀ program ∈ cache.programs, ∃ device, contexts device = context ∧ MadeBy contexts settings ops device program

theorem Owned.fewer {old : ProgramCache} (owned : Owned contexts settings ops context old) (op : SharedOp Device P)
    (same : cache.context = old.context) (subset : cache.entries ⊆ old.entries) :
    Owned contexts settings (ops ++ [op]) context cache := by
  refine ⟨same.trans owned.own, fun program listed => ?_⟩
  obtain ⟨device, own, made⟩ := owned.made program (List.map_subset _ subset listed)
  exact ⟨device, own, made.concat op⟩

/-- The caches that are found after some operations belong to the contexts that they are found by. -/
def Isolated (contexts : Device → ContextId) (settings : CacheSettings) (ops : List (SharedOp Device P)) : Prop :=
  ∀ context cache, (run contexts settings ops).registry.get? context = some cache →
    Owned contexts settings ops context cache

/-- The cache that a device asks is that of its context, whether it was there or is new. -/
theorem Isolated.getOrCreate (isolated : Isolated contexts settings ops) (context : ContextId) :
    Owned contexts settings ops context ((run contexts settings ops).registry.getOrCreate context).1 := by
  rw [CacheRegistry.fst_getOrCreate]
  cases found : (run contexts settings ops).registry.get? context with
  | none => exact ⟨rfl, nofun⟩
  | some old => exact isolated context old found

/-- What a cache has or gives after a request was made for its context. -/
theorem Isolated.answer (isolated : Isolated contexts settings ops) (device : Device)
    (create : String → String → String → Except AssemblyError P) (request : CacheRequest) :
    let state := run contexts settings ops
    let answer := request.answer (state.registry.getOrCreate (contexts device)).1 state.ledger ⟨contexts device, create⟩
    let after := ops ++ [.request device create request]
    Owned contexts settings after (contexts device) answer.2.1 ∧
      ∀ program, answer.1 = .ok program →
        ∃ other, contexts other = contexts device ∧ MadeBy contexts settings after other program := by
  intro state answer after
  have owned := isolated.getOrCreate (contexts device)
  obtain ⟨key?, served⟩ := request.served (state.registry.getOrCreate (contexts device)).1 state.ledger
    ⟨contexts device, create⟩
  have reaches (program : ProgramId) (reached : program ∈ answer.2.1.programs ∨ answer.1 = .ok program) :
      ∃ other, contexts other = contexts device ∧ MadeBy contexts settings after other program := by
    rcases served.kept_or_made reached with old | ⟨label, vertex, fragment, new, created, fresh, stands⟩
    · obtain ⟨other, same, made⟩ := owned.made program old
      exact ⟨other, same, made.concat _⟩
    · refine ⟨device, rfl, ops, create, request, [], label, vertex, fragment, new, rfl, created, fresh, ?_⟩
      rw [run_concat]
      exact stands
  exact ⟨⟨served.context_eq.trans owned.own, fun program listed => reaches program (.inl listed)⟩,
    fun program given => reaches program (.inr given)⟩

theorem isolated_run (contexts : Device → ContextId) (settings : CacheSettings) (ops : List (SharedOp Device P)) :
    Isolated contexts settings ops := by
  induction ops using List.reverseRecOn with
  | nil => exact nofun
  | append_singleton ops op ih =>
    intro context cache found
    rw [run_concat] at found
    by_cases about : op.context? contexts = some context
    · obtain ⟨changed, turns, after⟩ := step_turns _ about
      rw [after, if_pos rfl] at found
      subst found
      cases turns with
      | answers device create request own =>
        subst own
        exact (ih.answer device create request).1
      | shrinks _ before same fewer => exact (ih context _ before).fewer op same fewer
    · rw [get?_step_of_ne _ about] at found
      exact (ih context cache found).fewer op rfl (List.Subset.refl _)

/-- **Contexts are isolated.** Devices have different contexts and use one registry, while clients do what they like with
their references. Then each cache is under its own context, and the cache that a request goes to is that of the device. All
programs that a cache has, and all that it gives for a request, were made by the device with the context. To look a cache
up or make it never replaces one, and an operation on one context leaves the caches of all others as they are. -/
theorem contexts_are_isolated (contexts : Device → ContextId) (distinct : Function.Injective contexts)
    (settings : CacheSettings) (ops : List (SharedOp Device P)) :
    let state := run contexts settings ops
    (∀ context cache, state.registry.get? context = some cache → cache.context = context) ∧
    (∀ device cache, state.registry.get? (contexts device) = some cache →
      ∀ program ∈ cache.programs, MadeBy contexts settings ops device program) ∧
    (∀ device create request,
      (state.registry.getOrCreate (contexts device)).1.context = contexts device ∧
      ∀ program, (state.ask ⟨contexts device, create⟩ request).1 = .ok program →
        MadeBy contexts settings (ops ++ [.request device create request]) device program) ∧
    (∀ context cache, state.registry.get? context = some cache → ∀ asked,
      (state.registry.getOrCreate asked).2.get? context = some cache ∧
      (asked = context → (state.registry.getOrCreate asked).1 = cache)) ∧
    ∀ op context, op.context? contexts ≠ some context →
      (state.step contexts op).registry.get? context = state.registry.get? context := by
  intro state
  have isolated := isolated_run contexts settings ops
  refine ⟨fun context cache found => (isolated context cache found).own, ?_, ?_, ?_,
    fun op context elsewhere => state.get?_step_of_ne elsewhere⟩
  · intro device cache found program listed
    obtain ⟨other, same, made⟩ := (isolated _ cache found).made program listed
    exact distinct same ▸ made
  · intro device create request
    refine ⟨(isolated.getOrCreate _).own, fun program given => ?_⟩
    obtain ⟨other, same, made⟩ := (isolated.answer device create request).2 program given
    exact distinct same ▸ made
  · intro context cache found asked
    have first : asked = context → (state.registry.getOrCreate asked).1 = cache := by
      rintro rfl
      rw [CacheRegistry.fst_getOrCreate, found, Option.getD_some]
    refine ⟨?_, first⟩
    rw [CacheRegistry.get?_getOrCreate]
    split
    · next here => rw [first here.symm]
    · exact found

/-! ## Two devices -/

def twoContexts : Bool → ContextId
  | false => ⟨1⟩
  | true => ⟨2⟩

/-- A request that every device answers with the program's own vertex text. -/
def plainRequest (device : Bool) : SharedOp Bool String :=
  .request device (fun _ vertex _ => .ok vertex) (.ofSource ⟨⟨"plain", "fn main", ""⟩, .empty⟩)

/-- Both devices ask for the same, and the first one's context is lost and used again. -/
def lostContext : List (SharedOp Bool String) :=
  [plainRequest false, plainRequest true, .destroy ⟨1⟩, plainRequest false]

/-- The client has the program of the lost cache, but the new cache does not. -/
theorem lost_context_is_used_again :
    Function.Injective twoContexts ∧
    let state := run twoContexts {} lostContext
    state.held = [⟨3⟩, ⟨2⟩, ⟨1⟩] ∧
    ∃ first second, state.registry.get? ⟨1⟩ = some first ∧ first.programs = [⟨3⟩] ∧
      state.registry.get? ⟨2⟩ = some second ∧ second.programs = [⟨2⟩] ∧
      MadeBy twoContexts {} lostContext false ⟨3⟩ ∧ MadeBy twoContexts {} lostContext true ⟨2⟩ := by
  have distinct : Function.Injective twoContexts := by
    rintro (_ | _) (_ | _) same
    all_goals first | rfl | cases same
  obtain ⟨-, made, -⟩ := contexts_are_isolated twoContexts distinct {} lostContext
  have first : ((run twoContexts {} lostContext).registry.get? ⟨1⟩).map (·.programs) = some [⟨3⟩] := rfl
  have second : ((run twoContexts {} lostContext).registry.get? ⟨2⟩).map (·.programs) = some [⟨2⟩] := rfl
  obtain ⟨first, foundFirst, firstPrograms⟩ := Option.map_eq_some_iff.1 first
  obtain ⟨second, foundSecond, secondPrograms⟩ := Option.map_eq_some_iff.1 second
  exact ⟨distinct, rfl, first, second, foundFirst, firstPrograms, foundSecond, secondPrograms,
    made false first foundFirst _ (by simp [firstPrograms]), made true second foundSecond _ (by simp [secondPrograms])⟩

end SharedCaches

end ShaderWeave
