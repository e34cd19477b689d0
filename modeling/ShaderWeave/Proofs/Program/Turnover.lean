import ShaderWeave.Proofs.Program.Custody

/-! # The books of a program cache

Whatever a cache was asked for, and whatever its clients did meanwhile, its counters tell where each program went: a miss
made a program or was refused, and a program that was made is still there, was evicted, or was dropped when the cache was
cleared. What is evicted is decided by the references of the clients alone, not by the order of the entries.
-/

namespace ShaderWeave

variable {P : Type}

namespace ProgramCache

/-! ## Counters -/

/-- The counters of a cache agree with each other and with its entries, if `cleared` programs were dropped by clearing. -/
structure Balanced (cache : ProgramCache) (cleared : Nat) : Prop where
  requests : cache.stats.misses = cache.stats.compilations + cache.stats.failures
  programs : cache.stats.compilations = cache.size + cache.stats.evictions + cleared

variable {cache : ProgramCache} {ledger : ProgramLedger P} {cleared : Nat}

theorem balanced_new (context : ContextId) (settings : CacheSettings) : (new context settings).Balanced 0 :=
  ⟨rfl, rfl⟩

theorem Served.balanced {backend : Backend P} {key? : Option String}
    {answer : Outcome (ProgramCache × ProgramLedger P) ProgramId} (served : Served cache ledger backend key? answer)
    (balanced : cache.Balanced cleared) : answer.2.1.Balanced cleared := by
  obtain ⟨requests, programs⟩ := balanced
  cases served with
  | hit | unready => exact ⟨requests, programs⟩
  | refused absent cause => exact ⟨by simp only [countRefused, requests, Nat.add_assoc], programs⟩
  | made absent created =>
    refine ⟨by simp only [countMade]; omega, ?_⟩
    simp only [size, countMade, List.length_append, List.length_singleton] at programs ⊢
    omega

theorem Balanced.release (balanced : cache.Balanced cleared) (ledger : ProgramLedger P) (program : ProgramId) :
    (cache.release ledger program).2.1.Balanced cleared := by
  unfold ProgramCache.release
  dsimp only
  split
  · next unused =>
    obtain ⟨entry, cached, same⟩ := List.mem_map.1 unused.1
    have shorter : (cache.entries.eraseP fun other => other.program == program).length = cache.entries.length - 1 :=
      List.length_eraseP_of_mem cached (by simpa using same)
    have occupied : 0 < cache.entries.length := List.length_pos_of_mem cached
    refine ⟨balanced.requests, ?_⟩
    have programs := balanced.programs
    simp only [countEvictions, size] at programs ⊢
    omega
  · exact balanced

theorem Balanced.purge (balanced : cache.Balanced cleared) (ledger : ProgramLedger P) :
    (cache.purge ledger).2.1.Balanced cleared := by
  have parts := List.length_eq_length_filter_add (l := cache.entries)
    fun entry => decide (1 < ledger.references entry.program)
  refine ⟨balanced.requests, ?_⟩
  have programs := balanced.programs
  simp only [ProgramCache.purge, countEvictions, size, List.partition_eq_filter_filter, Function.comp_def]
    at programs parts ⊢
  omega

theorem Balanced.clear (balanced : cache.Balanced cleared) (ledger : ProgramLedger P) :
    (cache.clear ledger).1.Balanced (cleared + cache.size) := by
  refine ⟨balanced.requests, ?_⟩
  have programs := balanced.programs
  simp only [ProgramCache.clear, size, List.length_nil] at programs ⊢
  omega

/-! ## Entries in any order -/

/-- With each program under one key, the entry that a search finds is the same in every order of the entries. -/
theorem find?_of_perm {order entries : List CachedProgram} (same : order.Perm entries)
    (once : (entries.map (·.program)).Nodup) (program : ProgramId) :
    order.find? (fun entry => entry.program == program) = entries.find? fun entry => entry.program == program := by
  have unique : ∀ {listed : List CachedProgram}, (listed.map (·.program)).Nodup → ∀ entry,
      listed.find? (fun entry => entry.program == program) = some entry ↔ entry ∈ listed ∧ entry.program = program := by
    intro listed once entry
    constructor
    · intro found
      exact ⟨List.mem_of_find?_eq_some found, by simpa using List.find?_some found⟩
    · rintro ⟨member, rfl⟩
      cases found : listed.find? fun other => other.program == entry.program with
      | none => exact absurd (List.find?_eq_none.1 found entry member) (by simp)
      | some other =>
        have twin : other.program = entry.program := by simpa using List.find?_some found
        rw [List.inj_on_of_nodup_map once (List.mem_of_find?_eq_some found) member twin]
  ext entry
  rw [unique once, unique ((same.map _).nodup_iff.2 once), same.mem_iff]

/-- Without the first entry of a program, none is left. -/
theorem eraseP_eq_filter {entries : List CachedProgram} (once : (entries.map (·.program)).Nodup) (program : ProgramId) :
    entries.eraseP (fun entry => entry.program == program) = entries.filter (·.program ≠ program) := by
  induction entries with
  | nil => rfl
  | cons first rest ih =>
    obtain ⟨new, once⟩ := List.nodup_cons.1 once
    by_cases here : first.program = program
    · have others : rest.filter (·.program ≠ program) = rest := by
        refine List.filter_eq_self.2 fun entry member => ?_
        rw [decide_eq_true_iff, ← here]
        exact fun same => new (List.mem_map.2 ⟨entry, member, same⟩)
      rw [List.eraseP_cons_of_pos (by simpa using here), List.filter_cons_of_neg (by simpa using here), others]
    · simp [here, ih once]

end ProgramCache

/-! ## What clients have decides what is evicted -/

namespace Custody

variable {custody : Custody P} {program : ProgramId}

theorem cache_receive (custody : Custody P) (key? : Option String)
    (answer : Outcome (ProgramCache × ProgramLedger P) ProgramId) : (custody.receive key? answer).cache = answer.2.1 := by
  obtain ⟨cause | program, cache, ledger⟩ := answer <;> rfl

/-- The cache has one reference to a program that it keeps, and the clients have the others. -/
theorem Accounted.references_of_cached (accounted : custody.Accounted) (cached : program ∈ custody.cache.programs) :
    custody.ledger.references program = custody.held.count program + 1 := by
  rw [accounted.counted, List.count_eq_one_of_mem accounted.programs cached]

/-- A program that is given back is evicted if the cache keeps it and this was the only reference of a client, in whatever
order the entries are. -/
theorem Accounted.release_eq (accounted : custody.Accounted) (held : program ∈ custody.held)
    {order : List CachedProgram} (same : order.Perm custody.cache.entries) :
    let (evicted, rest, _) := { custody.cache with entries := order }.release custody.ledger program
    (evicted = true ↔ program ∈ custody.cache.programs ∧ custody.held.count program = 1) ∧
      rest.entries = if evicted then order.filter (·.program ≠ program) else order := by
  have programs : ({ custody.cache with entries := order } : ProgramCache).programs.Perm custody.cache.programs :=
    same.map _
  have last : program ∈ custody.cache.programs →
      ((custody.ledger.release program).references program = 1 ↔ custody.held.count program = 1) := by
    intro cached
    have counted := List.count_pos_iff.2 held
    rw [ProgramLedger.references_release, if_pos rfl, accounted.references_of_cached cached]
    omega
  have decides : program ∈ ({ custody.cache with entries := order } : ProgramCache).programs ∧
      (custody.ledger.release program).references program = 1 ↔
        program ∈ custody.cache.programs ∧ custody.held.count program = 1 := by
    rw [programs.mem_iff]
    exact and_congr_right last
  unfold ProgramCache.release
  dsimp only
  split
  · next unused =>
    refine ⟨iff_of_true rfl (decides.1 unused), ?_⟩
    exact ProgramCache.eraseP_eq_filter ((same.map _).nodup_iff.2 accounted.programs) program
  · next used => exact ⟨iff_of_false Bool.false_ne_true (mt decides.2 used), rfl⟩

/-- A purge keeps the programs that clients have. -/
theorem Accounted.purge_eq (accounted : custody.Accounted) :
    let (count, rest, _) := custody.cache.purge custody.ledger
    rest.entries = custody.cache.entries.filter (·.program ∈ custody.held) ∧
      count = (custody.cache.entries.filter (·.program ∉ custody.held)).length := by
  have shared : ∀ entry ∈ custody.cache.entries,
      1 < custody.ledger.references entry.program ↔ entry.program ∈ custody.held := by
    intro entry cached
    rw [accounted.references_of_cached (List.mem_map_of_mem cached), ← List.count_pos_iff]
    omega
  simp only [ProgramCache.purge, ProgramCache.countEvictions, List.partition_eq_filter_filter, Function.comp_def]
  refine ⟨List.filter_congr fun entry cached => by simp [shared entry cached], ?_⟩
  exact congrArg List.length <| List.filter_congr fun entry cached => by simp [shared entry cached]

end Custody

/-! ## Runs -/

/-- A cache in use that is cleared now and then. -/
structure Turnover (P : Type) where
  custody : Custody P
  /-- How many programs were dropped by clearing. -/
  cleared : Nat

inductive TurnoverOp (P : Type) where
  | use (op : CustodyOp P)
  | clear

namespace Turnover

variable {state : Turnover P}

def start (context : ContextId) (settings : CacheSettings) : Turnover P := ⟨.start context settings, 0⟩

/-- Clearing leaves the clients what they have, but none of it is what the cache has for a key any more. -/
def step (state : Turnover P) : TurnoverOp P → Turnover P
  | .use op => { state with custody := state.custody.step op }
  | .clear =>
    let (cache, ledger) := state.custody.cache.clear state.custody.ledger
    ⟨{ state.custody with cache, ledger, given := [] }, state.cleared + state.custody.cache.size⟩

def run (state : Turnover P) (ops : List (TurnoverOp P)) : Turnover P := ops.foldl step state

/-- References are accounted for, and so is every program. -/
structure Settled (state : Turnover P) : Prop where
  accounted : state.custody.Accounted
  balanced : state.custody.cache.Balanced state.cleared

theorem settled_start (context : ContextId) (settings : CacheSettings) :
    (start context settings : Turnover P).Settled where
  accounted := Custody.accounted_start context settings
  balanced := ProgramCache.balanced_new context settings

theorem Settled.use (settled : state.Settled) (op : CustodyOp P) : (state.step (.use op)).Settled where
  accounted := settled.accounted.step op
  balanced := by
    have balanced := settled.balanced
    cases op with
    | compile backend source =>
      rw [step, Custody.step, Custody.cache_receive]
      exact (state.custody.cache.served_compile state.custody.ledger backend source).balanced balanced
    | compileCollection backend template graph collection =>
      rw [step, Custody.step, Custody.cache_receive]
      exact (state.custody.cache.served_compileCollection state.custody.ledger backend template graph
        collection).balanced balanced
    | release program =>
      simp only [step, Custody.step]
      split
      · exact balanced.release _ program
      · exact balanced
    | purge => exact balanced.purge _
    | clone program | drop program =>
      simp only [step, Custody.step]
      split <;> exact balanced
    | adopt program context => exact balanced

theorem Settled.clear (settled : state.Settled) : (state.step .clear).Settled where
  accounted := by
    refine ⟨.nil, .nil, fun id => ?_, fun _ _ given => (nomatch given), fun _ _ given => (nomatch given)⟩
    have counted := settled.accounted.counted id
    simp only [step, ProgramCache.clear, ProgramCache.programs, ProgramLedger.references_releaseAll, List.map_nil,
      List.count_nil] at counted ⊢
    omega
  balanced := settled.balanced.clear state.custody.ledger

theorem Settled.run (settled : state.Settled) (ops : List (TurnoverOp P)) : (state.run ops).Settled := by
  induction ops generalizing state with
  | nil => exact settled
  | cons op rest ih =>
    cases op with
    | use op => exact ih (settled.use op)
    | clear => exact ih settled.clear

/-- **The books balance.** In every state of a cache, whichever of its requests failed and whatever clients did with their
references: a miss made a program or was refused, and a program that was made is in the cache, was evicted or was dropped
by clearing. No two keys have the same program, so the entry of a program is the same in every order of the entries. To
give a reference back tells whether the cache keeps the program and no client has it any more, and then takes out the
entry of this program and no other. A purge takes out the programs that no client has, and counts them. -/
theorem books_balance (context : ContextId) (settings : CacheSettings) (ops : List (TurnoverOp P)) :
    let state := (start context settings).run ops
    let cache := state.custody.cache
    let ledger := state.custody.ledger
    let held := state.custody.held
    cache.stats.misses = cache.stats.compilations + cache.stats.failures ∧
    cache.stats.compilations = cache.size + cache.stats.evictions + state.cleared ∧
    (cache.entries.map (·.key)).Nodup ∧ cache.programs.Nodup ∧
    (∀ order : List CachedProgram, order.Perm cache.entries → ∀ program,
      order.find? (fun entry => entry.program == program) =
        cache.entries.find? fun entry => entry.program == program) ∧
    (∀ program ∈ held, ∀ order : List CachedProgram, order.Perm cache.entries →
      let (evicted, rest, _) := { cache with entries := order }.release ledger program
      (evicted = true ↔ program ∈ cache.programs ∧ held.count program = 1) ∧
        rest.entries = if evicted then order.filter (·.program ≠ program) else order) ∧
    let (count, rest, _) := cache.purge ledger
    rest.entries = cache.entries.filter (·.program ∈ held) ∧
      count = (cache.entries.filter (·.program ∉ held)).length := by
  intro state cache ledger held
  have settled : state.Settled := (settled_start context settings).run ops
  have accounted := settled.accounted
  exact ⟨settled.balanced.requests, settled.balanced.programs, accounted.keys, accounted.programs,
    fun order same => ProgramCache.find?_of_perm same accounted.programs,
    fun program client order same => accounted.release_eq client same, accounted.purge_eq⟩

end Turnover

end ShaderWeave
