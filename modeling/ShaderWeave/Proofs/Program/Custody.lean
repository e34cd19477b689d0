import ShaderWeave.Proofs.Program.Cache

/-! # Programs in use

Clients take and drop references between the operations of a cache, whenever they like. The references to a program are
those of the clients and one of the cache, if it keeps the program. So what a cache may evict is what no client has, and a
program in use stays the only one for its key.
-/

namespace ShaderWeave

/-- A cache, with what its clients have. -/
structure Custody (P : Type) where
  cache : ProgramCache
  ledger : ProgramLedger P
  /-- The references of all clients, with a program once for each. -/
  held : List ProgramId
  /-- The programs handed out so far, with the keys that they were asked for with. -/
  given : List (String × ProgramId)

inductive CustodyOp (P : Type) where
  | compile (backend : Backend P) (source : ProgramSource)
  | compileCollection (backend : Backend P) (template : Template) (graph : ChunkGraph) (collection : CollectionId)
  /-- A client gives a reference back. -/
  | release (program : ProgramId)
  | purge
  /-- A client takes another reference to a program that it has. -/
  | clone (program : ProgramId)
  | drop (program : ProgramId)
  /-- A client gets a program from elsewhere. -/
  | adopt (program : P) (context : ContextId)

namespace Custody

variable {P : Type} {custody : Custody P} {key : String} {key? : Option String} {program : ProgramId}
  {answer : Outcome (ProgramCache × ProgramLedger P) ProgramId}

def start (context : ContextId) (settings : CacheSettings) : Custody P := ⟨.new context settings, {}, [], []⟩

/-- A client gets an answer of the cache. -/
def receive (custody : Custody P) (key? : Option String) :
    Outcome (ProgramCache × ProgramLedger P) ProgramId → Custody P
  | (.ok program, cache, ledger) =>
    ⟨cache, ledger, program :: custody.held, (key?.map (·, program)).toList ++ custody.given⟩
  | (.error _, cache, ledger) => { custody with cache, ledger }

/-- A client drops a reference, by itself or as part of giving it back. -/
def forget (custody : Custody P) (program : ProgramId) : Custody P :=
  { custody with ledger := custody.ledger.release program, held := custody.held.erase program }

/-- Clients can only take, drop or give back references to programs that they have. -/
def step (custody : Custody P) : CustodyOp P → Custody P
  | .compile backend source =>
    custody.receive (some source.key) (custody.cache.compile custody.ledger backend source)
  | .compileCollection backend template graph collection =>
    let (result, cache, ledger, _) := custody.cache.compileCollection custody.ledger backend template graph collection
    custody.receive (ProgramCache.collectionKey? template graph collection) (result, cache, ledger)
  | .release program =>
    if program ∈ custody.held then
      let (_, cache, ledger) := custody.cache.release custody.ledger program
      { custody with cache, ledger, held := custody.held.erase program }
    else custody
  | .purge =>
    let (_, cache, ledger) := custody.cache.purge custody.ledger
    { custody with cache, ledger }
  | .clone program =>
    if program ∈ custody.held then
      { custody with ledger := custody.ledger.retain program, held := program :: custody.held }
    else custody
  | .drop program => if program ∈ custody.held then custody.forget program else custody
  | .adopt program context =>
    let (id, ledger) := custody.ledger.add program context 1
    { custody with ledger, held := id :: custody.held }

def run (custody : Custody P) (ops : List (CustodyOp P)) : Custody P := ops.foldl step custody

/-- References are accounted for, and a program that was given for a key is the cache's program for that key, or gone
for good. -/
structure Accounted (custody : Custody P) : Prop where
  keys : (custody.cache.entries.map (·.key)).Nodup
  programs : custody.cache.programs.Nodup
  counted : ∀ id, custody.ledger.references id = custody.held.count id + custody.cache.programs.count id
  known : ∀ key id, (key, id) ∈ custody.given → custody.ledger.Knows id
  kept : ∀ key id, (key, id) ∈ custody.given →
    ⟨key, id⟩ ∈ custody.cache.entries ∨ id ∉ custody.held ∧ id ∉ custody.cache.programs

theorem accounted_start (context : ContextId) (settings : CacheSettings) :
    (start context settings : Custody P).Accounted where
  keys := .nil
  programs := .nil
  counted := by
    rintro ⟨number⟩
    cases number <;> rfl
  known _ _ given := nomatch given
  kept _ _ given := nomatch given

namespace Accounted

theorem knows_held (accounted : custody.Accounted) (held : program ∈ custody.held) : custody.ledger.Knows program :=
  ProgramLedger.knows_of_references <| by
    have := List.count_pos_iff.2 held
    rw [accounted.counted]
    omega

theorem knows_cached (accounted : custody.Accounted) (cached : program ∈ custody.cache.programs) :
    custody.ledger.Knows program :=
  ProgramLedger.knows_of_references <| by
    have := List.count_pos_iff.2 cached
    rw [accounted.counted]
    omega

/-- If there is but one reference to a program of the cache, it is the cache's. -/
theorem not_held (accounted : custody.Accounted) (cached : program ∈ custody.cache.programs)
    (last : custody.ledger.references program ≤ 1) : program ∉ custody.held := by
  have := accounted.counted program
  have := List.count_pos_iff.2 cached
  exact List.count_eq_zero.1 (by omega)

/-- A program in use is the cache's program for the key that it was given for. -/
theorem get?_of_held (accounted : custody.Accounted) (given : (key, program) ∈ custody.given)
    (held : program ∈ custody.held) : custody.cache.get? key = some program := by
  rcases accounted.kept key program given with cached | ⟨unheld, -⟩
  · obtain ⟨before, after, entries⟩ := List.append_of_mem cached
    have keys := accounted.keys
    rw [entries, List.map_append, List.map_cons] at keys
    have earlier : ∀ entry ∈ before, entry.key ≠ key := by
      intro entry member same
      exact (List.nodup_append.1 keys).2.2 entry.key (List.mem_map_of_mem member) key (by simp) same
    simp only [ProgramCache.get?, entries, List.find?_append]
    rw [List.find?_eq_none.2 (by simpa using earlier)]
    simp
  · exact absurd held unheld

end Accounted

/-! ## What operations preserve -/

namespace Accounted

/-- An answer from the cache is one more reference for the client. -/
theorem receive_hit (accounted : custody.Accounted) (found : custody.cache.get? key = some program) :
    (custody.receive (some key) (.ok program, custody.cache.countHit, custody.ledger.retain program)).Accounted := by
  have cached := ProgramCache.mem_of_get? found
  have listed : program ∈ custody.cache.programs := List.mem_map_of_mem cached
  have knows := accounted.knows_cached listed
  refine ⟨accounted.keys, accounted.programs, fun id => ?_, fun key' id given => ?_, fun key' id given => ?_⟩
  · have := accounted.counted id
    simp only [Custody.receive, ProgramLedger.references_retain knows, List.count_cons, beq_iff_eq]
    simp only [ProgramCache.programs, ProgramCache.countHit] at this ⊢
    omega
  · rcases List.mem_cons.1 given with new | old
    · cases new
      exact knows.modify _ _
    · exact (accounted.known key' id old).modify _ _
  · rcases List.mem_cons.1 given with new | old
    · cases new
      exact .inl cached
    · refine (accounted.kept key' id old).imp_right fun free => ⟨?_, free.2⟩
      rintro (_ | ⟨_, held⟩)
      · exact free.2 listed
      · exact free.1 held

/-- A program that is made has two references, one of the cache and one of the client. -/
theorem receive_made (accounted : custody.Accounted) (absent : custody.cache.get? key = none) (made : P)
    (context : ContextId) (stats : CacheStats) :
    (custody.receive (some key) (.ok (custody.ledger.add made context 2).1,
      { custody.cache with
        entries := custody.cache.entries ++ [⟨key, (custody.ledger.add made context 2).1⟩], stats },
      (custody.ledger.add made context 2).2)).Accounted := by
  have fresh := custody.ledger.not_knows_new made context 2
  have unheld := fun held => fresh (accounted.knows_held held)
  have uncached := fun cached => fresh (accounted.knows_cached cached)
  refine ⟨?_, ?_, fun id => ?_, fun key' id given => ?_, fun key' id given => ?_⟩
  · simp only [Custody.receive, List.map_append]
    refine List.nodup_append.2 ⟨accounted.keys, List.nodup_singleton _, ?_⟩
    simp only [ProgramCache.get?, Option.map_eq_none_iff, List.find?_eq_none] at absent
    simpa using absent
  · simp only [Custody.receive, ProgramCache.programs, List.map_append]
    refine List.nodup_append.2 ⟨accounted.programs, List.nodup_singleton _, ?_⟩
    rintro id cached new isNew rfl
    obtain rfl := List.mem_singleton.1 isNew
    exact uncached cached
  · have := accounted.counted id
    simp only [Custody.receive, ProgramCache.programs, ProgramLedger.references_add, List.count_cons,
      List.map_append, List.map_cons, List.map_nil, List.count_append, List.count_nil, beq_iff_eq] at this ⊢
    split <;> omega
  · rcases List.mem_cons.1 given with new | old
    · cases new
      exact custody.ledger.knows_add made context 2
    · exact (accounted.known key' id old).add _ _ _
  · rcases List.mem_cons.1 given with new | old
    · cases new
      exact .inl (List.mem_append_right _ (List.mem_singleton_self _))
    · have different : id ≠ (custody.ledger.add made context 2).1 := by
        rintro rfl
        exact fresh (accounted.known key' _ old)
      refine (accounted.kept key' id old).imp (List.mem_append_left _) fun free => ⟨?_, ?_⟩
      · simpa [Custody.receive, different] using free.1
      · simpa [Custody.receive, ProgramCache.programs, different] using free.2

theorem receive (accounted : custody.Accounted) {backend : Backend P}
    (served : ProgramCache.Served custody.cache custody.ledger backend key? answer) :
    (custody.receive key? answer).Accounted := by
  cases served with
  | refused | unready => exact ⟨accounted.1, accounted.2, accounted.3, accounted.4, accounted.5⟩
  | hit found => exact accounted.receive_hit found
  | made absent created => exact accounted.receive_made absent _ backend.context _

theorem clone (accounted : custody.Accounted) (held : program ∈ custody.held) :
    ({ custody with
      ledger := custody.ledger.retain program, held := program :: custody.held } : Custody P).Accounted where
  keys := accounted.keys
  programs := accounted.programs
  counted id := by
    have := accounted.counted id
    simp only [ProgramLedger.references_retain (accounted.knows_held held), List.count_cons, beq_iff_eq]
    omega
  known key id given := (accounted.known key id given).modify _ _
  kept key id given := by
    refine (accounted.kept key id given).imp_right fun free => ⟨?_, free.2⟩
    rintro (_ | ⟨_, old⟩)
    · exact free.1 held
    · exact free.1 old

theorem adopt (accounted : custody.Accounted) (program : P) (context : ContextId) :
    (custody.step (.adopt program context)).Accounted where
  keys := accounted.keys
  programs := accounted.programs
  counted id := by
    have := accounted.counted id
    simp only [Custody.step, ProgramLedger.references_add, List.count_cons, beq_iff_eq]
    omega
  known key id given := (accounted.known key id given).add _ _ _
  kept key id given := by
    refine (accounted.kept key id given).imp_right fun ⟨unheld, uncached⟩ => ⟨?_, uncached⟩
    rintro (_ | ⟨_, old⟩)
    · exact custody.ledger.not_knows_new program context 1 (accounted.known key _ given)
    · exact unheld old

theorem forget (accounted : custody.Accounted) (held : program ∈ custody.held) :
    (custody.forget program).Accounted where
  keys := accounted.keys
  programs := accounted.programs
  counted id := by
    have := accounted.counted id
    have := List.count_pos_iff.2 held
    simp only [Custody.forget, ProgramLedger.references_release, List.count_erase, beq_iff_eq]
    split
    · next same =>
      subst same
      omega
    · omega
  known key id given := (accounted.known key id given).modify _ _
  kept key id given := (accounted.kept key id given).imp_right fun ⟨unheld, uncached⟩ =>
    ⟨fun old => unheld (List.mem_of_mem_erase old), uncached⟩

/-- The cache drops one program that nobody else has. -/
theorem evict (accounted : custody.Accounted) (cached : program ∈ custody.cache.programs)
    (last : custody.ledger.references program = 1) (stats : CacheStats) :
    ({ custody with
      cache := { custody.cache with
        entries := custody.cache.entries.eraseP fun entry => entry.program == program, stats }
      ledger := custody.ledger.release program } : Custody P).Accounted := by
  have programs : (custody.cache.entries.eraseP fun entry => entry.program == program).map (·.program) =
      custody.cache.programs.erase program := by
    rw [List.erase_eq_eraseP', ProgramCache.programs, List.eraseP_map]
    rfl
  refine ⟨accounted.keys.sublist (List.eraseP_sublist.map _), ?_, fun id => ?_,
    fun key id given => (accounted.known key id given).modify _ _, fun key id given => ?_⟩
  · simp only [ProgramCache.programs, programs]
    exact accounted.programs.erase program
  · have counted := accounted.counted id
    have listed := List.count_pos_iff.2 cached
    simp only [ProgramLedger.references_release, ProgramCache.programs, programs, List.count_erase, beq_iff_eq]
    simp only [ProgramCache.programs] at counted listed ⊢
    split
    · next same =>
      subst same
      omega
    · omega
  · simp only [ProgramCache.programs, programs]
    rcases accounted.kept key id given with old | ⟨unheld, uncached⟩
    · by_cases same : id = program
      · subst same
        exact .inr ⟨accounted.not_held cached (Nat.le_of_eq last), accounted.programs.not_mem_erase⟩
      · exact .inl ((List.mem_eraseP_of_neg (by simpa using same)).2 old)
    · exact .inr ⟨unheld, fun old => uncached (List.mem_of_mem_erase old)⟩

theorem release (accounted : custody.Accounted) (held : program ∈ custody.held) :
    (custody.step (.release program)).Accounted := by
  have forgotten := accounted.forget held
  simp only [step, if_pos held, ProgramCache.release]
  split
  · next unused => exact forgotten.evict unused.1 unused.2 _
  · exact forgotten

theorem purge (accounted : custody.Accounted) : (custody.step .purge).Accounted := by
  simp only [step, ProgramCache.purge, List.partition_eq_filter_filter, ProgramCache.countEvictions]
  refine ⟨accounted.keys.sublist (List.filter_sublist.map _), accounted.programs.sublist (List.filter_sublist.map _),
    fun id => ?_, fun key id given => (accounted.known key id given).releaseAll _, fun key id given => ?_⟩
  · have split := ((List.filter_append_perm (fun entry => decide (1 < custody.ledger.references entry.program))
      custody.cache.entries).map (·.program)).count_eq id
    have := accounted.counted id
    rw [List.map_append, List.count_append] at split
    simp only [ProgramLedger.references_releaseAll, ProgramCache.programs] at this ⊢
    rw [this, ← split, ← Nat.add_assoc]
    exact Nat.add_sub_cancel ..
  · rcases accounted.kept key id given with old | ⟨unheld, uncached⟩
    · by_cases shared : 1 < custody.ledger.references id
      · exact .inl (List.mem_filter.2 ⟨old, by simpa using shared⟩)
      · refine .inr ⟨accounted.not_held (List.mem_map_of_mem old) (by omega), fun cached => ?_⟩
        obtain ⟨entry, member, rfl⟩ := List.mem_map.1 cached
        exact shared (by simpa using (List.mem_filter.1 member).2)
    · exact .inr ⟨unheld, fun cached => uncached (List.Sublist.subset (List.filter_sublist.map _) cached)⟩

theorem step (accounted : custody.Accounted) (op : CustodyOp P) : (custody.step op).Accounted := by
  cases op with
  | compile backend source => exact accounted.receive (custody.cache.served_compile _ backend source)
  | compileCollection backend template graph collection =>
    exact accounted.receive (custody.cache.served_compileCollection _ backend template graph collection)
  | release program =>
    by_cases held : program ∈ custody.held
    · exact accounted.release held
    · simpa only [Custody.step, if_neg held] using accounted
  | purge => exact accounted.purge
  | clone program =>
    by_cases held : program ∈ custody.held
    · simpa only [Custody.step, if_pos held] using accounted.clone held
    · simpa only [Custody.step, if_neg held] using accounted
  | drop program =>
    by_cases held : program ∈ custody.held
    · simpa only [Custody.step, if_pos held] using accounted.forget held
    · simpa only [Custody.step, if_neg held] using accounted
  | adopt program context => exact accounted.adopt program context

theorem run (accounted : custody.Accounted) (ops : List (CustodyOp P)) : (custody.run ops).Accounted := by
  induction ops generalizing custody with
  | nil => exact accounted
  | cons op rest ih => exact ih (accounted.step op)

end Accounted

/-! ## Programs in use -/

/-- A program that an operation takes out of the cache is one that no client has afterwards. -/
theorem Accounted.not_held_of_evicted (accounted : custody.Accounted) {op : CustodyOp P} {entry : CachedProgram}
    (cached : entry ∈ custody.cache.entries) (evicted : entry ∉ (custody.step op).cache.entries) :
    entry.program ∉ (custody.step op).held := by
  have stays {key? : Option String} {answer} {backend : Backend P}
      (served : ProgramCache.Served custody.cache custody.ledger backend key? answer) :
      entry ∈ (custody.receive key? answer).cache.entries := by
    cases served with
    | hit | refused | unready => exact cached
    | made => exact List.mem_append_left _ cached
  cases op with
  | compile backend source => exact absurd (stays (custody.cache.served_compile _ backend source)) evicted
  | compileCollection backend template graph collection =>
    exact absurd (stays (custody.cache.served_compileCollection _ backend template graph collection)) evicted
  | clone program | drop program =>
    simp only [Custody.step] at evicted
    split at evicted <;> exact absurd cached evicted
  | adopt program context => exact absurd cached evicted
  | purge =>
    have unused : ¬ 1 < custody.ledger.references entry.program := by
      simpa [Custody.step, ProgramCache.purge, ProgramCache.countEvictions, cached] using evicted
    exact accounted.not_held (List.mem_map_of_mem cached) (by omega)
  | release program =>
    by_cases held : program ∈ custody.held
    · have forgotten := accounted.forget held
      simp only [Custody.step, if_pos held, ProgramCache.release] at evicted ⊢
      split at evicted
      · next unused =>
        have same : entry.program = program := by
          by_contra different
          exact evicted ((List.mem_eraseP_of_neg (by simpa using different)).2 cached)
        rw [same]
        exact forgotten.not_held unused.1 (Nat.le_of_eq unused.2)
      · exact absurd cached evicted
    · simp only [Custody.step, if_neg held] at evicted
      exact absurd cached evicted

/-- **Programs in use stay.** As long as a client has a program that was given for a key, every request with that key is a
hit that gives this program, whatever the backend would make and whichever graph asks. No operation evicts a program that a
client has. So clients never have two programs of one key. -/
theorem held_programs_stay (context : ContextId) (settings : CacheSettings) (ops : List (CustodyOp P)) :
    let custody := (start context settings).run ops
    (∀ key program, (key, program) ∈ custody.given → program ∈ custody.held →
      (∀ backend source, source.key = key →
        custody.cache.compile custody.ledger backend source = (.ok program, custody.cache.countHit, custody.ledger.retain program)) ∧
      ∀ backend template graph collection,
        ProgramCache.collectionKey? template graph collection = some key →
        custody.cache.compileCollection custody.ledger backend template graph collection =
          (.ok program, custody.cache.countHit, custody.ledger.retain program, (graph.collectionHash collection).2)) ∧
    (∀ op, ∀ entry ∈ custody.cache.entries, entry ∉ (custody.step op).cache.entries →
      entry.program ∉ (custody.step op).held) ∧
    ∀ key first second, (key, first) ∈ custody.given → (key, second) ∈ custody.given → first ∈ custody.held →
      second ∈ custody.held → first = second := by
  intro custody
  have accounted : custody.Accounted := (accounted_start context settings).run ops
  refine ⟨fun key program given held => ?_, fun op entry cached evicted => ?_, ?_⟩
  · have found := accounted.get?_of_held given held
    refine ⟨?_, fun backend template graph collection asked => ?_⟩
    · rintro backend source rfl
      exact ProgramCache.compile_of_get? found custody.ledger backend
    · exact ProgramCache.compileCollection_of_get? asked found custody.ledger backend
  · exact accounted.not_held_of_evicted cached evicted
  · intro key first second givenFirst givenSecond heldFirst heldSecond
    have foundFirst := accounted.get?_of_held givenFirst heldFirst
    have foundSecond := accounted.get?_of_held givenSecond heldSecond
    exact Option.some.inj (foundFirst.symm.trans foundSecond)

end Custody

end ShaderWeave
