import ShaderWeave.Program.Cache

/-! # Ledgers and the texts of programs

References come and go, and programs stay in the ledger under their numbers. What a program was made from is not always
part of it, so a backend may note the texts beside each program; a cache works the same over noted programs.
-/

namespace ShaderWeave

variable {P Q : Type}

/-! ## Programs of a ledger -/

namespace ProgramLedger

theorem entry?_modify (ledger : ProgramLedger P) (id other : ProgramId) (change : ProgramEntry P → ProgramEntry P) :
    ProgramLedger.entry? (ledger.modify id change) other =
      if id = other then (ledger.entry? other).map change else ledger.entry? other := by
  obtain ⟨number⟩ := id
  obtain ⟨otherNumber⟩ := other
  cases number with
  | zero => cases otherNumber <;> simp [ entry?, modify]
  | succ position =>
    cases otherNumber with
    | zero => simp [ entry?]
    | succ otherPosition =>
      simp only [ entry?, modify, List.getElem?_modify, ProgramId.mk.injEq, Nat.add_right_cancel_iff]
      by_cases here : position = otherPosition <;> simp [here]

theorem program?_modify (ledger : ProgramLedger P) (id other : ProgramId) {change : ProgramEntry P → ProgramEntry P}
    (kept : ∀ entry, (change entry).program = entry.program) :
    (ledger.modify id change).program? other = ledger.program? other := by
  rw [program?, entry?_modify]
  split
  · rw [Option.map_map, program?]
    exact congrArg (Option.map · _) (funext kept)
  · rfl

@[simp] theorem program?_retain (ledger : ProgramLedger P) (id other : ProgramId) :
    (ledger.retain id).program? other = ledger.program? other :=
  ledger.program?_modify id other fun _ => rfl

@[simp] theorem program?_release (ledger : ProgramLedger P) (id other : ProgramId) :
    (ledger.release id).program? other = ledger.program? other :=
  ledger.program?_modify id other fun _ => rfl

@[simp] theorem program?_releaseAll (ledger : ProgramLedger P) (ids : List ProgramId) (other : ProgramId) :
    (ledger.releaseAll ids).program? other = ledger.program? other := by
  induction ids generalizing ledger with
  | nil => rfl
  | cons id rest ih => exact (ih _).trans (ledger.program?_release id other)

theorem program?_add (ledger : ProgramLedger P) (program : P) (context : ContextId) (references : Nat) :
    (ledger.add program context references).2.program? (ledger.add program context references).1 = some program := by
  simp [add, program?, entry?]

theorem program?_add_of_found {ledger : ProgramLedger P} {id : ProgramId} {old : P}
    (found : ledger.program? id = some old) (program : P) (context : ContextId) (references : Nat) :
    (ledger.add program context references).2.program? id = some old := by
  obtain ⟨number⟩ := id
  cases number with
  | zero => simp [program?, entry?] at found
  | succ position =>
    obtain ⟨entry, held, rfl⟩ := Option.map_eq_some_iff.1 found
    replace held : ledger.entries[position]? = some entry := held
    simp only [add, program?, entry?]
    rw [List.getElem?_append_left (List.getElem?_eq_some_iff.1 held).1, held]
    rfl

/-! ## Counting references -/

/-- Whether the program was ever made. -/
def Knows (ledger : ProgramLedger P) (id : ProgramId) : Prop := (ledger.entry? id).isSome

variable {ledger : ProgramLedger P} {id : ProgramId}

theorem knows_of_references (referred : 0 < ledger.references id) : ledger.Knows id := by
  cases entry : ledger.entry? id with
  | none => simp [references, entry] at referred
  | some found => simp [Knows, entry]

theorem Knows.modify (knows : ledger.Knows id) (other : ProgramId) (change : ProgramEntry P → ProgramEntry P) :
    (ledger.modify other change).Knows id := by
  rw [Knows, entry?_modify]
  split
  · rw [Option.isSome_map]
    exact knows
  · exact knows

theorem Knows.releaseAll (knows : ledger.Knows id) (ids : List ProgramId) : (ledger.releaseAll ids).Knows id := by
  induction ids generalizing ledger with
  | nil => exact knows
  | cons other rest ih => exact ih (knows.modify other _)

theorem Knows.add (knows : ledger.Knows id) (program : P) (context : ContextId) (references : Nat) :
    (ledger.add program context references).2.Knows id := by
  obtain ⟨number⟩ := id
  cases number with
  | zero => cases knows
  | succ position =>
    have listed : position < ledger.entries.length := by simpa [Knows, entry?] using knows
    simp only [Knows, ProgramLedger.add, entry?, List.getElem?_append_left listed]
    exact knows

theorem knows_add (ledger : ProgramLedger P) (program : P) (context : ContextId) (references : Nat) :
    (ledger.add program context references).2.Knows (ledger.add program context references).1 := by
  simp [Knows, ProgramLedger.add, entry?]

/-- A new program has a number that no program had before. -/
theorem not_knows_new (ledger : ProgramLedger P) (program : P) (context : ContextId) (references : Nat) :
    ¬ ledger.Knows (ledger.add program context references).1 := by
  simp [Knows, ProgramLedger.add, entry?]

theorem references_retain (knows : ledger.Knows id) (other : ProgramId) :
    (ledger.retain id).references other = ledger.references other + if id = other then 1 else 0 := by
  rw [references, retain, entry?_modify]
  split
  · next here =>
    subst here
    obtain ⟨entry, found⟩ := Option.isSome_iff_exists.1 knows
    simp [references, found]
  · rfl

theorem references_release (ledger : ProgramLedger P) (id other : ProgramId) :
    (ledger.release id).references other = ledger.references other - if id = other then 1 else 0 := by
  rw [references, release, entry?_modify]
  split
  · cases found : ledger.entry? other <;> simp [references, found]
  · rfl

theorem references_releaseAll (ledger : ProgramLedger P) (ids : List ProgramId) (other : ProgramId) :
    (ledger.releaseAll ids).references other = ledger.references other - ids.count other := by
  induction ids generalizing ledger with
  | nil => rfl
  | cons id rest ih =>
    rw [show ledger.releaseAll (id :: rest) = (ledger.release id).releaseAll rest from rfl, ih, references_release,
      List.count_cons]
    simp only [beq_iff_eq]
    omega

theorem references_add (ledger : ProgramLedger P) (program : P) (context : ContextId) (references : Nat)
    (other : ProgramId) :
    (ledger.add program context references).2.references other =
      ledger.references other + if (ledger.add program context references).1 = other then references else 0 := by
  obtain ⟨number⟩ := other
  cases number with
  | zero => simp [ProgramLedger.references, entry?, add]
  | succ position =>
    simp only [ProgramLedger.references, entry?, add, ProgramId.mk.injEq, Nat.add_right_cancel_iff]
    rcases Nat.lt_trichotomy position ledger.entries.length with listed | rfl | beyond
    · rw [List.getElem?_append_left listed, if_neg (Nat.ne_of_gt listed), Nat.add_zero]
    · simp
    · rw [List.getElem?_eq_none (by simp; omega), List.getElem?_eq_none (by omega), if_neg (Nat.ne_of_lt beyond)]
      rfl

/-! ## Looking at programs through a function -/

/-- The ledger with a function applied to each program. -/
def map (view : Q → P) (ledger : ProgramLedger Q) : ProgramLedger P :=
  ⟨ledger.entries.map fun entry => ⟨view entry.program, entry.context, entry.references⟩⟩

variable (view : Q → P) (ledger : ProgramLedger Q)

theorem references_map (id : ProgramId) : (ledger.map view).references id = ledger.references id := by
  obtain ⟨number⟩ := id
  cases number with
  | zero => rfl
  | succ position =>
    simp only [references, entry?, map, List.getElem?_map, Option.map_map]
    rfl

theorem map_modify_references (id : ProgramId) (change : Nat → Nat) :
    (ledger.modify id fun entry => { entry with references := change entry.references }).map view =
      (ledger.map view).modify id fun entry => { entry with references := change entry.references } := by
  obtain ⟨number⟩ := id
  cases number with
  | zero => rfl
  | succ position =>
    simp only [modify, map, ProgramLedger.mk.injEq]
    apply List.ext_getElem?
    intro other
    simp only [List.getElem?_map, List.getElem?_modify, Option.map_eq_map, Option.map_map]
    congr 1
    funext entry
    by_cases here : position = other <;> simp [here]

theorem map_retain (id : ProgramId) : (ledger.retain id).map view = (ledger.map view).retain id :=
  ledger.map_modify_references view id (· + 1)

theorem map_release (id : ProgramId) : (ledger.release id).map view = (ledger.map view).release id :=
  ledger.map_modify_references view id (· - 1)

theorem map_releaseAll (ids : List ProgramId) :
    (ledger.releaseAll ids).map view = (ledger.map view).releaseAll ids := by
  induction ids generalizing ledger with
  | nil => rfl
  | cons id rest ih =>
    have first := ih (ledger.release id)
    rw [map_release] at first
    exact first

theorem map_add (program : Q) (context : ContextId) (references : Nat) :
    (ledger.map view).add (view program) context references =
      ((ledger.add program context references).1, (ledger.add program context references).2.map view) := by
  simp [add, map]

end ProgramLedger

/-! ## Noted texts -/

/-- A program with the texts of the vertex and the fragment stage that it was made from. -/
structure Noted (P : Type) where
  program : P
  texts : String × String

/-- The backend, with the texts noted beside each program. -/
def Backend.noting (backend : Backend P) : Backend (Noted P) where
  context := backend.context
  create label vertex fragment := (backend.create label vertex fragment).map fun program => ⟨program, vertex, fragment⟩

/-- The ledger without its notes. -/
abbrev ProgramLedger.plain (ledger : ProgramLedger (Noted P)) : ProgramLedger P := ledger.map (·.program)

namespace ProgramCache

variable (cache : ProgramCache) (ledger : ProgramLedger (Noted P)) (backend : Backend P)

theorem hit?_plain (key : String) :
    cache.hit? ledger.plain key =
      (cache.hit? ledger key).map fun (program, cache, ledger) => (program, cache, ledger.plain) := by
  unfold hit?
  rw [Option.map_map]
  congr 1
  funext program
  rw [← ProgramLedger.map_retain]
  rfl

theorem miss_plain (key : String) (source : ProgramSource) :
    cache.miss ledger.plain backend key source =
      ((cache.miss ledger backend.noting key source).1, (cache.miss ledger backend.noting key source).2.1,
        (cache.miss ledger backend.noting key source).2.2.plain) := by
  simp only [miss, Backend.noting]
  cases backend.create source.template.uid (source.template.resolve source.slots).1
      (source.template.resolve source.slots).2 with
  | error cause => rfl
  | ok program =>
    have added := ledger.map_add (·.program) ⟨program, source.template.resolve source.slots⟩ backend.context 2
    simp only [Except.map, show ledger.plain.add program backend.context 2 = _ from added]

/-- The cache does the same whether texts are noted or not. -/
theorem compileCollection_plain (template : Template) (graph : ChunkGraph) (id : CollectionId) :
    cache.compileCollection ledger.plain backend template graph id =
      let noted := cache.compileCollection ledger backend.noting template graph id
      (noted.1, noted.2.1, noted.2.2.1.plain, noted.2.2.2) := by
  simp only [compileCollection, hit?_plain]
  split
  · rfl
  · next hash graph hashed =>
    cases hit : cache.hit? ledger (Hash.Tokens.hashPair template.uid hash) with
    | some found => simp
    | none =>
      simp only [Option.map_none]
      split
      · rfl
      · rw [miss_plain]

theorem release_plain (program : ProgramId) :
    cache.release ledger.plain program =
      ((cache.release ledger program).1, (cache.release ledger program).2.1,
        (cache.release ledger program).2.2.plain) := by
  simp only [release, ← ProgramLedger.map_release, ProgramLedger.references_map]
  split <;> rfl

theorem purge_plain :
    cache.purge ledger.plain =
      ((cache.purge ledger).1, (cache.purge ledger).2.1, (cache.purge ledger).2.2.plain) := by
  simp only [purge, ProgramLedger.references_map, ← ProgramLedger.map_releaseAll]

theorem clear_plain : cache.clear ledger.plain = ((cache.clear ledger).1, (cache.clear ledger).2.plain) := by
  simp only [clear, ← ProgramLedger.map_releaseAll]

end ProgramCache

end ShaderWeave
