import ShaderWeave.Proofs.Uniform.Store

/-! # What the consumer of a store knows

Values are staged, and the consumer takes the bytes of what is pending, in any order. It keeps the last bytes that it took
for each name. As long as a name is not pending, these are the bytes of its value, up to the sign of a zero: a value that is
equal as numbers to the one in the store is not handed over again.
-/

namespace ShaderWeave

/-- A store, with what it accepted and what was taken from it. -/
structure UniformExchange where
  store : UniformStore
  /-- The values that were accepted, the latest first. -/
  accepted : List UniformCall := []
  /-- The bytes that were taken, with the names that they were asked for with, the latest first. -/
  taken : List (String × List UInt8) := []

inductive UniformOp where
  | stage (call : UniformCall)
  | take (name : String)

namespace UniformExchange

variable {state : UniformExchange} {name : String} {data : List Single}

def start (declared : List String) : UniformExchange := { store := .ofDeclared declared }

def step (state : UniformExchange) : UniformOp → UniformExchange
  | .stage call =>
    let (accepted, store) := state.store.stage call.name call.value
    { state with store, accepted := if accepted then call :: state.accepted else state.accepted }
  | .take name =>
    match state.store.takeBytes name with
    | some (bytes, store) => { state with store, taken := (name, bytes) :: state.taken }
    | none => state

def run (state : UniformExchange) (ops : List UniformOp) : UniformExchange := ops.foldl step state

/-- The latest value that was accepted for a name, as the store keeps it. -/
def latest? (state : UniformExchange) (name : String) : Option StagedUniform :=
  (state.accepted.find? fun call => call.name == name).map fun call => .ofValue call.value

/-- The last bytes that were taken for a name. -/
def lastTaken? (state : UniformExchange) (name : String) : Option (List UInt8) := state.taken.lookup name

/-- The consumer has the numbers of an array: those that it reads from its last bytes are the same bit by bit, but for the
sign of a zero. -/
def Has (state : UniformExchange) (name : String) (data : List Single) : Prop :=
  ∃ bytes numbers, state.lastTaken? name = some bytes ∧ Single.readAll bytes = some numbers ∧
    List.Forall₂ Single.Alike numbers data

/-! ## What operations preserve -/

theorem declared_step (state : UniformExchange) (op : UniformOp) :
    (state.step op).store.declared = state.store.declared := by
  cases op with
  | stage call => exact state.store.declared_stage call.name call.value
  | take name =>
    rw [step]
    rcases state.store.takeBytes_cases name with ⟨nothing, -⟩ | ⟨components, data, after, -, taken, same, -⟩
    · rw [nothing]
    · rw [taken]
      exact same

theorem declared_run (state : UniformExchange) (ops : List UniformOp) :
    (state.run ops).store.declared = state.store.declared := by
  induction ops generalizing state with
  | nil => rfl
  | cons op rest ih => exact (ih (state.step op)).trans (state.declared_step op)

theorem latest?_stage (state : UniformExchange) (call : UniformCall) (other : String) :
    (state.step (.stage call)).latest? other =
      if other = call.name ∧ call.name ∈ state.store.declared then some (.ofValue call.value)
      else state.latest? other := by
  simp only [step, latest?, UniformStore.stage_accepts_iff]
  by_cases accepted : call.name ∈ state.store.declared
  · by_cases same : other = call.name
    · simp [accepted, same]
    · simp [accepted, same, Ne.symm same]
  · simp [accepted]

/-- The store holds the latest value of a name up to equality, and the consumer has its bytes if it is not pending. -/
structure Faithful (state : UniformExchange) (name : String) : Prop where
  declared : ∀ entry, state.store.entry? name = some entry → name ∈ state.store.declared
  latest : ∀ value, state.latest? name = some value →
    ∃ entry, state.store.entry? name = some entry ∧ value.Alike entry.value
  taken : ∀ entry, state.store.entry? name = some entry → entry.pending = false →
    ∃ components data, entry.value = .floats components data ∧ state.lastTaken? name = some (data.flatMap Single.bytes)

theorem faithful_start (declared : List String) (name : String) : Faithful (start declared) name := ⟨nofun, nofun, nofun⟩

namespace Faithful

/-- What is done to other names does not matter. -/
theorem of_same (faithful : Faithful state name) {after : UniformExchange}
    (declared : after.store.declared = state.store.declared)
    (entry : after.store.entry? name = state.store.entry? name) (latest : after.latest? name = state.latest? name)
    (last : after.lastTaken? name = state.lastTaken? name) : Faithful after name := by
  refine ⟨?_, ?_, ?_⟩
  · rw [entry, declared]
    exact faithful.declared
  · rw [latest, entry]
    exact faithful.latest
  · rw [entry, last]
    exact faithful.taken

theorem stage (faithful : Faithful state name) (call : UniformCall) : Faithful (state.step (.stage call)) name := by
  have declared := state.declared_step (.stage call)
  have entry := state.store.entry?_stage call.name name call.value
  have latest := state.latest?_stage call name
  by_cases accepted : name = call.name ∧ call.name ∈ state.store.declared
  · obtain ⟨rfl, stands⟩ := accepted
    rw [if_pos ⟨rfl, stands⟩] at latest
    cases same : state.store.holdsSame call.name (.ofValue call.value) with
    | false =>
      -- The value is now in the store, and pending.
      rw [if_pos ⟨rfl, stands, same⟩] at entry
      refine ⟨fun _ _ => declared ▸ stands, fun value asked => ?_, fun held found settled => ?_⟩
      · cases latest.symm.trans asked
        exact ⟨_, entry, .refl _⟩
      · cases entry.symm.trans found
        cases settled
    | true =>
      -- The store holds an equal value, and keeps it.
      rw [if_neg (by simp [same])] at entry
      refine ⟨fun _ _ => declared ▸ stands, fun value asked => ?_,
        fun held found => faithful.taken held (entry.symm.trans found)⟩
      cases latest.symm.trans asked
      obtain ⟨held, found, equal⟩ := (Option.any_eq_true _ _).1 same
      exact ⟨held, entry.trans found, (StagedUniform.alike_of_same equal).symm⟩
  · refine faithful.of_same declared (entry.trans ?_) (latest.trans (if_neg accepted)) rfl
    exact if_neg fun staged => accepted ⟨staged.1, staged.2.1⟩

theorem take (faithful : Faithful state name) (asked : String) : Faithful (state.step (.take asked)) name := by
  rcases state.store.takeBytes_cases asked with
    ⟨nothing, -⟩ | ⟨components, data, after, pending, taken, declared, entry⟩
  · rw [step, nothing]
    exact faithful
  · have next : state.step (.take asked) =
        ⟨after, state.accepted, (asked, data.flatMap Single.bytes) :: state.taken⟩ := by rw [step, taken]
    rw [next]
    by_cases here : name = asked
    · subst here
      have kept := (entry name).trans (if_pos rfl)
      refine ⟨fun _ _ => declared ▸ faithful.declared _ pending, fun value wanted => ?_, fun held found _ => ?_⟩
      · obtain ⟨held, found, alike⟩ := faithful.latest value wanted
        obtain rfl := Option.some.inj (pending.symm.trans found)
        exact ⟨_, kept, alike⟩
      · cases kept.symm.trans found
        exact ⟨components, data, rfl, by simp [lastTaken?]⟩
    · refine faithful.of_same declared ((entry name).trans (if_neg here)) rfl ?_
      rw [lastTaken?, List.lookup_cons, beq_eq_false_iff_ne.2 here]
      rfl

theorem run (faithful : Faithful state name) (ops : List UniformOp) : Faithful (state.run ops) name := by
  induction ops generalizing state with
  | nil => exact faithful
  | cons op rest ih =>
    cases op with
    | stage call => exact ih (faithful.stage call)
    | take asked => exact ih (faithful.take asked)

/-- The consumer has the latest value of a name that is not pending. -/
theorem has (faithful : Faithful state name) {components : Nat}
    (latest : state.latest? name = some (.floats components data)) (settled : state.store.isPending name = false) :
    state.Has name data := by
  obtain ⟨entry, found, alike⟩ := faithful.latest _ latest
  obtain ⟨components', held, array, last⟩ := faithful.taken entry found
    (by simpa [UniformStore.isPending, found] using settled)
  rw [array] at alike
  cases alike with
  | floats _ alike =>
    exact ⟨_, held, last, Single.readAll_flatMap_bytes held, (alike.flip.imp fun _ _ => Single.Alike.symm)⟩

end Faithful

theorem latest?_take (state : UniformExchange) (name other : String) :
    (state.step (.take name)).latest? other = state.latest? other := by
  simp only [step, latest?]
  split <;> rfl

/-- An array is not pending after its bytes were asked for. -/
theorem settled_take (state : UniformExchange) {name : String} {components : Nat} {data : List Single}
    (holds : state.store.get? name = some (.floats components data)) :
    (state.step (.take name)).store.isPending name = false := by
  rw [step]
  split
  · next bytes store taken =>
    rcases state.store.takeBytes_cases name with ⟨nothing, -⟩ | ⟨components, data, after, -, given, -, entry⟩
    · cases nothing.symm.trans taken
    · cases taken.symm.trans given
      simp [UniformStore.isPending, entry]
  · next nothing => exact UniformStore.settled_of_takeBytes holds nothing

/-- **The consumer is not left with an old value.** Along every run, only declared names hold a value. If the latest value
that was accepted for a name is an array, then the consumer has it whenever the name is not pending, and also right after it
asked for the bytes of the name. It gets nothing for an array only if the array is not pending. A value that is equal to the
one in the store, and has no NaN, is accepted and changes nothing, so a name that is not pending stays so. -/
theorem consumer_is_current (declared : List String) (ops : List UniformOp) :
    let state := (start declared).run ops
    (∀ name, (state.store.get? name).isSome → name ∈ declared) ∧
    (∀ name components data, state.latest? name = some (.floats components data) →
      (state.store.isPending name = false → state.Has name data) ∧ (state.step (.take name)).Has name data) ∧
    (∀ name components data, state.store.get? name = some (.floats components data) →
      state.store.takeBytes name = none → state.store.isPending name = false) ∧
    ∀ name value held, state.store.get? name = some held → (StagedUniform.ofValue value).Alike held →
      held.isNumeric = true → state.store.stage name value = (true, state.store) := by
  intro state
  have faithful (name : String) : Faithful state name := (faithful_start declared name).run ops
  have names : state.store.declared = declared.eraseDups := declared_run (start declared) ops
  refine ⟨fun name holds => ?_, fun name components data latest => ⟨(faithful name).has latest, ?_⟩,
    fun name components data => UniformStore.settled_of_takeBytes, fun name value held holds alike numeric => ?_⟩
  · obtain ⟨value, found⟩ := Option.isSome_iff_exists.1 holds
    obtain ⟨entry, found, -⟩ := Option.map_eq_some_iff.1 found
    exact List.mem_eraseDups.1 (names ▸ (faithful name).declared entry found)
  · obtain ⟨⟨_, held, pending⟩, found, alike⟩ := (faithful name).latest _ latest
    cases alike with
    | floats _ alike =>
      have holds : state.store.get? name = some _ := Option.map_eq_some_iff.2 ⟨_, found, rfl⟩
      exact ((faithful name).take name).has ((state.latest?_take name name).trans latest) (state.settled_take holds)
  · obtain ⟨entry, found, rfl⟩ := Option.map_eq_some_iff.1 holds
    have same : state.store.holdsSame name (.ofValue value) = true :=
      (Option.any_eq_true _ _).2 ⟨entry, found, alike.symm.same numeric⟩
    rw [UniformStore.stage_eq, if_pos ((faithful name).declared entry found), if_pos same]

end UniformExchange

end ShaderWeave
