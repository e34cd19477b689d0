/-! # Versioned arenas

An arena stores values under keys that can go stale. A key names a place and the use of that place:
removing a value vacates its place, the place vacated last is reused first, and each reuse raises the
place's version by two, so an old key never reaches a newer value.

The laws of `get?` after `insert`, `remove` and `modify` are all that the rest of the library uses.
-/

namespace ShaderWeave

/-- The families of things that are named by keys. Keys of different families never mix. -/
inductive Family where
  | chunk
  | collection
  | light
  deriving DecidableEq, Repr

/-- Places are numbered from one, and the first use of a place has version one. -/
structure Key (family : Family) where
  index : Nat
  version : Nat
  deriving DecidableEq, Repr

instance (family : Family) : LawfulBEq (Key family) := inferInstance

abbrev ChunkId := Key .chunk
abbrev CollectionId := Key .collection
abbrev LightId := Key .light

def Family.keyName : Family → String
  | .chunk => "ChunkId"
  | .collection => "CollectionId"
  | .light => "LightId"

namespace Key

variable {family : Family}

/-- The number of no place: a key with this index stands for "nothing". -/
def nullIndex : Nat := 4294967295

/-- Short text of a key: its index and version, or `null`. -/
def text (key : Key family) : String :=
  if key.index = nullIndex then "null" else s!"{key.index}v{key.version}"

/-- Reads the index and the version of a key. -/
def ofText? (text : String) : Option (Key family) :=
  match text.splitOn "v" with
  | [index, version] => do return ⟨← index.toNat?, ← version.toNat?⟩
  | _ => none

/-- Text of a key in messages, with its family. -/
def describe (key : Key family) : String :=
  s!"{family.keyName}({key.text})"

end Key

/-- A place remembers the version of its last use after its value is gone. -/
structure Place (α : Type) where
  version : Nat
  value : Option α

structure Arena (family : Family) (α : Type) where
  /-- The place with index `n + 1` stands at position `n`. -/
  places : List (Place α) := []
  /-- Positions of the vacated places, the one vacated last in front. -/
  free : List Nat := []
  free_vacant : ∀ position ∈ free, ∃ place, places[position]? = some place ∧ place.value = none := by
    simp
  free_nodup : free.Nodup := by simp

namespace Arena

variable {family : Family} {α : Type}

def empty : Arena family α := {}

instance : Inhabited (Arena family α) := ⟨empty⟩

/-- The value under `key`, or nothing when the key is stale or was never handed out. -/
def get? (arena : Arena family α) (key : Key family) : Option α :=
  match key.index with
  | 0 => none
  | position + 1 =>
    match arena.places[position]? with
    | none => none
    | some place => if place.version = key.version then place.value else none

def contains (arena : Arena family α) (key : Key family) : Bool :=
  (arena.get? key).isSome

theorem free_lt (arena : Arena family α) {position : Nat} (member : position ∈ arena.free) :
    position < arena.places.length := by
  obtain ⟨place, found, _⟩ := arena.free_vacant position member
  exact (List.getElem?_eq_some_iff.1 found).1

/-- Stores a value in the place vacated last, or else in a new place behind all others. -/
def insert (arena : Arena family α) (value : α) : Key family × Arena family α :=
  match reuse : arena.free with
  | [] =>
    (⟨arena.places.length + 1, 1⟩, { places := arena.places ++ [⟨1, some value⟩] })
  | position :: rest =>
    have inside : position < arena.places.length := arena.free_lt (by simp [reuse])
    let version := arena.places[position].version + 2
    (⟨position + 1, version⟩,
      { places := arena.places.set position ⟨version, some value⟩
        free := rest
        free_vacant := fun other member => by
          have distinct : position ≠ other := fun same => by
            have := arena.free_nodup
            rw [reuse, List.nodup_cons] at this
            exact this.1 (same ▸ member)
          rw [List.getElem?_set_ne distinct]
          exact arena.free_vacant other (by simp [reuse, member])
        free_nodup := by
          have := arena.free_nodup
          rw [reuse, List.nodup_cons] at this
          exact this.2 })

/-- Positions that are free hold no value, so a key that reads something is not among them. -/
theorem not_mem_free_of_get? (arena : Arena family α) {position : Nat} {place : Place α} {value : α}
    (found : arena.places[position]? = some place) (holds : place.value = some value) :
    position ∉ arena.free := fun member => by
  obtain ⟨other, same, vacant⟩ := arena.free_vacant position member
  rw [found] at same
  cases same
  simp [holds] at vacant

/-- Takes the value under `key` out. A stale key changes nothing. -/
def remove (arena : Arena family α) (key : Key family) : Option (α × Arena family α) :=
  match key.index with
  | 0 => none
  | position + 1 =>
    match found : arena.places[position]? with
    | none => none
    | some place =>
      if place.version = key.version then
        match holds : place.value with
        | none => none
        | some value =>
          some (value,
            { places := arena.places.set position ⟨place.version, none⟩
              free := position :: arena.free
              free_vacant := fun other member => by
                have inside := (List.getElem?_eq_some_iff.1 found).1
                by_cases same : position = other
                · subst same
                  exact ⟨_, List.getElem?_set_self inside, rfl⟩
                · rw [List.getElem?_set_ne same]
                  exact arena.free_vacant other (by
                    rcases List.mem_cons.1 member with here | there
                    · exact absurd here.symm same
                    · exact there)
              free_nodup := List.nodup_cons.2
                ⟨arena.not_mem_free_of_get? found holds, arena.free_nodup⟩ })
      else none

/-- Applies `change` to every stored value, which may depend on the value's key. -/
def mapEntries (arena : Arena family α) (change : Key family → α → α) : Arena family α :=
  { places := arena.places.mapIdx fun position place =>
      { place with value := place.value.map (change ⟨position + 1, place.version⟩) }
    free := arena.free
    free_vacant := fun position member => by
      obtain ⟨place, found, vacant⟩ := arena.free_vacant position member
      exact ⟨_, by rw [List.getElem?_mapIdx, found]; rfl, by simp [vacant]⟩
    free_nodup := arena.free_nodup }

/-- Applies `change` to the value under `key`. A stale key changes nothing. -/
def modify (arena : Arena family α) (key : Key family) (change : α → α) : Arena family α :=
  arena.mapEntries fun other value => if other = key then change value else value

def set (arena : Arena family α) (key : Key family) (value : α) : Arena family α :=
  arena.modify key fun _ => value

/-- Stored values with their keys, by index. -/
def entries (arena : Arena family α) : List (Key family × α) :=
  (arena.places.mapIdx fun position place =>
    place.value.map fun value => (⟨position + 1, place.version⟩, value)).filterMap id

/-- Keys of the stored values, by index. -/
def keys (arena : Arena family α) : List (Key family) :=
  arena.entries.map (·.1)

def size (arena : Arena family α) : Nat :=
  arena.entries.length

/-! ## Reading after an edit -/

@[simp] theorem get?_empty (key : Key family) : (empty : Arena family α).get? key = none := by
  unfold get? empty
  split <;> simp

theorem get?_eq_some_iff (arena : Arena family α) (key : Key family) (value : α) :
    arena.get? key = some value ↔
      ∃ position place, key = ⟨position + 1, place.version⟩ ∧
        arena.places[position]? = some place ∧ place.value = some value := by
  obtain ⟨index, version⟩ := key
  cases index with
  | zero => simp [get?]
  | succ position =>
    cases found : arena.places[position]? with
    | none =>
      simp only [get?, found, Key.mk.injEq, Nat.add_right_cancel_iff, reduceCtorEq, false_iff]
      rintro ⟨_, place, ⟨rfl, _⟩, missing, _⟩
      simp [found] at missing
    | some place =>
      by_cases same : place.version = version
      · subst same
        simp only [get?, found, if_true, Key.mk.injEq, Nat.add_right_cancel_iff]
        constructor
        · exact fun holds => ⟨position, place, ⟨rfl, rfl⟩, found, holds⟩
        · rintro ⟨_, other, ⟨rfl, _⟩, again, holds⟩
          rw [found] at again
          cases again
          exact holds
      · simp only [get?, found, if_neg same, Key.mk.injEq, Nat.add_right_cancel_iff, reduceCtorEq,
          false_iff]
        rintro ⟨_, other, ⟨rfl, versions⟩, again, _⟩
        rw [found] at again
        cases again
        exact same versions.symm

theorem get?_mapEntries (arena : Arena family α) (change : Key family → α → α)
    (key : Key family) :
    (arena.mapEntries change).get? key = (arena.get? key).map (change key) := by
  obtain ⟨index, version⟩ := key
  cases index with
  | zero => simp [get?]
  | succ position =>
    simp only [get?, mapEntries, List.getElem?_mapIdx]
    cases found : arena.places[position]? with
    | none => simp
    | some place =>
      by_cases same : place.version = version
      · simp [same]
      · simp [same]

@[simp] theorem get?_modify_self (arena : Arena family α) (key : Key family) (change : α → α) :
    (arena.modify key change).get? key = (arena.get? key).map change := by
  simp [modify, get?_mapEntries]

theorem get?_modify_of_ne (arena : Arena family α) {key other : Key family} (change : α → α)
    (distinct : other ≠ key) : (arena.modify key change).get? other = arena.get? other := by
  simp [modify, get?_mapEntries, distinct]

/-- A key is handed out for a place that holds nothing, under a version never used before there. -/
theorem get?_insert_key (arena : Arena family α) (value : α) :
    arena.get? (arena.insert value).1 = none := by
  unfold insert
  split
  · simp [get?]
  · next position rest reuse =>
    have inside : position < arena.places.length := arena.free_lt (by simp [reuse])
    simp [get?, List.getElem?_eq_getElem inside]

@[simp] theorem get?_insert_self (arena : Arena family α) (value : α) :
    (arena.insert value).2.get? (arena.insert value).1 = some value := by
  unfold insert
  split
  · simp [get?]
  · next position rest reuse =>
    have inside : position < arena.places.length := arena.free_lt (by simp [reuse])
    simp [get?, List.getElem?_set_self inside]

theorem get?_insert_of_ne (arena : Arena family α) (value : α) {key : Key family}
    (distinct : key ≠ (arena.insert value).1) :
    (arena.insert value).2.get? key = arena.get? key := by
  obtain ⟨index, version⟩ := key
  cases index with
  | zero => simp [get?]
  | succ position =>
    revert distinct
    unfold insert
    split
    · intro distinct
      simp only [get?]
      rcases Nat.lt_trichotomy position arena.places.length with inside | last | outside
      · rw [List.getElem?_append_left inside]
      · subst last
        have versions : ¬ 1 = version := fun same => distinct (by simp [same])
        simp [versions]
      · rw [List.getElem?_eq_none (by simp; omega), List.getElem?_eq_none (by omega)]
    · next reused rest reuse =>
      intro distinct
      have inside : reused < arena.places.length := arena.free_lt (by simp [reuse])
      obtain ⟨place, found, vacant⟩ := arena.free_vacant reused (by simp [reuse])
      simp only [get?]
      by_cases same : reused = position
      · subst same
        have shape : arena.places[reused] = place := (List.getElem?_eq_some_iff.1 found).2
        have versions : ¬ arena.places[reused].version + 2 = version := fun same =>
          distinct (by simp [same])
        simp [List.getElem?_set_self inside, versions, found, vacant]
      · rw [List.getElem?_set_ne same]

theorem remove_eq_none_iff (arena : Arena family α) (key : Key family) :
    arena.remove key = none ↔ arena.get? key = none := by
  obtain ⟨index, version⟩ := key
  cases index with
  | zero => simp [remove, get?]
  | succ position =>
    simp only [remove, get?]
    split
    · next found => simp [found]
    · next place found =>
      by_cases same : place.version = version
      · simp only [found, same, if_true]
        split
        · next holds => simp [holds]
        · next value holds => simp [holds]
      · simp [found, same]

/-- What is taken out is what was stored, and the key is stale from then on. -/
theorem get?_of_remove {arena rest : Arena family α} {key : Key family} {value : α}
    (removed : arena.remove key = some (value, rest)) :
    arena.get? key = some value ∧
      ∀ other, rest.get? other = if other = key then none else arena.get? other := by
  obtain ⟨index, version⟩ := key
  cases index with
  | zero => simp [remove] at removed
  | succ position =>
    simp only [remove] at removed
    split at removed
    · simp at removed
    · next place found =>
      by_cases same : place.version = version
      · rw [if_pos same] at removed
        split at removed
        · simp at removed
        · next stored holds =>
          simp only [Option.some.injEq, Prod.mk.injEq] at removed
          obtain ⟨rfl, rfl⟩ := removed
          have inside := (List.getElem?_eq_some_iff.1 found).1
          refine ⟨by simp [get?, found, same, holds], ?_⟩
          rintro ⟨otherIndex, otherVersion⟩
          cases otherIndex with
          | zero => simp [get?]
          | succ otherPosition =>
            by_cases here : position = otherPosition
            · subst here
              subst same
              by_cases versions : place.version = otherVersion
              · subst versions
                simp [get?, List.getElem?_set_self inside]
              · simp [get?, List.getElem?_set_self inside, found, versions]
            · have elsewhere : ¬ otherPosition = position := fun equal => here equal.symm
              simp [get?, List.getElem?_set_ne here, elsewhere]
      · rw [if_neg same] at removed
        simp at removed

theorem mem_entries_iff (arena : Arena family α) (key : Key family) (value : α) :
    (key, value) ∈ arena.entries ↔ arena.get? key = some value := by
  rw [get?_eq_some_iff]
  simp only [entries, List.mem_filterMap, List.mem_mapIdx, id, exists_eq_right, Option.map_eq_some_iff,
    Prod.mk.injEq]
  constructor
  · rintro ⟨position, inside, stored, holds, rfl, rfl⟩
    exact ⟨position, _, rfl, List.getElem?_eq_getElem inside, holds⟩
  · rintro ⟨position, place, rfl, found, holds⟩
    obtain ⟨inside, rfl⟩ := List.getElem?_eq_some_iff.1 found
    exact ⟨position, inside, value, holds, rfl, rfl⟩

theorem mem_keys_iff (arena : Arena family α) (key : Key family) :
    key ∈ arena.keys ↔ (arena.get? key).isSome := by
  simp only [keys, List.mem_map, Prod.exists, exists_and_right, exists_eq_right, mem_entries_iff,
    Option.isSome_iff_exists]

end Arena

end ShaderWeave
