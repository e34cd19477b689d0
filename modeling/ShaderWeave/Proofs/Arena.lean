import ShaderWeave.Arena

/-! # Mapping arenas

A change of all values commutes with the other edits of an arena: the places, their versions and the order in which
vacated places are reused do not depend on what is stored.
-/

namespace ShaderWeave.Arena

variable {family : Family} {α : Type}

theorem get?_modify (arena : Arena family α) (key other : Key family) (change : α → α) :
    (arena.modify key change).get? other = if other = key then (arena.get? other).map change else arena.get? other := by
  by_cases same : other = key
  · subst same
    simp
  · simp [get?_modify_of_ne, same]

theorem ext_places {first second : Arena family α} (places : first.places = second.places)
    (free : first.free = second.free) : first = second := by
  cases first
  cases second
  cases places
  cases free
  rfl

theorem places_mapEntries (arena : Arena family α) (change : Key family → α → α) :
    (arena.mapEntries change).places = arena.places.mapIdx fun position place =>
      { place with value := place.value.map (change ⟨position + 1, place.version⟩) } := rfl

theorem mapEntries_mapEntries (arena : Arena family α) (inner outer : Key family → α → α) :
    (arena.mapEntries inner).mapEntries outer = arena.mapEntries fun key value => outer key (inner key value) := by
  refine ext_places ?_ rfl
  simp only [mapEntries, List.mapIdx_mapIdx]
  congr 1
  funext position place
  simp [Option.map_map, Function.comp_def]

/-- Only what is stored matters for a change. -/
theorem mapEntries_congr {arena : Arena family α} {first second : Key family → α → α}
    (same : ∀ key value, arena.get? key = some value → first key value = second key value) :
    arena.mapEntries first = arena.mapEntries second := by
  refine ext_places (List.ext_getElem? ?_) rfl
  intro position
  rw [places_mapEntries, places_mapEntries, List.getElem?_mapIdx, List.getElem?_mapIdx]
  cases found : arena.places[position]? with
  | none => rfl
  | some place =>
    cases holds : place.value with
    | none => simp [holds]
    | some value =>
      have stored : arena.get? ⟨position + 1, place.version⟩ = some value :=
        (get?_eq_some_iff ..).2 ⟨position, place, rfl, found, holds⟩
      simp [holds, same _ _ stored]

/-- No key stands for two values. -/
theorem nodup_keys (arena : Arena family α) : arena.keys.Nodup := by
  rw [keys, entries, List.Nodup, List.pairwise_map]
  refine List.Pairwise.filterMap id (R := fun first second => ∀ a ∈ first, ∀ b ∈ second, a.1 ≠ b.1) ?_ ?_
  · exact fun _ _ apart => apart
  · rw [List.pairwise_iff_getElem]
    intro first second inside inside' less entry here entry' there same
    rw [List.getElem_mapIdx] at here there
    obtain ⟨_, -, rfl⟩ := Option.map_eq_some_iff.1 here
    obtain ⟨_, -, rfl⟩ := Option.map_eq_some_iff.1 there
    have index : first + 1 = second + 1 := congrArg Key.index same
    omega

/-! ## Inserting -/

theorem insert_of_free_nil {arena : Arena family α} (full : arena.free = []) (value : α) :
    (arena.insert value).1 = ⟨arena.places.length + 1, 1⟩ ∧
      (arena.insert value).2.places = arena.places ++ [⟨1, some value⟩] ∧ (arena.insert value).2.free = [] := by
  unfold insert
  split
  · exact ⟨rfl, rfl, rfl⟩
  · next reuse => simp [full] at reuse

theorem insert_of_free_cons {arena : Arena family α} {position : Nat} {rest : List Nat}
    (reuse : arena.free = position :: rest) {place : Place α} (found : arena.places[position]? = some place)
    (value : α) :
    (arena.insert value).1 = ⟨position + 1, place.version + 2⟩ ∧
      (arena.insert value).2.places = arena.places.set position ⟨place.version + 2, some value⟩ ∧
      (arena.insert value).2.free = rest := by
  obtain ⟨inside, rfl⟩ := List.getElem?_eq_some_iff.1 found
  unfold insert
  split
  · next full => simp [full] at reuse
  · next again =>
    obtain ⟨rfl, rfl⟩ := List.cons.inj (reuse.symm.trans again)
    exact ⟨rfl, rfl, rfl⟩

/-- The key of a new value does not depend on the values. -/
theorem insert_mapEntries (arena : Arena family α) (change : α → α) (value : α) :
    (arena.mapEntries fun _ => change).insert (change value) =
      ((arena.insert value).1, (arena.insert value).2.mapEntries fun _ => change) := by
  cases free : arena.free with
  | nil =>
    obtain ⟨key, places, rest⟩ := insert_of_free_nil free value
    obtain ⟨key', places', rest'⟩ :=
      insert_of_free_nil (show (arena.mapEntries fun _ => change).free = [] from free) (change value)
    refine Prod.ext ?_ (ext_places ?_ (rest'.trans rest.symm))
    · rw [key', key, places_mapEntries, List.length_mapIdx]
    · rw [places', places_mapEntries, places_mapEntries, places, List.mapIdx_append]
      rfl
  | cons position others =>
    obtain ⟨place, found, -⟩ := arena.free_vacant position (by simp [free])
    obtain ⟨key, places, rest⟩ := insert_of_free_cons free found value
    have found' : (arena.mapEntries fun _ => change).places[position]? =
        some { place with value := place.value.map change } := by
      simp [mapEntries, found]
    obtain ⟨key', places', rest'⟩ :=
      insert_of_free_cons (show (arena.mapEntries fun _ => change).free = position :: others from free) found'
        (change value)
    refine Prod.ext (key'.trans key.symm) (ext_places ?_ (rest'.trans rest.symm))
    rw [places', places_mapEntries, places_mapEntries, places, List.mapIdx_set]
    rfl

/-! ## Removing -/

theorem remove_eq_some {arena rest : Arena family α} {key : Key family} {value : α}
    (removed : arena.remove key = some (value, rest)) :
    arena.get? key = some value ∧ rest.places = arena.places.set (key.index - 1) ⟨key.version, none⟩ ∧
      rest.free = (key.index - 1) :: arena.free := by
  refine ⟨(get?_of_remove removed).1, ?_⟩
  obtain ⟨index, version⟩ := key
  cases index with
  | zero => simp [remove] at removed
  | succ position =>
    simp only [remove] at removed
    split at removed
    · simp at removed
    · next place found =>
      split at removed
      · next same =>
        split at removed
        · simp at removed
        · simp only [Option.some.injEq, Prod.mk.injEq] at removed
          obtain ⟨rfl, rfl⟩ := removed
          simp [same]
      · simp at removed

theorem remove_mapEntries (arena : Arena family α) (change : Key family → α → α) (key : Key family) :
    (arena.mapEntries change).remove key =
      (arena.remove key).map fun taken => (change key taken.1, taken.2.mapEntries change) := by
  cases removed : arena.remove key with
  | none =>
    rw [Option.map_none, remove_eq_none_iff, get?_mapEntries, (arena.remove_eq_none_iff key).1 removed]
    rfl
  | some taken =>
    obtain ⟨value, rest⟩ := taken
    obtain ⟨found, places, free⟩ := remove_eq_some removed
    have found' : (arena.mapEntries change).get? key = some (change key value) := by simp [get?_mapEntries, found]
    cases removed' : (arena.mapEntries change).remove key with
    | none => simp [(remove_eq_none_iff _ key).1 removed'] at found'
    | some taken' =>
      obtain ⟨value', rest'⟩ := taken'
      obtain ⟨again, places', free'⟩ := remove_eq_some removed'
      obtain rfl : value' = change key value := Option.some.inj (again.symm.trans found')
      have same : rest' = rest.mapEntries change := by
        refine ext_places ?_ (free'.trans free.symm)
        rw [places', places_mapEntries, places_mapEntries, places, List.mapIdx_set]
        rfl
      rw [same]
      rfl

/-! ## Sizes -/

theorem size_eq_countP (arena : Arena family α) : arena.size = arena.places.countP (·.value.isSome) := by
  have numbered : arena.places.countP (·.value.isSome) = arena.places.zipIdx.countP (·.1.value.isSome) := by
    calc arena.places.countP (·.value.isSome)
        = (arena.places.zipIdx.map Prod.fst).countP (·.value.isSome) := by rw [List.zipIdx_map_fst]
      _ = arena.places.zipIdx.countP (·.1.value.isSome) := List.countP_map
  rw [size, entries, List.length_filterMap_eq_countP, List.mapIdx_eq_zipIdx_map, List.countP_map, numbered]
  exact List.countP_congr fun place _ => by simp

theorem size_insert (arena : Arena family α) (value : α) : (arena.insert value).2.size = arena.size + 1 := by
  rw [size_eq_countP, size_eq_countP]
  cases free : arena.free with
  | nil =>
    rw [(insert_of_free_nil free value).2.1, List.countP_append]
    rfl
  | cons position rest =>
    obtain ⟨place, found, vacant⟩ := arena.free_vacant position (by simp [free])
    obtain ⟨inside, rfl⟩ := List.getElem?_eq_some_iff.1 found
    rw [(insert_of_free_cons free found value).2.1, List.countP_set inside]
    simp [vacant]

theorem size_of_remove {arena rest : Arena family α} {key : Key family} {value : α}
    (removed : arena.remove key = some (value, rest)) : rest.size + 1 = arena.size := by
  obtain ⟨found, places, -⟩ := remove_eq_some removed
  obtain ⟨position, place, rfl, held, holds⟩ := (get?_eq_some_iff ..).1 found
  obtain ⟨inside, rfl⟩ := List.getElem?_eq_some_iff.1 held
  have counted : 0 < arena.places.countP (·.value.isSome) :=
    List.countP_pos_iff.2 ⟨_, List.getElem_mem inside, by simp [holds]⟩
  rw [size_eq_countP, size_eq_countP, places]
  change List.countP _ (arena.places.set position _) + 1 = _
  rw [List.countP_set inside]
  simp only [holds, Option.isSome_some, Option.isSome_none, ↓reduceIte, Bool.false_eq_true]
  omega

/-! ## Keys that were handed out -/

/-- The place of the key was in use under the version of the key, or under a later one. -/
def Issued (arena : Arena family α) (key : Key family) : Prop :=
  ∃ position place, key.index = position + 1 ∧ arena.places[position]? = some place ∧ key.version ≤ place.version

variable {arena : Arena family α} {key : Key family}

theorem issued_of_get? {value : α} (found : arena.get? key = some value) : arena.Issued key := by
  obtain ⟨position, place, rfl, held, -⟩ := (get?_eq_some_iff ..).1 found
  exact ⟨position, place, rfl, held, Nat.le_refl _⟩

/-- A new key was never handed out before. -/
theorem not_issued_insert_key (arena : Arena family α) (value : α) : ¬ arena.Issued (arena.insert value).1 := by
  rintro ⟨position, place, index, held, version⟩
  cases free : arena.free with
  | nil =>
    rw [(insert_of_free_nil free value).1] at index
    obtain rfl : arena.places.length = position := Nat.add_right_cancel index
    simp at held
  | cons reused rest =>
    obtain ⟨old, found, -⟩ := arena.free_vacant reused (by simp [free])
    rw [(insert_of_free_cons free found value).1] at index version
    obtain rfl : reused = position := Nat.add_right_cancel index
    cases found.symm.trans held
    replace version : place.version + 2 ≤ place.version := version
    omega

theorem Issued.insert (issued : arena.Issued key) (value : α) : (arena.insert value).2.Issued key := by
  obtain ⟨position, place, index, held, version⟩ := issued
  cases free : arena.free with
  | nil =>
    refine ⟨position, place, index, ?_, version⟩
    rw [(insert_of_free_nil free value).2.1, List.getElem?_append_left (List.getElem?_eq_some_iff.1 held).1]
    exact held
  | cons reused rest =>
    obtain ⟨old, found, -⟩ := arena.free_vacant reused (by simp [free])
    obtain ⟨-, places, -⟩ := insert_of_free_cons free found value
    by_cases here : reused = position
    · subst here
      cases found.symm.trans held
      refine ⟨reused, ⟨place.version + 2, some value⟩, index, ?_, Nat.le_add_right_of_le version⟩
      rw [places, List.getElem?_set_self (List.getElem?_eq_some_iff.1 held).1]
    · refine ⟨position, place, index, ?_, version⟩
      rwa [places, List.getElem?_set_ne here]

theorem Issued.remove (issued : arena.Issued key) {rest : Arena family α} {taken : Key family} {value : α}
    (removed : arena.remove taken = some (value, rest)) : rest.Issued key := by
  obtain ⟨position, place, index, held, version⟩ := issued
  obtain ⟨found, places, -⟩ := remove_eq_some removed
  obtain ⟨vacated, old, rfl, found, -⟩ := (get?_eq_some_iff ..).1 found
  replace places : rest.places = arena.places.set vacated ⟨old.version, none⟩ := places
  by_cases here : vacated = position
  · subst here
    cases found.symm.trans held
    refine ⟨vacated, ⟨place.version, none⟩, index, ?_, version⟩
    rw [places, List.getElem?_set_self (List.getElem?_eq_some_iff.1 held).1]
  · refine ⟨position, place, index, ?_, version⟩
    rwa [places, List.getElem?_set_ne here]

theorem issued_mapEntries (change : Key family → α → α) : (arena.mapEntries change).Issued key ↔ arena.Issued key := by
  simp only [Issued, places_mapEntries, List.getElem?_mapIdx, Option.map_eq_some_iff]
  constructor
  · rintro ⟨position, -, index, ⟨place, held, rfl⟩, version⟩
    exact ⟨position, place, index, held, version⟩
  · rintro ⟨position, place, index, held, version⟩
    exact ⟨position, _, index, ⟨place, held, rfl⟩, version⟩

end ShaderWeave.Arena
