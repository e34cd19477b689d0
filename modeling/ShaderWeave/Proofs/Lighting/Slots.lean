import ShaderWeave.Lighting.Bucket

/-! # Handing out shadow slots

A pass asks for a slot for one light after the other. A caster gets the number of casters before it while the pool has
a place, whatever the light held before, and all later casters get none.
-/

namespace ShaderWeave

/-- Lights with their keys, in the order in which they ask for a slot. -/
abbrev Lineup := List (LightId × Light)

namespace Lineup

def casters (lineup : Lineup) : Lineup := lineup.filter (·.2.castShadows)

def shadows (lineup : Lineup) : List ShadowSettings := lineup.casters.map (·.2.shadow)

/-- What the lights hold after a pass over them, if `seen` casters came before. -/
def slotted (capacity : Nat) : Nat → Lineup → List (LightId × Option Nat)
  | _, [] => []
  | seen, (id, light) :: rest =>
    if light.castShadows then
      (id, if seen < capacity then some seen else none) :: slotted capacity (seen + 1) rest
    else (id, none) :: slotted capacity seen rest

variable {capacity seen : Nat}

theorem casters_cons (id : LightId) (light : Light) (rest : Lineup) :
    casters ((id, light) :: rest) = if light.castShadows then (id, light) :: casters rest else casters rest := by
  simp only [casters, List.filter_cons]

theorem shadows_append (first second : Lineup) : shadows (first ++ second) = shadows first ++ shadows second := by
  simp [shadows, casters]

theorem length_shadows (lineup : Lineup) : lineup.shadows.length = lineup.casters.length := List.length_map ..

theorem slotted_append (first second : Lineup) :
    slotted capacity seen (first ++ second) =
      slotted capacity seen first ++ slotted capacity (seen + first.casters.length) second := by
  induction first generalizing seen with
  | nil => rfl
  | cons entry rest ih =>
    obtain ⟨id, light⟩ := entry
    by_cases casts : light.castShadows
    · simp [slotted, casters_cons, casts, ih, Nat.add_assoc, Nat.add_comm 1]
    · simp [slotted, casters_cons, casts, ih]

theorem map_fst_slotted (lineup : Lineup) : (slotted capacity seen lineup).map (·.1) = lineup.map (·.1) := by
  induction lineup generalizing seen with
  | nil => rfl
  | cons entry rest ih => by_cases casts : entry.2.castShadows <;> simp [slotted, casts, ih]

/-- The caster with number `index` gets the slot with its number, if the pool has it. -/
theorem mem_slotted_of_caster {lineup : Lineup} {index : Nat} {id : LightId} {light : Light}
    (caster : lineup.casters[index]? = some (id, light)) :
    (id, if seen + index < capacity then some (seen + index) else none) ∈ slotted capacity seen lineup := by
  induction lineup generalizing seen index with
  | nil => simp [casters] at caster
  | cons entry rest ih =>
    obtain ⟨other, first⟩ := entry
    rw [casters_cons] at caster
    by_cases casts : first.castShadows
    · simp only [casts, if_true] at caster
      simp only [slotted, casts, if_true]
      cases index with
      | zero =>
        cases caster
        exact List.mem_cons_self ..
      | succ index =>
        have later : (id, if seen + 1 + index < capacity then some (seen + 1 + index) else none) ∈
            slotted capacity (seen + 1) rest := ih (by simpa using caster)
        rw [Nat.add_assoc, Nat.add_comm 1] at later
        exact List.mem_cons_of_mem _ later
    · simp only [casts] at caster
      simp only [slotted, casts]
      exact List.mem_cons_of_mem _ (ih (by simpa using caster))

theorem mem_slotted_of_not_caster {lineup : Lineup} {id : LightId} {light : Light} (member : (id, light) ∈ lineup)
    (idle : light.castShadows = false) : (id, none) ∈ slotted capacity seen lineup := by
  induction lineup generalizing seen with
  | nil => simp at member
  | cons entry rest ih =>
    rcases List.mem_cons.1 member with rfl | later
    · simp [slotted, idle]
    · by_cases casts : entry.2.castShadows <;> simp [slotted, casts, ih later]

end Lineup

/-! ## Pools -/

namespace ShadowPool

/-- The slots went to the first of some shadows. -/
def Serves (pool : ShadowPool) (shadows : List ShadowSettings) : Prop :=
  pool.granted = shadows.take pool.capacity

variable {pool : ShadowPool} {earlier : List ShadowSettings}

theorem Serves.count (serves : pool.Serves earlier) : pool.count = min earlier.length pool.capacity := by
  rw [ShadowPool.count, serves, List.length_take, Nat.min_comm]

theorem serves_reset (pool : ShadowPool) : pool.reset.Serves [] := by
  simp [Serves, reset]

/-- A request changes nothing but the slots of the pass. -/
theorem reset_request (pool : ShadowPool) (shadow : ShadowSettings) : (pool.request shadow).2.reset = pool.reset := by
  unfold request
  split <;> rfl

theorem capacity_request (pool : ShadowPool) (shadow : ShadowSettings) :
    (pool.request shadow).2.capacity = pool.capacity := by
  have same := congrArg capacity (pool.reset_request shadow)
  exact same

/-- A request gets the number of the requests before it, or nothing when the pool is used up. -/
theorem Serves.request (serves : pool.Serves earlier) (shadow : ShadowSettings) :
    (pool.request shadow).1 = (if earlier.length < pool.capacity then some earlier.length else none) ∧
      (pool.request shadow).2.Serves (earlier ++ [shadow]) := by
  have count := serves.count
  unfold ShadowPool.request
  by_cases room : earlier.length < pool.capacity
  · have free : ¬ pool.capacity ≤ pool.count := by omega
    have all : earlier.take pool.capacity = earlier := List.take_of_length_le (by omega)
    simp only [free, if_false, room, if_true]
    refine ⟨congrArg some (by omega), ?_⟩
    rw [Serves, serves, all, List.take_of_length_le (by simp; omega)]
  · have full : pool.capacity ≤ pool.count := by omega
    simp only [full, if_true, room, if_false]
    refine ⟨trivial, ?_⟩
    rw [Serves, serves, List.take_append_of_le_length (by omega)]

end ShadowPool

/-! ## Buckets -/

namespace LightBucket

/-- What the lights of a bucket hold. -/
def held (bucket : LightBucket) : List (LightId × Option Nat) :=
  bucket.entries.map fun entry => (entry.light, entry.shadowSlot)

theorem map_fst_held (bucket : LightBucket) : bucket.held.map (·.1) = bucket.lights := by
  simp [held, lights]

theorem reset_claimSlot (light : Light) (pool : ShadowPool) : (claimSlot light pool).2.reset = pool.reset := by
  unfold claimSlot
  split
  · exact pool.reset_request light.shadow
  · rfl

theorem reset_updateEntries (layout : List (String × LightAttribute)) (lights : Arena .light Light) (index : Nat)
    (buffers : List LightBuffer) (pool : ShadowPool) (entries : List BucketEntry) :
    (updateEntries layout lights index buffers pool entries).2.2.2.reset = pool.reset := by
  induction entries generalizing index buffers pool with
  | nil => rfl
  | cons entry rest ih =>
    rw [updateEntries]
    split
    · exact ih ..
    · next light _ => exact (ih ..).trans (reset_claimSlot light pool)

/-- A pass reports a change exactly if the slots are not the same as before. -/
theorem changed_updateEntries (layout : List (String × LightAttribute)) (lights : Arena .light Light) (index : Nat)
    (buffers : List LightBuffer) (pool : ShadowPool) (entries : List BucketEntry) :
    let result := updateEntries layout lights index buffers pool entries
    result.1 = (result.2.1.map (·.shadowSlot) != entries.map (·.shadowSlot)) := by
  induction entries generalizing index buffers pool with
  | nil => rfl
  | cons entry rest ih =>
    simp only [updateEntries]
    split
    · rw [ih]
      simp [bne]
    · next light _ =>
      rw [ih, bne_comm]
      simp [bne, Bool.not_and]

theorem changed_update (bucket : LightBucket) (lights : Arena .light Light) (pool : ShadowPool) :
    (bucket.update lights pool).1 = ((bucket.update lights pool).2.1.shadowSlots != bucket.shadowSlots) :=
  changed_updateEntries ..

theorem reset_update (bucket : LightBucket) (lights : Arena .light Light) (pool : ShadowPool) :
    (bucket.update lights pool).2.2.reset = pool.reset :=
  reset_updateEntries ..

/-- A pass over live lights hands out slots as if the lights had never held any. -/
theorem updateEntries_spec {layout : List (String × LightAttribute)} {lights : Arena .light Light} (index : Nat)
    (buffers : List LightBuffer) {pool : ShadowPool} {earlier : List ShadowSettings} (serves : pool.Serves earlier)
    {entries : List BucketEntry} {lineup : Lineup} (names : entries.map (·.light) = lineup.map (·.1))
    (live : ∀ entry ∈ lineup, lights.get? entry.1 = some entry.2) :
    let result := updateEntries layout lights index buffers pool entries
    result.2.1.map (fun entry => (entry.light, entry.shadowSlot)) =
        lineup.slotted pool.capacity earlier.length ∧
      result.2.2.2.Serves (earlier ++ lineup.shadows) ∧ result.2.2.2.capacity = pool.capacity := by
  induction entries generalizing lineup index buffers pool earlier with
  | nil =>
    obtain rfl : lineup = [] := by simpa using names.symm
    exact ⟨rfl, by simpa [updateEntries, Lineup.shadows, Lineup.casters] using serves, rfl⟩
  | cons entry rest ih =>
    cases lineup with
    | nil => simp at names
    | cons first others =>
      obtain ⟨id, light⟩ := first
      obtain ⟨here, names⟩ := List.cons.inj (by simpa using names)
      have found : lights.get? entry.light = some light := by
        rw [here]
        exact live _ (List.mem_cons_self ..)
      have live' : ∀ entry ∈ others, lights.get? entry.1 = some entry.2 := fun entry member =>
        live entry (List.mem_cons_of_mem _ member)
      simp only [updateEntries, found]
      by_cases casts : light.castShadows
      · obtain ⟨slot, serves'⟩ := serves.request light.shadow
        obtain ⟨slots, served, capacity⟩ := ih (index + 1) (packInto layout light index buffers) serves' names live'
        simp only [claimSlot, casts, if_true]
        rw [pool.capacity_request] at slots capacity
        refine ⟨?_, ?_, capacity⟩
        · simp only [List.map_cons, slots, slot, here, Lineup.slotted, casts, if_true, List.length_append,
            List.length_singleton]
        · simpa [Lineup.shadows, Lineup.casters_cons, casts] using served
      · obtain ⟨slots, served, capacity⟩ := ih (index + 1) (packInto layout light index buffers) serves names live'
        simp only [claimSlot, casts]
        refine ⟨?_, ?_, capacity⟩
        · simp [slots, here, Lineup.slotted, casts]
        · simpa [Lineup.shadows, Lineup.casters_cons, casts] using served

/-- An update of a bucket whose lights are all live. -/
theorem update_spec {bucket : LightBucket} {lights : Arena .light Light} {pool : ShadowPool}
    {earlier : List ShadowSettings} (serves : pool.Serves earlier) {lineup : Lineup}
    (names : bucket.lights = lineup.map (·.1)) (live : ∀ entry ∈ lineup, lights.get? entry.1 = some entry.2) :
    (bucket.update lights pool).2.1.held = lineup.slotted pool.capacity earlier.length ∧
      (bucket.update lights pool).2.2.Serves (earlier ++ lineup.shadows) ∧
      (bucket.update lights pool).2.2.capacity = pool.capacity :=
  updateEntries_spec 0 _ serves names live

end LightBucket

end ShaderWeave
