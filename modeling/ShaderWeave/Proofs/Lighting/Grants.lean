import ShaderWeave.Proofs.Lighting.Uploads

/-! # Grants of one pass

In a pass over a bucket, the pool hands out different slots, in the order of the lights. A light that has gone from the
map takes no part in the pass, and its entry stays as it is: what it got in an earlier pass is carried over, although
the pool may give the same slot to another light. So the lights of a bucket share no slot exactly when none of them has
gone while it held one.
-/

namespace ShaderWeave

namespace LightBucket

variable {lights : Arena .light Light} {layout : List (String × LightAttribute)} {entries : List BucketEntry}
  {entry : BucketEntry}

/-! ## Live lights and lights that have gone -/

/-- The entries of lights in the map. -/
def live (lights : Arena .light Light) (entries : List BucketEntry) : List BucketEntry :=
  entries.filter fun entry => (lights.get? entry.light).isSome

/-- The entries of lights that have gone from the map. -/
def gone (lights : Arena .light Light) (entries : List BucketEntry) : List BucketEntry :=
  entries.filter fun entry => (lights.get? entry.light).isNone

/-- The lights of some entries that are in the map. -/
def lineup (lights : Arena .light Light) (entries : List BucketEntry) : Lineup :=
  entries.filterMap fun entry => (lights.get? entry.light).map fun light => (entry.light, light)

theorem live_cons_of_none (missing : lights.get? entry.light = none) :
    live lights (entry :: entries) = live lights entries :=
  List.filter_cons_of_neg (by simp [missing])

theorem live_cons_of_some {light : Light} (held : lights.get? entry.light = some light) :
    live lights (entry :: entries) = entry :: live lights entries :=
  List.filter_cons_of_pos (by simp [held])

theorem mem_gone_iff : entry ∈ gone lights entries ↔ entry ∈ entries ∧ lights.get? entry.light = none := by
  simp [gone]

theorem map_light_live : (live lights entries).map (·.light) = (lineup lights entries).map (·.1) := by
  induction entries with
  | nil => rfl
  | cons entry rest ih =>
    cases held : lights.get? entry.light with
    | none => simpa [live_cons_of_none held, lineup, held] using ih
    | some light => simpa [live_cons_of_some held, lineup, held] using ih

theorem get?_of_mem_lineup {row : LightId × Light} (member : row ∈ lineup lights entries) :
    lights.get? row.1 = some row.2 := by
  obtain ⟨entry, -, made⟩ := List.mem_filterMap.1 member
  obtain ⟨light, held, rfl⟩ := Option.map_eq_some_iff.1 made
  exact held

/-- The slots of the lights in the map, and those of the lights that have gone. -/
theorem slots_perm (bucket : LightBucket) (lights : Arena .light Light) :
    bucket.slots.Perm ((live lights bucket.entries).filterMap (·.shadowSlot) ++
      (gone lights bucket.entries).filterMap (·.shadowSlot)) := by
  have others : gone lights bucket.entries =
      bucket.entries.filter fun entry => !(lights.get? entry.light).isSome := by simp [gone]
  rw [slots, ← List.filterMap_append, others]
  exact (List.filter_append_perm _ _).symm.filterMap _

/-! ## What a pass does to the entries -/

/-- An entry keeps its light, and stays as it is if the light has gone. -/
def Follows (lights : Arena .light Light) (before after : BucketEntry) : Prop :=
  after.light = before.light ∧ (lights.get? before.light = none → after = before)

theorem follows_updateEntries (index : Nat) (buffers : List LightBuffer) (pool : ShadowPool)
    (entries : List BucketEntry) :
    List.Forall₂ (Follows lights) entries (updateEntries layout lights index buffers pool entries).2.1 := by
  induction entries generalizing index buffers pool with
  | nil => exact .nil
  | cons entry rest ih =>
    rw [updateEntries]
    split
    · exact .cons ⟨rfl, fun _ => rfl⟩ (ih ..)
    · next light held => exact .cons ⟨rfl, by simp [held]⟩ (ih ..)

theorem follows_update (bucket : LightBucket) (lights : Arena .light Light) (pool : ShadowPool) :
    List.Forall₂ (Follows lights) bucket.entries (bucket.update lights pool).2.1.entries :=
  follows_updateEntries ..

theorem lights_update (bucket : LightBucket) (lights : Arena .light Light) (pool : ShadowPool) :
    (bucket.update lights pool).2.1.lights = bucket.lights := by
  have same : List.Forall₂ (fun before after : BucketEntry => before.light = after.light) bucket.entries
      (bucket.update lights pool).2.1.entries :=
    (bucket.follows_update lights pool).imp fun _ _ follows => follows.1.symm
  rw [← List.forall₂_map_right_iff, ← List.forall₂_map_left_iff, List.forall₂_eq_eq_eq] at same
  exact same.symm

theorem size_update (bucket : LightBucket) (lights : Arena .light Light) (pool : ShadowPool) :
    (bucket.update lights pool).2.1.size = bucket.size :=
  (bucket.follows_update lights pool).length_eq.symm

theorem gone_of_follows {before after : List BucketEntry} (follows : List.Forall₂ (Follows lights) before after) :
    gone lights after = gone lights before := by
  induction follows with
  | nil => rfl
  | @cons entry next _ _ here _ ih =>
    obtain ⟨same, stays⟩ := here
    unfold gone at ih ⊢
    cases held : lights.get? entry.light with
    | none => simp [stays held, held, ih]
    | some light => simp [same, held, ih]

/-- A pass treats the lights that it finds as if the bucket had no others. -/
theorem live_updateEntries (index first : Nat) (buffers others : List LightBuffer) (pool : ShadowPool)
    (entries : List BucketEntry) :
    live lights (updateEntries layout lights index buffers pool entries).2.1 =
        (updateEntries layout lights first others pool (live lights entries)).2.1 ∧
      (updateEntries layout lights index buffers pool entries).2.2.2 =
        (updateEntries layout lights first others pool (live lights entries)).2.2.2 := by
  -- Rows and buffers do not reach the slots, so both passes may count and pack as they like.
  induction entries generalizing index first buffers others pool with
  | nil => exact ⟨rfl, rfl⟩
  | cons entry rest ih =>
    cases held : lights.get? entry.light with
    | none =>
      obtain ⟨entries, pools⟩ := ih (index + 1) first buffers others pool
      simp only [updateEntries, held, live_cons_of_none held, entries, pools, and_self]
    | some light =>
      obtain ⟨entries, pools⟩ := ih (index + 1) (first + 1) (packInto layout light index buffers)
        (packInto layout light first others) (claimSlot light pool).2
      rw [live_cons_of_some held]
      simp only [updateEntries, held]
      refine ⟨(List.filter_cons_of_pos ?_).trans (congrArg _ entries), pools⟩
      simp [held]

/-! ## Slots of a pass -/

/-- A pass hands out slots to the lights that it finds as if they had never held any. -/
theorem live_update (bucket : LightBucket) (lights : Arena .light Light) {pool : ShadowPool}
    {earlier : List ShadowSettings} (serves : pool.Serves earlier) :
    (live lights (bucket.update lights pool).2.1.entries).map (fun entry => (entry.light, entry.shadowSlot)) =
        (lineup lights bucket.entries).slotted pool.capacity earlier.length ∧
      (bucket.update lights pool).2.2.Serves (earlier ++ (lineup lights bucket.entries).shadows) ∧
      (bucket.update lights pool).2.2.capacity = pool.capacity := by
  let buffers := bucket.buffers.map fun buffer => (buffer.resize bucket.size).2
  let result := updateEntries bucket.type.layout lights 0 buffers pool (live lights bucket.entries)
  obtain ⟨same, pools⟩ : live lights (bucket.update lights pool).2.1.entries = result.2.1 ∧
      (bucket.update lights pool).2.2 = result.2.2.2 := live_updateEntries 0 0 buffers buffers pool bucket.entries
  rw [same, pools]
  exact updateEntries_spec 0 buffers serves map_light_live fun _ => get?_of_mem_lineup

/-- After a pass that began with a reset, the lights in the map hold the slots of the pass, in their order. -/
theorem slots_of_live (bucket : LightBucket) (lights : Arena .light Light) (pool : ShadowPool) :
    (live lights (bucket.update lights pool.reset).2.1.entries).filterMap (·.shadowSlot) =
      List.range (bucket.update lights pool.reset).2.2.count := by
  obtain ⟨held, serves, capacity⟩ := bucket.live_update lights pool.serves_reset
  have slots := congrArg (List.filterMap (·.2)) held
  rw [List.filterMap_map, Lineup.filterMap_slotted, List.length_nil, Nat.sub_zero, ← Lineup.length_shadows,
    ← capacity] at slots
  rw [serves.count, List.range_eq_range']
  exact slots

/-- The slots after a pass are those of the pass, and those that lights have carried over when they went. -/
theorem slots_update_perm (bucket : LightBucket) (lights : Arena .light Light) (pool : ShadowPool) :
    (bucket.update lights pool.reset).2.1.slots.Perm (List.range (bucket.update lights pool.reset).2.2.count ++
      (gone lights bucket.entries).filterMap (·.shadowSlot)) := by
  rw [← slots_of_live, ← gone_of_follows (bucket.follows_update lights pool.reset)]
  exact slots_perm ..

/-- The grants of a pass are exclusive: lights hold different slots, all of them from this pass, and no slot gets two
maps. -/
structure Exclusive (bucket : LightBucket) (pool : ShadowPool) : Prop where
  distinct : bucket.slots.Nodup
  granted : ∀ slot ∈ bucket.slots, slot < pool.count
  single : ∀ slot, (bucket.uploads.map (·.name)).count (ShadowPool.mapName slot) ≤ 1

/-- Where the lights hold different slots, no slot gets two maps. -/
theorem count_uploads_le_one {bucket : LightBucket} (distinct : bucket.slots.Nodup) (slot : Nat) :
    (bucket.uploads.map (·.name)).count (ShadowPool.mapName slot) ≤ 1 := by
  have nodup : ((bucket.uploads.map (·.name)).filter fun name => initials name == ['t', 'S']).Nodup := by
    rw [List.filter_map, Function.comp_def, filter_uploads]
    exact (distinct.map fun _ _ => ShadowPool.mapName_inj).sublist bucket.names_shadowMapUploads
  exact ShadowPool.count_mapName_le_one nodup slot

/-- The grants of a pass are exclusive exactly if nothing is carried over. -/
theorem exclusive_iff {bucket : LightBucket} {pool : ShadowPool} {carried : List Nat}
    (slots : bucket.slots.Perm (List.range pool.count ++ carried)) : bucket.Exclusive pool ↔ carried = [] := by
  constructor
  · intro exclusive
    rw [List.eq_nil_iff_forall_not_mem]
    intro slot member
    have held : slot ∈ bucket.slots := slots.mem_iff.2 (List.mem_append_right _ member)
    have fresh : slot ∈ List.range pool.count := List.mem_range.2 (exclusive.granted slot held)
    exact List.disjoint_of_nodup_append (slots.nodup_iff.1 exclusive.distinct) fresh member
  · rintro rfl
    rw [List.append_nil] at slots
    have distinct : bucket.slots.Nodup := slots.nodup_iff.2 List.nodup_range
    exact ⟨distinct, fun slot member => List.mem_range.1 (slots.mem_iff.1 member), count_uploads_le_one distinct⟩

/-- In a pass that began with a reset, the lights in the map get the slots of the pass in their order. Lights that have
gone keep what they have, and the grants are exclusive exactly if that is nothing. -/
theorem update_grants (bucket : LightBucket) (lights : Arena .light Light) (pool : ShadowPool) :
    let result := bucket.update lights pool.reset
    List.Forall₂ (Follows lights) bucket.entries result.2.1.entries ∧
      (live lights result.2.1.entries).filterMap (·.shadowSlot) = List.range result.2.2.count ∧
      (result.2.1.Exclusive result.2.2 ↔
        ∀ entry ∈ bucket.entries, lights.get? entry.light = none → entry.shadowSlot = none) := by
  refine ⟨follows_update .., slots_of_live .., ?_⟩
  rw [exclusive_iff (bucket.slots_update_perm lights pool), List.filterMap_eq_nil_iff]
  simp only [mem_gone_iff, and_imp]

/-- The states of buckets: they are made empty, their lights come and go, and they are updated with any map of lights and
any pool. -/
inductive Reached : LightBucket → Prop
  | new (type : LightType) : Reached (.new type)
  | addLight {bucket} (reached : Reached bucket) (id : LightId) : Reached (bucket.addLight id).2
  | removeLight {bucket} (reached : Reached bucket) (id : LightId) : Reached (bucket.removeLight id).2
  | update {bucket} (reached : Reached bucket) (lights : Arena .light Light) (pool : ShadowPool) :
    Reached (bucket.update lights pool).2.1

/-- A light that has gone keeps its slot, the next pass gives this slot to another light, and the maps of both go to one
uniform. -/
theorem slot_of_gone_light_is_given_again :
    ∃ (bucket : LightBucket) (lights : Arena .light Light) (pool : ShadowPool), bucket.Reached ∧
      (bucket.update lights pool.reset).2.1.shadowMapUploads =
        [⟨"tShadowMap0", .texture ⟨5⟩⟩, ⟨"tShadowMap0", .texture ⟨6⟩⟩] ∧
      ¬ (bucket.update lights pool.reset).2.1.Exclusive (bucket.update lights pool.reset).2.2 := by
  let caster (map : UInt64) : Light := (Light.directional .backward).withShadow { map := some ⟨map⟩ }
  let one := (Arena.empty : Arena .light Light).insert (caster 5)
  let two := one.2.insert (caster 6)
  let rest := ((two.2.remove one.1).map (·.2)).getD two.2
  let bucket := (((new .directional).addLight one.1).2.addLight two.1).2
  let result := bucket.update two.2 (.new 4)
  refine ⟨result.2.1, rest, result.2.2, .update (.addLight (.addLight (.new _) _) _) _ _, by decide +kernel, ?_⟩
  intro exclusive
  have shared : (result.2.1.update rest result.2.2.reset).2.1.slots = [0, 0] := by decide +kernel
  have distinct := exclusive.distinct
  rw [shared] at distinct
  simp at distinct

end LightBucket

end ShaderWeave
