import ShaderWeave.Proofs.Lighting.Freshness
import ShaderWeave.Proofs.Program.Neighbours

/-! # Rosters of lights

A model owns its lights, and the buckets in the graph list them next to what the last update gave to each. Both are
edited by each operation, and stay in step: the rows of a bucket are the live lights of its type in the order in which
they were added, each with what it got last, wherever lights were removed in between.
-/

namespace ShaderWeave

/-- What a light got in the last update; nothing, if there was none since it was added. -/
structure Holding where
  slot : Option Nat := none
  shadowMap : Option TextureHandle := none
  environment : Option TextureHandle := none
  deriving DecidableEq

/-- Lights in the order in which they were added, each with what it holds. -/
abbrev Roster := List (LightId × Holding)

namespace Roster

def order (roster : Roster) : List LightId := roster.map (·.1)

/-- A light is added. -/
def enter (roster : Roster) (id : LightId) : Roster := roster ++ [(id, ({} : Holding))]

/-- A light is taken out. -/
def leave (roster : Roster) (id : LightId) : Roster := roster.filter fun row => row.1 ≠ id

theorem order_enter (roster : Roster) (id : LightId) : (roster.enter id).order = roster.order ++ [id] := by
  simp [order, enter]

theorem order_leave {roster : Roster} (nodup : roster.order.Nodup) (id : LightId) :
    (roster.leave id).order = roster.order.erase id := by
  rw [nodup.erase_eq_filter, order, order, leave, List.filter_map]
  congr 2
  funext row
  by_cases here : row.1 = id <;> simp [here]

theorem mem_order {roster : Roster} {row : LightId × Holding} (member : row ∈ roster) : row.1 ∈ roster.order :=
  List.mem_map_of_mem member

theorem leave_of_not_mem {roster : Roster} {id : LightId} (absent : id ∉ roster.order) : roster.leave id = roster :=
  List.filter_eq_self.2 fun _ member => by simpa using ne_of_mem_of_not_mem (mem_order member) absent

/-- Among rows with different keys, taking out the first one with a key takes out all of them. -/
theorem eraseP_eq_leave {roster : Roster} (nodup : roster.order.Nodup) (id : LightId) :
    (roster.eraseP fun row => row.1 == id) = roster.leave id := by
  induction roster with
  | nil => rfl
  | cons row rest ih =>
    obtain ⟨absent, nodup⟩ := List.nodup_cons.1 nodup
    by_cases here : row.1 = id
    · rw [List.eraseP_cons_of_pos (by simpa using here), leave, List.filter_cons_of_neg (by simpa using here)]
      exact (leave_of_not_mem (here ▸ absent)).symm
    · rw [List.eraseP_cons_of_neg (by simpa using here), ih nodup, leave, leave,
        List.filter_cons_of_pos (by simpa using here)]

end Roster

namespace LightBucket

def shadowMaps (bucket : LightBucket) : List (Option TextureHandle) := bucket.entries.map (·.shadowMap)

def environments (bucket : LightBucket) : List (Option TextureHandle) := bucket.entries.map (·.environment)

/-- The rows of a bucket. -/
def rows (bucket : LightBucket) : Roster :=
  bucket.entries.map fun entry => (entry.light, ⟨entry.shadowSlot, entry.shadowMap, entry.environment⟩)

theorem order_rows (bucket : LightBucket) : bucket.rows.order = bucket.lights := by
  simp [rows, Roster.order, lights]

/-! ## Rows of an edited bucket -/

theorem rows_addLight {bucket : LightBucket} {id : LightId} (new : id ∉ bucket.lights) :
    (bucket.addLight id).2.rows = bucket.rows.enter id := by
  simp [addLight, new, rows, Roster.enter]

theorem rows_removeLight {bucket : LightBucket} (nodup : bucket.lights.Nodup) (id : LightId) :
    (bucket.removeLight id).2.rows = bucket.rows.leave id := by
  unfold removeLight
  split
  · rw [← Roster.eraseP_eq_leave (bucket.order_rows ▸ nodup), rows, rows, List.eraseP_map]
    rfl
  · next absent => rw [Roster.leave_of_not_mem (bucket.order_rows ▸ absent)]

/-- An update gives each light its own maps. -/
private theorem environment_updateEntries {layout : List (String × LightAttribute)} {lights : Arena .light Light}
    (index : Nat) (buffers : List LightBuffer) (pool : ShadowPool) (entries : List BucketEntry) :
    ∀ entry ∈ (updateEntries layout lights index buffers pool entries).2.1, ∀ light,
      lights.get? entry.light = some light → entry.environment = light.environment := by
  induction entries generalizing index buffers pool with
  | nil => simp [updateEntries]
  | cons entry rest ih =>
    simp only [updateEntries]
    split
    · next gone =>
      refine List.forall_mem_cons.2 ⟨?_, ih _ _ _⟩
      simp [gone]
    · next light found =>
      refine List.forall_mem_cons.2 ⟨?_, ih _ _ _⟩
      intro other held
      obtain rfl : light = other := Option.some.inj (found.symm.trans held)
      rfl

theorem environment_update (bucket : LightBucket) (lights : Arena .light Light) (pool : ShadowPool) :
    ∀ entry ∈ (bucket.update lights pool).2.1.entries, ∀ light, lights.get? entry.light = some light →
      entry.environment = light.environment :=
  environment_updateEntries _ _ _ _

end LightBucket

namespace LightModel

variable {order : List LightId} {roster : Roster} {model : LightModel} {graph after : ChunkGraph}

/-! ## What operations do to a roster -/

/-- What an update gives to a light. The casters take slots in the order of their types, and of their insertion within
a type, as long as there are any. -/
def share (model : LightModel) (order : List LightId) (id : LightId) : Holding :=
  match model.light? id with
  | none => {}
  | some light =>
    let turn := ((model.casters order).map (·.1)).idxOf id
    let slot := if light.castShadows ∧ turn < model.settings.maxShadows then some turn else none
    ⟨slot, slot.bind fun _ => light.shadow.map, light.environment⟩

def enroll (model : LightModel) (roster : Roster) : Op → Roster
  | .addLight light => roster.enter (model.lights.insert light).1
  | .removeLight id => roster.leave id
  | .update => roster.map fun row => (row.1, model.share roster.order row.1)
  | _ => roster

/-- A model in a graph after any run in which its own chunks stay and lights keep their types, and the roster that was
kept beside it. -/
inductive Enrolled : Roster → LightModel → ChunkGraph → Prop where
  | new {graph : ChunkGraph} {settings : LightModelSettings} {model : LightModel} :
      (new graph settings).1 = .ok model → Enrolled [] model (new graph settings).2
  | elsewhere {roster : Roster} {model : LightModel} {graph after : ChunkGraph} : Enrolled roster model graph →
      (∀ id ∈ model.chunks.inOrder, after.chunk? id = graph.chunk? id) → Enrolled roster model after
  | step {roster : Roster} {model : LightModel} {graph : ChunkGraph} (op : Op) : Enrolled roster model graph →
      model.KeepsTypes op → Enrolled (model.enroll roster op) (model.step graph op).1 (model.step graph op).2

theorem Enrolled.reached (enrolled : Enrolled roster model graph) : Reached roster.order model graph := by
  induction enrolled with
  | new made => exact .new made
  | elsewhere _ same ih => exact ih.elsewhere same
  | @step roster model graph op _ keeps ih =>
    cases op with
    | addLight light => exact (roster.order_enter _).symm ▸ ih.addLight light
    | removeLight id => exact (Roster.order_leave ih.kept.nodup id).symm ▸ ih.removeLight id
    | modifyLight id change => exact ih.modifyLight id change keeps
    | setShadowFiltering filtering => exact ih.setShadowFiltering filtering
    | setIblShadowing enabled => exact ih.setIblShadowing enabled
    | update =>
      have order : (model.enroll roster .update).order = roster.order := by
        simp [enroll, Roster.order]
      exact order ▸ ih.update

/-! ## What operations do to a bucket -/

/-- The rows of the live lights of one type. -/
def rowsOf (model : LightModel) (roster : Roster) (type : LightType) : Roster :=
  roster.filter fun row => model.typed type row.1

theorem order_rowsOf (model : LightModel) (roster : Roster) (type : LightType) :
    (model.rowsOf roster type).order = roster.order.filter (model.typed type) := by
  rw [rowsOf, Roster.order, Roster.order, List.filter_map]
  rfl

/-- The rows of each bucket in the graph are those of the lights of its type. -/
def Tallies (roster : Roster) (model : LightModel) (graph : ChunkGraph) : Prop :=
  ∀ type bucket, graph.chunk? (model.bucket type) = some (.lightBucket bucket) → bucket.rows = model.rowsOf roster type

theorem Tallies.of_buckets (tallies : Tallies roster model graph)
    (buckets : ∀ type, after.chunk? (model.bucket type) = graph.chunk? (model.bucket type)) :
    Tallies roster model after := fun type bucket stored => tallies type bucket ((buckets type).symm.trans stored)

/-- One bucket is stored anew. -/
private theorem Tallies.store (tallies : Tallies roster model graph) (distinct : model.chunks.inOrder.Nodup)
    {roster' : Roster} {lights : Arena .light Light} {type : LightType} {old bucket : LightBucket}
    (stored : graph.chunk? (model.bucket type) = some (.lightBucket old)) (changed : Bool)
    (here : bucket.rows = ({ model with lights } : LightModel).rowsOf roster' type)
    (there : ∀ other, other ≠ type →
      ({ model with lights } : LightModel).rowsOf roster' other = model.rowsOf roster other) :
    Tallies roster' { model with lights } (graph.store (model.bucket type) (.lightBucket bucket) changed) := by
  intro other found held
  replace held : (graph.store (model.bucket type) (.lightBucket bucket) changed).chunk? (model.bucket other) =
      some (.lightBucket found) := held
  rw [ChunkGraph.chunk?_store] at held
  by_cases same : other = type
  · subst same
    rw [if_pos rfl, stored] at held
    cases held
    exact here
  · have apart : model.bucket other ≠ model.bucket type := bucket_ne distinct same
    rw [if_neg apart] at held
    rw [there other same]
    exact tallies other found held

theorem Tallies.addLight (tallies : Tallies roster model graph) (kept : Kept roster.order model graph) (light : Light) :
    Tallies (roster.enter (model.lights.insert light).1) (model.addLight graph light).2.1
      (model.addLight graph light).2.2 := by
  obtain ⟨bucket, stored, listed⟩ := kept.buckets light.type
  have absent : (model.lights.insert light).1 ∉ roster.order := by
    rw [kept.live, light?, model.lights.get?_insert_key light]
    simp
  have new : (model.lights.insert light).1 ∉ bucket.lights := by
    rw [listed]
    exact fun member => absent (List.mem_filter.1 member).1
  have entered : ∀ type, ({ model with lights := (model.lights.insert light).2 } : LightModel).rowsOf
      (roster.enter (model.lights.insert light).1) type =
        if light.type = type then (model.rowsOf roster type).enter (model.lights.insert light).1
        else model.rowsOf roster type := by
    intro type
    have old : (roster.filter fun row =>
        ({ model with lights := (model.lights.insert light).2 } : LightModel).typed type row.1) =
          model.rowsOf roster type := List.filter_congr fun row member => by
      rw [typed_insert, if_neg (ne_of_mem_of_not_mem (Roster.mem_order member) absent)]
    rw [rowsOf, Roster.enter, List.filter_append, old]
    by_cases same : light.type = type <;> simp [Roster.enter, typed_insert, same]
  simp only [LightModel.addLight, ChunkGraph.lightBucket?_eq_some_iff.2 stored]
  refine tallies.store kept.distinct stored _ ?_ fun type apart => ?_
  · rw [entered, if_pos rfl, LightBucket.rows_addLight new, tallies _ _ stored]
  · rw [entered, if_neg apart.symm]

theorem Tallies.removeLight (tallies : Tallies roster model graph) (kept : Kept roster.order model graph)
    (id : LightId) :
    Tallies (roster.leave id) (model.removeLight graph id).2.1 (model.removeLight graph id).2.2 := by
  unfold LightModel.removeLight
  split
  · next gone =>
    have absent : id ∉ roster.order := by
      rw [kept.live, light?, (Arena.remove_eq_none_iff ..).1 gone]
      simp
    rwa [Roster.leave_of_not_mem absent]
  · next light lights removed =>
    obtain ⟨found, -⟩ := Arena.get?_of_remove removed
    obtain ⟨bucket, stored, listed⟩ := kept.buckets light.type
    have left : ∀ type, ({ model with lights } : LightModel).rowsOf (roster.leave id) type =
        (model.rowsOf roster type).leave id := by
      intro type
      rw [rowsOf, rowsOf, Roster.leave, Roster.leave, List.filter_filter, List.filter_filter]
      refine List.filter_congr fun row _ => ?_
      rw [typed_remove removed]
      by_cases here : row.1 = id <;> simp [here, Bool.and_comm]
    simp only [ChunkGraph.lightBucket?_eq_some_iff.2 stored]
    refine tallies.store kept.distinct stored _ ?_ fun type apart => ?_
    · rw [left, LightBucket.rows_removeLight (listed ▸ kept.nodup.filter _), tallies _ _ stored]
    · rw [left, Roster.leave_of_not_mem]
      simp [order_rowsOf, typed, light?, found, apart.symm]

theorem Tallies.modifyLight (tallies : Tallies roster model graph) {id : LightId} {change : Light → Light}
    (type : ∀ light, model.light? id = some light → (change light).type = light.type) :
    Tallies roster (model.modifyLight id change) graph := by
  intro expected bucket stored
  rw [rowsOf, typed_modifyLight type]
  exact tallies expected bucket stored

/-- The slot that an update leaves to a light is the one of its share. -/
theorem Assigned.slot?_eq (assigned : Assigned order model graph) (kept : Kept order model graph) {id : LightId}
    {light : Light} (found : model.light? id = some light) :
    model.slot? graph id = some (model.share order id).slot := by
  simp only [share, found]
  cases casts : light.castShadows with
  | false => simpa using assigned.others id light found casts
  | true =>
    have member : (id, light) ∈ model.casters order :=
      List.mem_filter.2 ⟨mem_lineup.2 ⟨(kept.live id).2 (by simp [found]), found⟩, casts⟩
    have named : id ∈ (model.casters order).map (·.1) := List.mem_map_of_mem member
    have turn : (model.casters order)[((model.casters order).map (·.1)).idxOf id]? = some (id, light) := by
      have here := List.getElem?_idxOf named
      rw [List.getElem?_map, Option.map_eq_some_iff] at here
      obtain ⟨⟨same, other⟩, here, rfl⟩ := here
      have live := (mem_lineup.1 (List.mem_of_mem_filter (List.mem_of_getElem? here))).2
      cases found.symm.trans live
      exact here
    simpa using assigned.casters _ id light turn

/-- What an update leaves in a bucket is what it gives to the lights there. -/
theorem Tallies.update (kept : Kept roster.order model graph) :
    Tallies (model.enroll roster .update) model (model.update graph).2 := by
  intro type bucket stored
  obtain ⟨after, updated, settled⟩ := kept.update
  have packed := (kept.fresh_update.buckets type bucket stored).maps
  obtain ⟨old, pool, -, made⟩ := kept.updated_update type
  obtain rfl : (old.update model.lights pool).2.1 = bucket := by simpa using made.symm.trans stored
  have environments := old.environment_update model.lights pool
  rw [updated] at stored
  have shares : ∀ entry ∈ (old.update model.lights pool).2.1.entries,
      (⟨entry.shadowSlot, entry.shadowMap, entry.environment⟩ : Holding) = model.share roster.order entry.light := by
    intro entry member
    obtain ⟨light, found⟩ := settled.kept.exists_light stored member
    have held : model.slot? after entry.light = some entry.shadowSlot :=
      settled.kept.slot?_eq stored found (List.mem_map_of_mem member)
    have slot := Option.some.inj (held.symm.trans (settled.assigned.slot?_eq settled.kept found))
    have shadowMap := packed entry member light found
    have environment := environments entry member light found
    rw [shadowMap, environment, slot]
    simp only [share, found]
  obtain ⟨bucket, known, listed⟩ := settled.kept.buckets type
  obtain rfl : bucket = (old.update model.lights pool).2.1 := by simpa using known.symm.trans stored
  have names : model.rowsOf (model.enroll roster .update) type =
      (roster.order.filter (model.typed type)).map fun id => (id, model.share roster.order id) := by
    simp only [rowsOf, enroll, Roster.order, List.filter_map, List.map_map]
    rfl
  rw [names, ← listed, LightBucket.lights, List.map_map, LightBucket.rows]
  refine List.map_congr_left fun entry member => ?_
  rw [shares entry member]
  rfl

theorem Tallies.new {settings : LightModelSettings} (made : (LightModel.new graph settings).1 = .ok model) :
    Tallies [] model (LightModel.new graph settings).2 := by
  intro type bucket stored
  obtain ⟨known, found, listed⟩ := (Kept.new made).buckets type
  obtain rfl : known = bucket := by simpa using found.symm.trans stored
  have empty : known.entries = [] := by simpa [LightBucket.lights] using listed
  rw [LightBucket.rows, empty]
  rfl

/-- The options of a model have chunks of their own. -/
private theorem Tallies.storeOption (tallies : Tallies roster model graph) (distinct : model.chunks.inOrder.Nodup)
    {id : ChunkId} (option : id = model.chunks.iblShadowing ∨ id = model.chunks.shadowFilter) (chunk : Chunk)
    (changed : Bool) : Tallies roster model (graph.store id chunk changed) :=
  tallies.of_buckets fun type => by
    have apart : model.bucket type ≠ id := ((options_ne distinct option).2.2 type).symm
    rw [ChunkGraph.chunk?_store, if_neg apart]

theorem Tallies.adjust (tallies : Tallies roster model graph) (distinct : model.chunks.inOrder.Nodup)
    {adjusted : LightModel} (adjusts : Adjusts model graph adjusted after) : Tallies roster adjusted after := by
  cases adjusts with
  | nothing => exact tallies
  | option option _ chunk changed => exact tallies.storeOption distinct option chunk changed

/-! ## Runs -/

theorem Enrolled.tallies (enrolled : Enrolled roster model graph) : Tallies roster model graph := by
  induction enrolled with
  | new made => exact .new made
  | elsewhere _ same ih => exact ih.of_buckets fun type => same _ (bucket_mem_inOrder _ type)
  | @step roster model graph op enrolled keeps ih =>
    have kept := enrolled.reached.kept
    cases op with
    | addLight light => exact ih.addLight kept light
    | removeLight id => exact ih.removeLight kept id
    | modifyLight id change => exact ih.modifyLight keeps
    | setShadowFiltering filtering => exact ih.adjust kept.distinct (adjusts_setShadowFiltering _ _ filtering)
    | setIblShadowing enabled => exact ih.adjust kept.distinct (adjusts_setIblShadowing _ _ enabled)
    | update => exact .update kept

/-- A light holds the slot of its row. -/
theorem Enrolled.slot?_eq (enrolled : Enrolled roster model graph) {row : LightId × Holding} (member : row ∈ roster) :
    model.slot? graph row.1 = some row.2.slot := by
  have kept := enrolled.reached.kept
  obtain ⟨light, found⟩ := Option.isSome_iff_exists.1 ((kept.live row.1).1 (Roster.mem_order member))
  obtain ⟨bucket, stored, -⟩ := kept.buckets light.type
  refine kept.slot?_eq stored found ?_
  have inside : row ∈ bucket.rows := by
    rw [enrolled.tallies _ _ stored]
    exact List.mem_filter.2 ⟨member, by simp [typed, found]⟩
  obtain ⟨entry, isEntry, rfl⟩ := List.mem_map.1 inside
  exact List.mem_map_of_mem isEntry

/-- Along every run, the columns of each bucket are those of the roster of live lights, which has each light once. A
light is in the bucket of its type and in no other, and keeps its slot when others are removed. -/
theorem buckets_match_lights (enrolled : Enrolled roster model graph) :
    (roster.order.Nodup ∧ ∀ id, id ∈ roster.order ↔ (model.light? id).isSome) ∧
    (∀ type, ∃ bucket, graph.lightBucket? (model.bucket type) = some bucket ∧
      bucket.lights = (model.rowsOf roster type).map (·.1) ∧
      bucket.shadowSlots = (model.rowsOf roster type).map (·.2.slot) ∧
      bucket.shadowMaps = (model.rowsOf roster type).map (·.2.shadowMap) ∧
      bucket.environments = (model.rowsOf roster type).map (·.2.environment)) ∧
    (∀ id light, model.light? id = some light → ∀ type bucket,
      graph.lightBucket? (model.bucket type) = some bucket → (id ∈ bucket.lights ↔ type = light.type)) ∧
    ∀ id other, other ≠ id →
      (model.removeLight graph id).2.1.slot? (model.removeLight graph id).2.2 other = model.slot? graph other := by
  have kept := enrolled.reached.kept
  refine ⟨⟨kept.nodup, kept.live⟩, ?_, ?_, ?_⟩
  · intro type
    obtain ⟨bucket, stored, -⟩ := kept.buckets type
    refine ⟨bucket, ChunkGraph.lightBucket?_eq_some_iff.2 stored, ?_⟩
    rw [← enrolled.tallies type bucket stored]
    simp [LightBucket.rows, LightBucket.lights, LightBucket.shadowSlots, LightBucket.shadowMaps,
      LightBucket.environments]
  · intro id light found type bucket held
    have stored := ChunkGraph.lightBucket?_eq_some_iff.1 held
    have live : id ∈ roster.order := (kept.live id).2 (by simp [found])
    rw [← bucket.order_rows, enrolled.tallies type bucket stored, order_rowsOf, List.mem_filter]
    simp [live, typed, found, eq_comm]
  · intro id other apart
    have removed : Enrolled (roster.leave id) (model.removeLight graph id).2.1 (model.removeLight graph id).2.2 :=
      enrolled.step (.removeLight id) trivial
    by_cases live : other ∈ roster.order
    · obtain ⟨row, member, rfl⟩ := List.mem_map.1 live
      rw [enrolled.slot?_eq member]
      exact removed.slot?_eq (List.mem_filter.2 ⟨member, by simpa using apart⟩)
    · have gone : ∀ {roster model graph}, Enrolled roster model graph → other ∉ roster.order →
          model.slot? graph other = none := by
        intro roster model graph enrolled absent
        have dead : model.light? other = none := by simpa [enrolled.reached.kept.live] using absent
        simp [slot?, dead]
      rw [gone enrolled live, gone removed]
      rw [Roster.order_leave kept.nodup]
      exact fun member => live (List.mem_of_mem_erase member)

theorem removeLight_model (model : LightModel) (graph : ChunkGraph) (id : LightId) :
    (model.removeLight graph id).2.1 =
      { model with lights := ((model.lights.remove id).map (·.2)).getD model.lights } := by
  unfold removeLight
  split
  · next gone => rw [gone]; rfl
  · next removed =>
    rw [removed]
    dsimp only
    split <;> rfl

/-- The last of three lights keeps its slot when the first one goes. -/
theorem buckets_match_lights_after_removal :
    ∃ model graph bucket, Enrolled [(⟨2, 1⟩, {}), (⟨3, 1⟩, { slot := some 1 })] model graph ∧
      graph.lightBucket? (model.bucket .directional) = some bucket ∧ bucket.lights = [⟨2, 1⟩, ⟨3, 1⟩] ∧
      bucket.shadowSlots = [none, some 1] := by
  let plain := Light.directional .backward
  let caster := plain.withShadow {}
  obtain ⟨⟨settings, lights, chunks⟩, -, -, made, rfl, rfl, -⟩ := new_spec .empty { maxShadows := 2 }
  have enrolled := (((((Enrolled.new made).step (.addLight caster) trivial).step (.addLight plain) trivial).step
    (.addLight caster) trivial).step .update trivial).step (.removeLight ⟨1, 1⟩) trivial
  simp only [step, addLight_model, removeLight_model] at enrolled
  obtain ⟨-, buckets, -⟩ := buckets_match_lights enrolled
  obtain ⟨bucket, held, named, slots, -⟩ := buckets .directional
  exact ⟨_, _, bucket, enrolled, held, named, slots⟩

end LightModel

end ShaderWeave
