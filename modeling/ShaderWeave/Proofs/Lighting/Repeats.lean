import ShaderWeave.Proofs.Lighting.Agreement

/-! # Repeated updates

The slots that a pass hands out and the form of the maps follow from which lights cast shadows, and from the forms of
their maps. As long as these stay, an update after an update has no code to change: it writes the values of the lights and
marks nothing.
-/

namespace ShaderWeave

/-! ## Changes of values -/

/-- What the code of a program depends on in a light, next to its type. -/
def Light.traits (light : Light) : Bool × Bool := (light.castShadows, light.shadow.depthTexture)

/-- The light has other values, but the same part in the code. -/
structure Light.KeepsCode (before after : Light) : Prop where
  type : after.type = before.type
  castShadows : after.castShadows = before.castShadows
  depthTexture : after.shadow.depthTexture = before.shadow.depthTexture

/-- Lights under the same keys, with the same part in the code. -/
def Arena.SameTraits (before after : Arena .light Light) : Prop :=
  ∀ id, (after.get? id).map Light.traits = (before.get? id).map Light.traits

theorem Arena.SameTraits.trans {first second third : Arena .light Light} (early : first.SameTraits second)
    (late : second.SameTraits third) : first.SameTraits third :=
  fun id => (late id).trans (early id)

namespace LightModel

/-- The models that changes of values lead to. -/
inductive Revalued (model : LightModel) : LightModel → Prop where
  | refl : Revalued model model
  | modify {middle : LightModel} (id : LightId) (change : Light → Light) : Revalued model middle →
      (∀ light, middle.light? id = some light → light.KeepsCode (change light)) →
      Revalued model (middle.modifyLight id change)

variable {model revalued : LightModel}

theorem Revalued.chunks (values : Revalued model revalued) : revalued.chunks = model.chunks := by
  induction values with
  | refl => rfl
  | modify id change _ _ ih => exact ih

theorem Revalued.sameTraits (values : Revalued model revalued) : model.lights.SameTraits revalued.lights := by
  induction values with
  | refl => exact fun _ => rfl
  | @modify middle id change _ keeps ih =>
    refine ih.trans fun other => ?_
    rw [modifyLight, Arena.get?_modify]
    split
    · next here =>
      subst here
      cases found : middle.lights.get? other with
      | none => rfl
      | some light =>
        obtain ⟨-, castShadows, depthTexture⟩ := keeps light found
        simp only [Option.map_some, Light.traits, castShadows, depthTexture]
    · rfl

end LightModel

/-! ## Pools -/

namespace ShadowPool

/-- What later requests depend on in a pool, with the forms of the maps. -/
def outline (pool : ShadowPool) : Nat × List Bool := (pool.capacity, pool.granted.map (·.depthTexture))

variable {first second : ShadowPool}

theorem count_of_outline (same : second.outline = first.outline) : second.count = first.count := by
  simpa [outline, count] using congrArg (fun outline => outline.2.length) same

theorem depthTexture_of_outline (same : second.outline = first.outline) : second.depthTexture = first.depthTexture := by
  simpa [outline, depthTexture] using congrArg (fun outline => outline.2.head?) same

theorem request_of_outline (same : second.outline = first.outline) {before after : ShadowSettings}
    (form : after.depthTexture = before.depthTexture) :
    (second.request after).1 = (first.request before).1 ∧
      (second.request after).2.outline = (first.request before).2.outline := by
  have count := count_of_outline same
  obtain ⟨capacity, forms⟩ := Prod.mk.inj same
  unfold request
  rw [count, capacity]
  split
  · exact ⟨rfl, same⟩
  · exact ⟨rfl, by simp [outline, forms, form]⟩

/-- A pass that hands out the same slots for maps of the same form leaves the generated code up to date. -/
theorem check_again (same : second.outline = first.outline) (generated : second.reset = first.check.2.reset) :
    second.check.1 = false ∧ second.hash = first.check.2.hash := by
  have count := count_of_outline same
  have form := depthTexture_of_outline same
  have generatedCount : second.generatedCount = first.count := congrArg ShadowPool.generatedCount generated
  have generatedForm : second.generatedDepthTexture = first.depthTexture.getD first.generatedDepthTexture :=
    congrArg ShadowPool.generatedDepthTexture generated
  have hashes : second.reset.hash = first.check.2.reset.hash := congrArg ShadowPool.hash generated
  refine ⟨?_, hashes⟩
  simp only [check, count, generatedCount, form, generatedForm, bne_self_eq_false, Bool.false_or]
  cases first.depthTexture <;> simp

end ShadowPool

/-! ## Buckets -/

namespace LightBucket

variable {before after : Arena .light Light} {pool pool' : ShadowPool}

theorem claimSlot_of_outline (same : pool'.outline = pool.outline) {light light' : Light}
    (traits : light'.traits = light.traits) :
    (claimSlot light' pool').1 = (claimSlot light pool).1 ∧
      (claimSlot light' pool').2.outline = (claimSlot light pool).2.outline := by
  obtain ⟨casts, form⟩ := Prod.mk.inj traits
  unfold claimSlot
  rw [casts]
  split
  · exact ShadowPool.request_of_outline same form
  · exact ⟨rfl, same⟩

/-- A second pass over the entries of a bucket hands out the slots that they have. -/
theorem updateEntries_again (traits : before.SameTraits after) (layout : List (String × LightAttribute))
    (index index' : Nat) (buffers buffers' : List LightBuffer) (same : pool'.outline = pool.outline)
    (entries : List BucketEntry) :
    let first := updateEntries layout before index buffers pool entries
    let second := updateEntries layout after index' buffers' pool' first.2.1
    second.2.1.map (·.shadowSlot) = first.2.1.map (·.shadowSlot) ∧ second.2.2.2.outline = first.2.2.2.outline := by
  induction entries generalizing index index' buffers buffers' pool pool' with
  | nil => exact ⟨rfl, same⟩
  | cons entry rest ih =>
    have here := traits entry.light
    cases found : before.get? entry.light with
    | none =>
      have gone : after.get? entry.light = none := by simpa [found] using here
      obtain ⟨slots, outline⟩ := ih (index + 1) (index' + 1) buffers buffers' same
      simp only [updateEntries, found, gone, List.map_cons]
      exact ⟨congrArg (entry.shadowSlot :: ·) slots, outline⟩
    | some light =>
      obtain ⟨light', found', alike⟩ := Option.map_eq_some_iff.1 (here.trans (congrArg (Option.map _) found))
      obtain ⟨slot, claimed⟩ := claimSlot_of_outline same alike
      obtain ⟨slots, outline⟩ := ih (index + 1) (index' + 1) (packInto layout light index buffers)
        (packInto layout light' index' buffers') claimed
      simp only [updateEntries, found, found', List.map_cons]
      exact ⟨by rw [slot, slots], outline⟩

/-- A second update of a bucket changes no slot. -/
theorem update_again (traits : before.SameTraits after) (same : pool'.outline = pool.outline) (bucket : LightBucket) :
    let first := bucket.update before pool
    let second := first.2.1.update after pool'
    second.1 = false ∧ second.2.1.shadowSlots = first.2.1.shadowSlots ∧ second.2.2.outline = first.2.2.outline := by
  obtain ⟨slots, outline⟩ := updateEntries_again traits bucket.type.layout 0 0
    (bucket.buffers.map fun buffer => (buffer.resize bucket.size).2)
    ((bucket.update before pool).2.1.buffers.map fun buffer =>
      (buffer.resize (bucket.update before pool).2.1.size).2) same bucket.entries
  exact ⟨(changed_update ..).trans (bne_eq_false_iff_eq.2 slots), slots, outline⟩

end LightBucket

/-- Choosing what is chosen changes nothing. -/
theorem Choice.set_again {choice chosen : Choice} {value : String} {changed : Bool}
    (set : choice.set value = .ok (changed, chosen)) : chosen.set value = .ok (false, chosen) := by
  simp only [Choice.set] at set ⊢
  split at set
  · next inside =>
    obtain ⟨-, rfl⟩ := Prod.mk.inj (Except.ok.inj set)
    simp [inside]
  · cases set

/-! ## Updates of models -/

namespace LightModel

variable {before after : Arena .light Light} {graph again : ChunkGraph} {pool pool' : ShadowPool} {shadows : ChunkId}

/-- A second update of buckets marks no collection. -/
theorem updateBuckets_again (traits : before.SameTraits after) {targets : List ChunkId} (once : targets.Nodup)
    (apart : shadows ∉ targets) (stored : graph.chunk? shadows = some (.shadowPool pool)) {first : ChunkGraph}
    (updated : updateBuckets before shadows graph targets = (.ok (), first))
    (stored' : again.chunk? shadows = some (.shadowPool pool')) (same : pool'.outline = pool.outline)
    (kept : ∀ target ∈ targets, again.chunk? target = first.chunk? target) :
    ∃ second filled filled', updateBuckets after shadows again targets = (.ok (), second) ∧
      second.collections = again.collections ∧
      (∀ target ∈ targets, ∃ old new, again.chunk? target = some (.lightBucket old) ∧
        second.chunk? target = some (.lightBucket new) ∧ new.shadowSlots = old.shadowSlots) ∧
      first.chunk? shadows = some (.shadowPool filled) ∧ second.chunk? shadows = some (.shadowPool filled') ∧
      filled'.outline = filled.outline := by
  induction targets generalizing graph again pool pool' with
  | nil =>
    cases updated
    exact ⟨again, pool, pool', rfl, rfl, by simp, stored, stored', same⟩
  | cons target rest ih =>
    obtain ⟨away, apart⟩ := not_or.1 (mt List.mem_cons.2 apart)
    obtain ⟨absent, once⟩ := List.nodup_cons.1 once
    cases found : graph.lightBucket? target with
    | none =>
      rw [updateBuckets, found] at updated
      cases updated
    | some bucket =>
      obtain ⟨next, step, nextPool, nextBucket, -, -⟩ :=
        updateBuckets_cons before (ChunkGraph.lightBucket?_eq_some_iff.1 found) stored away rest
      rw [step] at updated
      obtain ⟨quiet, slots, outline⟩ := bucket.update_again traits same
      have packed : again.chunk? target = some (.lightBucket (bucket.update before pool).2.1) :=
        (kept target (List.mem_cons_self ..)).trans
          ((chunk?_of_updateBuckets updated (Ne.symm away) absent).trans nextBucket)
      obtain ⟨next', step', nextPool', nextBucket', nextOthers', unmarked⟩ :=
        updateBuckets_cons after packed stored' away rest
      have others : ∀ other ∈ rest, next'.chunk? other = again.chunk? other := fun other member =>
        nextOthers' other (ne_of_mem_of_not_mem member apart) (ne_of_mem_of_not_mem member absent)
      obtain ⟨second, filled, filled', updated', collections, each, last, last', outlines⟩ :=
        ih once apart nextPool updated nextPool' outline fun other member =>
          (others other member).trans (kept other (List.mem_cons_of_mem _ member))
      refine ⟨second, filled, filled', step'.trans updated', collections.trans (unmarked quiet),
        List.forall_mem_cons.2 ⟨⟨_, _, packed, ?_, slots⟩, fun other member => ?_⟩, last, last', outlines⟩
      · exact (chunk?_of_updateBuckets updated' (Ne.symm away) absent).trans nextBucket'
      · obtain ⟨old, new, held, rest⟩ := each other member
        exact ⟨old, new, (others other member).symm.trans held, rest⟩

theorem setDepthFormat_again {target : ChunkId} {depthTexture : Bool} {first : ChunkGraph}
    (declared : setDepthFormat target depthTexture graph = (.ok (), first))
    (same : again.chunk? target = first.chunk? target) :
    ∃ second, setDepthFormat target depthTexture again = (.ok (), second) ∧ second.collections = again.collections := by
  unfold setDepthFormat at declared
  split at declared
  · cases declared
  · next choice found =>
    split at declared
    · cases declared
    · next changed chosen set =>
      obtain ⟨-, rfl⟩ := Prod.mk.inj declared
      rw [ChunkGraph.chunk?_store, if_pos rfl, ChunkGraph.choice?_eq_some_iff.1 found] at same
      refine ⟨again.store target (.choice chosen) false, ?_, rfl⟩
      simp only [setDepthFormat, ChunkGraph.choice?_eq_some_iff.2 same, Choice.set_again set]

variable {model revalued : LightModel}

/-- An update that came to its end. -/
theorem update_of_ok {after : ChunkGraph} (distinct : model.chunks.inOrder.Nodup)
    (updated : model.update graph = (.ok (), after)) :
    ∃ pool filled handed, graph.chunk? model.chunks.shadows = some (.shadowPool pool) ∧
      updateBuckets model.lights model.chunks.shadows
        (graph.setChunk model.chunks.shadows (.shadowPool pool.reset)) model.chunks.buckets = (.ok (), filled) ∧
      filled.chunk? model.chunks.shadows = some (.shadowPool handed) ∧ handed.reset = pool.reset ∧
      after.chunk? model.chunks.shadows = some (.shadowPool handed.check.2) ∧
      (∀ type, after.chunk? (model.bucket type) = filled.chunk? (model.bucket type)) ∧
      ∀ depthTexture, handed.depthTexture = some depthTexture →
        setDepthFormat model.chunks.depthFormat depthTexture (checkPool model.chunks.shadows filled).2 =
          (.ok (), after) := by
  obtain ⟨outside, -⟩ := not_mem_buckets distinct
  obtain ⟨-, -, apart⟩ := others_ne distinct .directional
  simp only [LightModel.update] at updated
  split at updated
  · cases updated
  · next pool found =>
    have stored := ChunkGraph.shadowPool?_eq_some_iff.1 found
    have reset := ChunkGraph.chunk?_setChunk_self stored (.shadowPool pool.reset)
    obtain ⟨handed, last, same⟩ := reset_updateBuckets model.lights reset outside
    split at updated
    · cases updated
    · next filled packed =>
      rw [packed] at last
      obtain ⟨checked, ended, final, others, -⟩ := checkPool_spec last
      refine ⟨pool, filled, handed, stored, packed, last, same, ?_⟩
      rw [ended] at updated ⊢
      cases form : handed.depthTexture with
      | none =>
        rw [form] at updated
        cases updated
        refine ⟨final, fun type => others _ (others_ne distinct type).1, ?_⟩
        rintro _ ⟨⟩
      | some depthTexture =>
        rw [form] at updated
        dsimp only at updated
        refine ⟨(chunk?_of_setDepthFormat updated apart).trans final, fun type => ?_, ?_⟩
        · obtain ⟨away, away', -⟩ := others_ne distinct type
          exact (chunk?_of_setDepthFormat updated away').trans (others _ away)
        · rintro _ ⟨⟩
          exact updated

/-- An update that changed no code: it marked no collection, all slots are where they were, and the pool's code is the
same. -/
structure Still (chunks : ModelChunks) (before after : ChunkGraph) : Prop where
  collections : after.collections = before.collections
  slots : ∀ type, ∃ old new, before.chunk? (chunks.bucket type) = some (.lightBucket old) ∧
    after.chunk? (chunks.bucket type) = some (.lightBucket new) ∧ new.shadowSlots = old.shadowSlots
  pool : ∃ old new, before.chunk? chunks.shadows = some (.shadowPool old) ∧
    after.chunk? chunks.shadows = some (.shadowPool new) ∧ new.hash = old.hash

/-- **An update after an update changes no code**, if the lights have the same traits and the chunks of the model are as
the first one left them. -/
theorem update_again (distinct : model.chunks.inOrder.Nodup) {first : ChunkGraph}
    (updated : model.update graph = (.ok (), first))
    (same : ∀ id ∈ model.chunks.inOrder, again.chunk? id = first.chunk? id) (chunks : revalued.chunks = model.chunks)
    (traits : model.lights.SameTraits revalued.lights) :
    ∃ second, revalued.update again = (.ok (), second) ∧ Still model.chunks again second := by
  obtain ⟨outside, -⟩ := not_mem_buckets distinct
  obtain ⟨-, -, apart⟩ := others_ne distinct .directional
  obtain ⟨pool, filled, handed, stored, packed, last, kept, final, buckets, declared⟩ := update_of_ok distinct updated
  have generated : again.chunk? model.chunks.shadows = some (.shadowPool handed.check.2) :=
    (same _ (by simp [ModelChunks.inOrder])).trans final
  have reset := ChunkGraph.chunk?_setChunk_self stored (.shadowPool pool.reset)
  have resetAgain := ChunkGraph.chunk?_setChunk_self generated (.shadowPool handed.check.2.reset)
  have others {id : ChunkId} (away : id ≠ model.chunks.shadows) :
      (again.setChunk model.chunks.shadows (.shadowPool handed.check.2.reset)).chunk? id = again.chunk? id :=
    again.chunk?_setChunk_of_ne away _
  have outline : handed.check.2.reset.outline = pool.reset.outline := by
    have capacity : handed.reset.capacity = pool.reset.capacity := by rw [kept]
    exact Prod.ext capacity rfl
  obtain ⟨packedAgain, handed', handed'', updatedAgain, collections, slots, last', last'', outlines⟩ :=
    updateBuckets_again traits (nodup_buckets distinct) outside reset packed resetAgain outline
      fun target member => by
        obtain ⟨type, -, rfl⟩ := List.mem_map.1 member
        rw [others (others_ne distinct type).1, same _ (bucket_mem_inOrder model.chunks type)]
        exact buckets type
  obtain rfl : handed = handed' := by simpa using last.symm.trans last'
  obtain ⟨pool', stored', generated'⟩ := reset_updateBuckets revalued.lights resetAgain outside
  rw [updatedAgain] at stored'
  obtain rfl : pool' = handed'' := by simpa using stored'.symm.trans last''
  obtain ⟨quiet, hash⟩ := ShadowPool.check_again outlines generated'
  obtain ⟨checked, ended, finalAgain, kept', unmarked⟩ := checkPool_spec last''
  have still (second : ChunkGraph) (marks : second.collections = checked.collections)
      (left : ∀ id, id ≠ model.chunks.depthFormat → second.chunk? id = checked.chunk? id) :
      Still model.chunks again second := by
    refine ⟨marks.trans ((unmarked quiet).trans collections), fun type => ?_, ?_⟩
    · obtain ⟨away, away', -⟩ := others_ne distinct type
      obtain ⟨old, new, before, after, slots⟩ := slots _ (List.mem_map_of_mem (mem_all type))
      exact ⟨old, new, (others away).symm.trans before, (left _ away').trans ((kept' _ away).trans after), slots⟩
    · exact ⟨_, _, generated, (left _ apart).trans finalAgain, (ShadowPool.hash_check quiet).trans hash⟩
  simp only [LightModel.update, chunks, ChunkGraph.shadowPool?_eq_some_iff.2 generated, updatedAgain, ended,
    ShadowPool.depthTexture_of_outline outlines]
  cases form : handed.depthTexture with
  | none => exact ⟨checked, rfl, still checked rfl fun _ _ => rfl⟩
  | some depthTexture =>
    have format : checked.chunk? model.chunks.depthFormat = first.chunk? model.chunks.depthFormat := by
      rw [kept' _ apart.symm, ← same _ (by simp [ModelChunks.inOrder]), ← others apart.symm]
      exact chunk?_of_updateBuckets updatedAgain apart.symm (not_mem_buckets distinct).2
    obtain ⟨second, declaredAgain, marks⟩ := setDepthFormat_again (declared depthTexture form) format
    exact ⟨second, declaredAgain, still second marks fun id away => chunk?_of_setDepthFormat declaredAgain away⟩

end LightModel

end ShaderWeave
