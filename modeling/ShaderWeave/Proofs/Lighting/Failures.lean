import ShaderWeave.Proofs.Arena
import ShaderWeave.Proofs.Lighting.Upkeep

/-! # Failed operations of light models

An operation of a model fails when a chunk that it needs is gone. Settings are set after the chunk that shows them, so
there a failure leaves everything as it was. Lights are stored, or taken out, before their bucket is looked up, and an
update goes from chunk to chunk: what it has done to the chunks in front of the missing one stays.
-/

namespace ShaderWeave

namespace ChunkGraph

variable {graph before middle after : ChunkGraph} {ids : List ChunkId}

/-! ## Changes of some chunks -/

/-- All that may be different are the states of the chunks in `ids`, each of the same kind as before, whether they have
values to upload, and the marks of the collections subscribed to them. -/
structure Confined (ids : List ChunkId) (before after : ChunkGraph) : Prop where
  nodes : ∀ id, id ∉ ids → after.node? id = before.node? id
  kinds : ∀ id, (after.chunk? id).map Chunk.kind = (before.chunk? id).map Chunk.kind
  subscribers : ∀ id, after.subscribers id = before.subscribers id
  collections : ∀ id, after.collection? id = before.collection? id ∨
    (∃ chunk ∈ ids, id ∈ before.subscribers chunk) ∧
      after.collection? id = (before.collection? id).map ChunkCollection.invalidateCode

namespace Confined

theorem refl (ids : List ChunkId) (graph : ChunkGraph) : Confined ids graph graph :=
  ⟨fun _ _ => rfl, fun _ => rfl, fun _ => rfl, fun _ => .inl rfl⟩

theorem mono {more : List ChunkId} (confined : Confined ids before after) (within : ids ⊆ more) :
    Confined more before after where
  nodes id outside := confined.nodes id fun member => outside (within member)
  kinds := confined.kinds
  subscribers := confined.subscribers
  collections id := (confined.collections id).imp_right fun ⟨⟨chunk, member, subscribed⟩, marked⟩ =>
    ⟨⟨chunk, within member, subscribed⟩, marked⟩

theorem of_mem {id : ChunkId} (member : id ∈ ids) (confined : Confined [id] before after) : Confined ids before after :=
  confined.mono (List.cons_subset.2 ⟨member, List.nil_subset ids⟩)

theorem trans (first : Confined ids before middle) (second : Confined ids middle after) :
    Confined ids before after where
  nodes id outside := (second.nodes id outside).trans (first.nodes id outside)
  kinds id := (second.kinds id).trans (first.kinds id)
  subscribers id := (second.subscribers id).trans (first.subscribers id)
  collections id := by
    rcases second.collections id with same | ⟨⟨chunk, member, subscribed⟩, marked⟩
    · rw [same]
      exact first.collections id
    · rw [first.subscribers] at subscribed
      refine .inr ⟨⟨chunk, member, subscribed⟩, marked.trans ?_⟩
      rcases first.collections id with same | ⟨-, once⟩
      · rw [same]
      · rw [once, Option.map_map]
        rfl

end Confined

theorem confined_modifyNode (id : ChunkId) {change : ChunkNode → ChunkNode}
    (kind : ∀ node, graph.node? id = some node → (change node).chunk.kind = node.chunk.kind)
    (subscribers : ∀ node, (change node).subscribers = node.subscribers) :
    Confined [id] graph (graph.modifyNode id change) where
  nodes other outside := by
    rw [node?_modifyNode, if_neg fun here => outside (List.mem_singleton.2 here)]
  kinds other := by
    rw [chunk?, chunk?, node?_modifyNode]
    split
    · next here =>
      subst here
      cases found : graph.node? other with
      | none => rfl
      | some node => exact congrArg some (kind node found)
    · rfl
  subscribers other := by
    rw [ChunkGraph.subscribers, ChunkGraph.subscribers, node?_modifyNode]
    split
    · cases graph.node? other with
      | none => rfl
      | some node => exact subscribers node
    · rfl
  collections _ := .inl rfl

theorem confined_setChunk {id : ChunkId} {old new : Chunk} (found : graph.chunk? id = some old)
    (kind : new.kind = old.kind) : Confined [id] graph (graph.setChunk id new) := by
  refine confined_modifyNode id (fun node held => ?_) fun _ => rfl
  rw [chunk?, held] at found
  exact kind.trans (congrArg Chunk.kind (Option.some.inj found).symm)

theorem confined_markPending (id : ChunkId) : Confined [id] graph (graph.markPending id) :=
  confined_modifyNode id (fun _ _ => rfl) fun _ => rfl

theorem confined_invalidateCode (id : ChunkId) : Confined [id] graph (graph.invalidateCode id) where
  nodes _ _ := rfl
  kinds _ := rfl
  subscribers _ := rfl
  collections other := by
    rw [invalidateCode, collection?_markCodes]
    by_cases subscribed : other ∈ graph.subscribers id
    · refine .inr ⟨⟨id, List.mem_singleton_self id, subscribed⟩, ?_⟩
      simp only [subscribed, ↓reduceIte]
    · simp [subscribed]

theorem confined_mark (id : ChunkId) (changed : Bool) :
    Confined [id] graph (if changed then graph.invalidateCode id else graph) := by
  cases changed with
  | false => exact .refl [id] graph
  | true => exact confined_invalidateCode id

/-! ## Chunks of one kind -/

theorem isSome_lightBucket?_iff {id : ChunkId} :
    (graph.lightBucket? id).isSome ↔ (graph.chunk? id).map Chunk.kind = some .lightBucket := by
  rw [lightBucket?]
  cases graph.chunk? id with
  | none => simp
  | some chunk => cases chunk <;> simp [Chunk.kind]

theorem isSome_shadowPool?_iff {id : ChunkId} :
    (graph.shadowPool? id).isSome ↔ (graph.chunk? id).map Chunk.kind = some .shadowPool := by
  rw [shadowPool?]
  cases graph.chunk? id with
  | none => simp
  | some chunk => cases chunk <;> simp [Chunk.kind]

theorem isSome_choice?_iff {id : ChunkId} :
    (graph.choice? id).isSome ↔ (graph.chunk? id).map Chunk.kind = some .choice := by
  rw [choice?]
  cases graph.chunk? id with
  | none => simp
  | some chunk => cases chunk <;> simp [Chunk.kind]

namespace Confined

variable (confined : Confined ids before after) (id : ChunkId)

include confined

theorem isSome_lightBucket? : (after.lightBucket? id).isSome = (before.lightBucket? id).isSome := by
  rw [Bool.eq_iff_iff, isSome_lightBucket?_iff, isSome_lightBucket?_iff, confined.kinds]

theorem isSome_shadowPool? : (after.shadowPool? id).isSome = (before.shadowPool? id).isSome := by
  rw [Bool.eq_iff_iff, isSome_shadowPool?_iff, isSome_shadowPool?_iff, confined.kinds]

theorem isSome_choice? : (after.choice? id).isSome = (before.choice? id).isSome := by
  rw [Bool.eq_iff_iff, isSome_choice?_iff, isSome_choice?_iff, confined.kinds]

theorem lightBucket?_eq_none_iff : after.lightBucket? id = none ↔ before.lightBucket? id = none := by
  rw [← Option.not_isSome_iff_eq_none, confined.isSome_lightBucket?, Option.not_isSome_iff_eq_none]

theorem choice?_eq_none_iff : after.choice? id = none ↔ before.choice? id = none := by
  rw [← Option.not_isSome_iff_eq_none, confined.isSome_choice?, Option.not_isSome_iff_eq_none]

end Confined

end ChunkGraph

namespace LightModel

open ChunkGraph

variable {model : LightModel} {graph : ChunkGraph} {lights : Arena .light Light} {shadows : ChunkId}
  {targets : List ChunkId} {cause : AssemblyError}

/-! ## Writes -/

private theorem confined_store {id : ChunkId} {old new : Chunk} {changed : Bool} (found : graph.chunk? id = some old)
    (kind : new.kind = old.kind) : Confined [id] graph (graph.store id new changed) :=
  (confined_setChunk found kind).trans (confined_mark id changed)

private theorem confined_announce (id : ChunkId) (changed : Bool) : Confined [id] graph (announce graph id changed) :=
  (confined_markPending id).trans (confined_mark id changed)

theorem Write.confined {ids : List ChunkId} {after : ChunkGraph} (write : Write ids graph after) :
    Confined ids graph after := by
  cases write with
  | addLight member found => exact .of_mem member (confined_store (lightBucket?_eq_some_iff.1 found) rfl)
  | removeLight member found => exact .of_mem member (confined_store (lightBucket?_eq_some_iff.1 found) rfl)
  | setFlag member found => exact .of_mem member (confined_store (flag?_eq_some_iff.1 found) rfl)
  | setChoice member found => exact .of_mem member (confined_store (choice?_eq_some_iff.1 found) rfl)
  | resetPool member found => exact .of_mem member (confined_setChunk (shadowPool?_eq_some_iff.1 found) rfl)
  | @updateBucket lights target shadows bucket pool member pooled found stored =>
    have bucketFound := lightBucket?_eq_some_iff.1 found
    have poolFound := shadowPool?_eq_some_iff.1 stored
    have apart : shadows ≠ target := by
      rintro rfl
      cases bucketFound.symm.trans poolFound
    have packed : Confined ids graph (graph.setChunk target (.lightBucket (bucket.update lights pool).2.1)) :=
      .of_mem member (confined_setChunk bucketFound rfl)
    have stillPool := (graph.chunk?_setChunk_of_ne apart (.lightBucket (bucket.update lights pool).2.1)).trans poolFound
    have kind : (Chunk.shadowPool (bucket.update lights pool).2.2).kind = (Chunk.shadowPool pool).kind := rfl
    have claimed := packed.trans (.of_mem pooled (confined_setChunk stillPool kind))
    exact claimed.trans (.of_mem member (confined_announce target _))
  | @checkPool shadows pool member found =>
    have stored : Confined [shadows] graph (graph.setChunk shadows (.shadowPool pool.check.2)) :=
      confined_setChunk (shadowPool?_eq_some_iff.1 found) rfl
    exact .of_mem member (stored.trans (confined_announce shadows _))

theorem Writes.confined {ids : List ChunkId} {after : ChunkGraph} (writes : Writes ids graph after) :
    Confined ids graph after :=
  writes.keeps (.refl ids) .trans Write.confined

/-! ## Updates of buckets -/

/-- A bucket is updated, and the others go on from there. -/
private theorem exists_next (lights : Arena .light Light) {target : ChunkId} {bucket : LightBucket} {pool : ShadowPool}
    (found : graph.lightBucket? target = some bucket) (stored : graph.shadowPool? shadows = some pool) :
    ∃ next, (∀ rest, updateBuckets lights shadows graph (target :: rest) = updateBuckets lights shadows next rest) ∧
      Confined [shadows, target] graph next := by
  refine ⟨_, fun rest => ?_, Write.confined (.updateBucket lights (by simp) (by simp) found stored)⟩
  rw [updateBuckets, found, stored]
  rfl

/-- Buckets are updated up to the first one that is missing, and those behind it are left alone. -/
theorem updateBuckets_stops (pooled : (graph.shadowPool? shadows).isSome)
    (failed : (updateBuckets lights shadows graph targets).1 = .error cause) :
    ∃ passed target rest, targets = passed ++ target :: rest ∧ (∀ id ∈ passed, (graph.lightBucket? id).isSome) ∧
      graph.lightBucket? target = none ∧ cause = .chunkNotFound target ∧
      (updateBuckets lights shadows graph targets).2 = (updateBuckets lights shadows graph passed).2 := by
  induction targets generalizing graph with
  | nil => cases failed
  | cons target rest ih =>
    cases found : graph.lightBucket? target with
    | none =>
      rw [updateBuckets, found] at failed ⊢
      cases failed
      exact ⟨[], target, rest, rfl, by simp, found, rfl, rfl⟩
    | some bucket =>
      obtain ⟨pool, stored⟩ := Option.isSome_iff_exists.1 pooled
      obtain ⟨next, step, first⟩ := exists_next lights found stored
      -- No kind of chunk changes, so the others are missing in `next` exactly if they were.
      have stillPooled : (next.shadowPool? shadows).isSome := by rwa [first.isSome_shadowPool?]
      rw [step] at failed ⊢
      obtain ⟨passed, missing, others, rfl, present, gone, named, left⟩ := ih stillPooled failed
      refine ⟨target :: passed, missing, others, rfl, List.forall_mem_cons.2 ⟨by rw [found]; rfl, ?_⟩,
        (first.lightBucket?_eq_none_iff missing).1 gone, named, ?_⟩
      · exact fun id member => (first.isSome_lightBucket? id).symm.trans (present id member)
      · rw [left, step]

theorem isSome_of_updateBuckets (updated : (updateBuckets lights shadows graph targets).1 = .ok ()) :
    ∀ id ∈ targets, (graph.lightBucket? id).isSome := by
  induction targets generalizing graph with
  | nil => simp
  | cons target rest ih =>
    cases found : graph.lightBucket? target with
    | none =>
      rw [updateBuckets, found] at updated
      cases updated
    | some bucket =>
      cases pooled : graph.shadowPool? shadows with
      | none =>
        rw [updateBuckets, found, pooled] at updated
        cases updated
      | some pool =>
        obtain ⟨next, step, first⟩ := exists_next lights found pooled
        rw [step] at updated
        refine List.forall_mem_cons.2 ⟨by rw [found]; rfl, fun id member => ?_⟩
        exact (first.isSome_lightBucket? id).symm.trans (ih updated id member)

/-! ## Updates -/

/-- Where an update of a model stops: the cause, the chunks that it has changed, and the graph that it leaves. -/
inductive Stops (model : LightModel) (graph : ChunkGraph) : AssemblyError → List ChunkId → ChunkGraph → Prop where
  | pool (gone : graph.shadowPool? model.chunks.shadows = none) :
      Stops model graph (.chunkNotFound model.chunks.shadows) [] graph
  | bucket {pool : ShadowPool} {passed rest : List ChunkId} {target : ChunkId}
      (stored : graph.shadowPool? model.chunks.shadows = some pool)
      (order : model.chunks.buckets = passed ++ target :: rest)
      (present : ∀ id ∈ passed, (graph.lightBucket? id).isSome) (gone : graph.lightBucket? target = none) :
      Stops model graph (.chunkNotFound target) (model.chunks.shadows :: passed)
        (updateBuckets model.lights model.chunks.shadows
          (graph.setChunk model.chunks.shadows (.shadowPool pool.reset)) passed).2
  | format {pool : ShadowPool} {cause : AssemblyError} (stored : graph.shadowPool? model.chunks.shadows = some pool)
      (present : ∀ id ∈ model.chunks.buckets, (graph.lightBucket? id).isSome)
      (refused : graph.choice? model.chunks.depthFormat = none ∧ cause = .chunkNotFound model.chunks.depthFormat ∨
        ∃ choice depthTexture, graph.choice? model.chunks.depthFormat = some choice ∧
          choice.set (DepthFormat.ofDepthTexture depthTexture).variant = .error cause) :
      Stops model graph cause (model.chunks.shadows :: model.chunks.buckets)
        (checkPool model.chunks.shadows (updateBuckets model.lights model.chunks.shadows
          (graph.setChunk model.chunks.shadows (.shadowPool pool.reset)) model.chunks.buckets).2).2

private theorem confined_reset {pool : ShadowPool} (stored : graph.shadowPool? shadows = some pool)
    (ids : List ChunkId) : Confined (shadows :: ids) graph (graph.setChunk shadows (.shadowPool pool.reset)) :=
  Write.confined (.resetPool (List.mem_cons_self ..) stored)

theorem Stops.confined {touched : List ChunkId} {after : ChunkGraph} (stops : Stops model graph cause touched after) :
    Confined touched graph after := by
  cases stops with
  | pool gone => exact .refl [] graph
  | bucket stored => exact (confined_reset stored _).trans (writes_updateBuckets ..).confined
  | format stored =>
    have packed := (confined_reset stored model.chunks.buckets).trans
      (writes_updateBuckets model.lights model.chunks.shadows model.chunks.buckets).confined
    exact packed.trans (.of_mem (List.mem_cons_self ..) (writes_checkPool _).confined)

theorem exists_checkPool (pooled : (graph.shadowPool? shadows).isSome) :
    ∃ form after, checkPool shadows graph = (.ok form, after) := by
  obtain ⟨pool, stored⟩ := Option.isSome_iff_exists.1 pooled
  rw [checkPool, stored]
  exact ⟨_, _, rfl⟩

theorem setDepthFormat_stops {target : ChunkId} {depthTexture : Bool}
    (failed : (setDepthFormat target depthTexture graph).1 = .error cause) :
    (setDepthFormat target depthTexture graph).2 = graph ∧
      (graph.choice? target = none ∧ cause = .chunkNotFound target ∨
        ∃ choice depthTexture, graph.choice? target = some choice ∧
          choice.set (DepthFormat.ofDepthTexture depthTexture).variant = .error cause) := by
  cases found : graph.choice? target with
  | none =>
    rw [setDepthFormat, found] at failed ⊢
    cases failed
    exact ⟨rfl, .inl ⟨rfl, rfl⟩⟩
  | some choice =>
    cases set : choice.set (DepthFormat.ofDepthTexture depthTexture).variant with
    | ok chosen => simp [setDepthFormat, found, set] at failed
    | error refusal =>
      simp only [setDepthFormat, found, set, Except.error.injEq] at failed ⊢
      obtain rfl := failed
      exact ⟨trivial, .inr ⟨choice, depthTexture, rfl, set⟩⟩

/-- Chunks of another kind than those that were updated are as before. -/
private theorem choice?_of_confined {pool : ShadowPool} {after : ChunkGraph} {id : ChunkId} {choice : Choice}
    (stored : graph.shadowPool? shadows = some pool) (present : ∀ id ∈ targets, (graph.lightBucket? id).isSome)
    (confined : Confined (shadows :: targets) graph after) (found : after.choice? id = some choice) :
    graph.choice? id = some choice := by
  have kind : (graph.chunk? id).map Chunk.kind = some .choice := by
    rw [← isSome_choice?_iff, ← confined.isSome_choice?, found]
    rfl
  have outside : id ∉ shadows :: targets := by
    intro member
    rcases List.mem_cons.1 member with rfl | member
    · have pooled := isSome_shadowPool?_iff.1 (Option.isSome_of_eq_some stored)
      cases kind.symm.trans pooled
    · cases kind.symm.trans (isSome_lightBucket?_iff.1 (present id member))
  rw [choice?_eq_some_iff, chunk?] at found ⊢
  rwa [← confined.nodes id outside]

private theorem update_of_refused {pool : ShadowPool} {filled : ChunkGraph}
    (stored : graph.shadowPool? model.chunks.shadows = some pool)
    (updated : updateBuckets model.lights model.chunks.shadows
      (graph.setChunk model.chunks.shadows (.shadowPool pool.reset)) model.chunks.buckets = (.error cause, filled)) :
    model.update graph = (.error cause, filled) := by
  simp only [LightModel.update, stored, updated]

private theorem update_of_filled {pool : ShadowPool} {form : Option Bool} {filled checked : ChunkGraph}
    (stored : graph.shadowPool? model.chunks.shadows = some pool)
    (updated : updateBuckets model.lights model.chunks.shadows
      (graph.setChunk model.chunks.shadows (.shadowPool pool.reset)) model.chunks.buckets = (.ok (), filled))
    (ended : checkPool model.chunks.shadows filled = (.ok form, checked)) :
    model.update graph =
      (form.map fun depthTexture => setDepthFormat model.chunks.depthFormat depthTexture checked).getD
        (.ok (), checked) := by
  simp only [LightModel.update, stored, updated, ended]
  cases form <;> rfl

/-- A failed update has found all chunks in front of the missing one, and has changed only these. -/
theorem update_stops (failed : (model.update graph).1 = .error cause) :
    ∃ touched, Stops model graph cause touched (model.update graph).2 := by
  cases stored : graph.shadowPool? model.chunks.shadows with
  | none =>
    rw [LightModel.update, stored] at failed ⊢
    cases failed
    exact ⟨[], .pool stored⟩
  | some pool =>
    have reset := confined_reset stored model.chunks.buckets
    have pooled : ((graph.setChunk model.chunks.shadows (.shadowPool pool.reset)).shadowPool?
        model.chunks.shadows).isSome := by
      rw [reset.isSome_shadowPool?, stored]
      rfl
    cases updated : updateBuckets model.lights model.chunks.shadows
      (graph.setChunk model.chunks.shadows (.shadowPool pool.reset)) model.chunks.buckets with
    | mk result filled =>
    have filled_eq := congrArg Prod.snd updated
    cases result with
    | error refusal =>
      rw [update_of_refused stored updated] at failed ⊢
      cases failed
      obtain ⟨passed, target, rest, order, present, gone, rfl, left⟩ := updateBuckets_stops pooled (by rw [updated])
      rw [← filled_eq, left]
      refine ⟨_, .bucket stored order (fun id member => ?_) ((reset.lightBucket?_eq_none_iff target).1 gone)⟩
      exact (reset.isSome_lightBucket? id).symm.trans (present id member)
    | ok done =>
      have present : ∀ id ∈ model.chunks.buckets, (graph.lightBucket? id).isSome := fun id member =>
        (reset.isSome_lightBucket? id).symm.trans (isSome_of_updateBuckets (by rw [updated]) id member)
      -- Only the constant for the form of the maps is left to fail, and it is still as it was.
      have packed := reset.trans (writes_updateBuckets model.lights model.chunks.shadows model.chunks.buckets).confined
      rw [filled_eq] at packed
      obtain ⟨form, checked, ended⟩ := exists_checkPool ((packed.isSome_shadowPool? _).trans
        (Option.isSome_of_eq_some stored))
      have whole := packed.trans (.of_mem (List.mem_cons_self ..) (writes_checkPool model.chunks.shadows).confined)
      rw [ended] at whole
      rw [update_of_filled stored updated ended] at failed ⊢
      cases form with
      | none => cases failed
      | some depthTexture =>
        obtain ⟨same, refused⟩ := setDepthFormat_stops failed
        have checked_eq : (checkPool model.chunks.shadows (updateBuckets model.lights model.chunks.shadows
            (graph.setChunk model.chunks.shadows (.shadowPool pool.reset)) model.chunks.buckets).2).2 = checked := by
          rw [updated, ended]
        rw [Option.map_some, Option.getD_some, same, ← checked_eq]
        refine ⟨_, .format stored present ?_⟩
        rcases refused with ⟨gone, named⟩ | ⟨choice, depthTexture, found, set⟩
        · exact .inl ⟨(whole.choice?_eq_none_iff _).1 gone, named⟩
        · exact .inr ⟨choice, depthTexture, choice?_of_confined stored present whole found, set⟩

/-! ## Any operation -/

/-- Whether an operation succeeds, or why it does not. -/
def attempt (model : LightModel) (graph : ChunkGraph) : Op → Except AssemblyError Unit
  | .addLight light => (model.addLight graph light).1.map fun _ => ()
  | .removeLight id => (model.removeLight graph id).1.map fun _ => ()
  | .modifyLight _ _ => .ok ()
  | .setShadowFiltering filtering => (model.setShadowFiltering graph filtering).1
  | .setIblShadowing enabled => (model.setIblShadowing graph enabled).1
  | .update => (model.update graph).1

/-- The lights that a failed operation leaves. -/
def lightsLeft (model : LightModel) : Op → Arena .light Light
  | .addLight light => (model.lights.insert light).2
  | .removeLight id => ((model.lights.remove id).map (·.2)).getD model.lights
  | _ => model.lights

/-- How many lights these are. -/
def countLeft (model : LightModel) : Op → Nat
  | .addLight _ => model.lights.size + 1
  | .removeLight _ => model.lights.size - 1
  | _ => model.lights.size

/-- What a failed operation leaves. Only the lights of the model may be others: one more if one was to be added, and one
less if one was to be taken out. The graph is as before, but for the chunks that an update had gone through. -/
structure Leaves (model : LightModel) (graph : ChunkGraph) (op : Op) (cause : AssemblyError) : Prop where
  model_eq : (model.step graph op).1 = { model with lights := model.lightsLeft op }
  count : (model.lightsLeft op).size = model.countLeft op
  graph_eq : op ≠ .update → (model.step graph op).2 = graph
  stops : op = .update → ∃ touched, Stops model graph cause touched (model.step graph op).2 ∧
    Confined touched graph (model.step graph op).2

theorem leaves_addLight {light : Light} (failed : model.attempt graph (.addLight light) = .error cause) :
    Leaves model graph (.addLight light) cause := by
  cases found : graph.lightBucket? (model.bucket light.type) with
  | some bucket => simp [attempt, LightModel.addLight, found, Except.map] at failed
  | none =>
    refine ⟨?_, model.lights.size_insert light, fun _ => ?_, by rintro ⟨⟩⟩
    · simp only [step, LightModel.addLight, found, lightsLeft]
    · simp only [step, LightModel.addLight, found]

theorem leaves_removeLight {id : LightId} (failed : model.attempt graph (.removeLight id) = .error cause) :
    Leaves model graph (.removeLight id) cause := by
  cases removed : model.lights.remove id with
  | none => simp [attempt, LightModel.removeLight, removed, Except.map] at failed
  | some taken =>
    obtain ⟨light, rest⟩ := taken
    cases found : graph.lightBucket? (model.bucket light.type) with
    | some bucket => simp [attempt, LightModel.removeLight, removed, found, Except.map] at failed
    | none =>
      have left : model.lightsLeft (.removeLight id) = rest := by
        simp only [lightsLeft, removed, Option.map_some, Option.getD_some]
      refine ⟨?_, ?_, fun _ => ?_, by rintro ⟨⟩⟩
      · rw [left]
        simp only [step, LightModel.removeLight, removed, found]
      · rw [left, countLeft, ← Arena.size_of_remove removed]
        rfl
      · simp only [step, LightModel.removeLight, removed, found]

theorem leaves_setShadowFiltering {filtering : ShadowFiltering}
    (failed : model.attempt graph (.setShadowFiltering filtering) = .error cause) :
    Leaves model graph (.setShadowFiltering filtering) cause := by
  have same : model.step graph (.setShadowFiltering filtering) = (model, graph) := by
    simp only [attempt, step, LightModel.setShadowFiltering] at failed ⊢
    split
    · rfl
    · next choice found =>
      cases set : choice.set filtering.variant with
      | error refusal => rfl
      | ok chosen => simp [found, set] at failed
  exact ⟨congrArg Prod.fst same, rfl, fun _ => congrArg Prod.snd same, by rintro ⟨⟩⟩

theorem leaves_setIblShadowing {enabled : Bool}
    (failed : model.attempt graph (.setIblShadowing enabled) = .error cause) :
    Leaves model graph (.setIblShadowing enabled) cause := by
  have same : model.step graph (.setIblShadowing enabled) = (model, graph) := by
    simp only [attempt, step, LightModel.setIblShadowing] at failed ⊢
    split
    · rfl
    · next flag found => simp [found] at failed
  exact ⟨congrArg Prod.fst same, rfl, fun _ => congrArg Prod.snd same, by rintro ⟨⟩⟩

/-- Every operation that fails leaves the settings, and all chunks and collections that an update had not come to. -/
theorem leaves_of_failed {op : Op} (failed : model.attempt graph op = .error cause) : Leaves model graph op cause := by
  cases op with
  | addLight light => exact leaves_addLight failed
  | removeLight id => exact leaves_removeLight failed
  | modifyLight id change => cases failed
  | setShadowFiltering filtering => exact leaves_setShadowFiltering failed
  | setIblShadowing enabled => exact leaves_setIblShadowing failed
  | update =>
    obtain ⟨touched, stops⟩ := update_stops failed
    exact ⟨rfl, rfl, fun other => absurd rfl other, fun _ => ⟨touched, stops, stops.confined⟩⟩

/-- With a bucket for directional lights and none for spot lights, an update stops at the second one. -/
def halfGraph : ChunkGraph :=
  ((ChunkGraph.empty.insert (.shadowPool (.new 2))).2.insert (.lightBucket (.new .directional))).2

/-- A model of which `halfGraph` has two chunks. -/
def halfModel : LightModel where
  settings := {}
  chunks := ⟨⟨3, 1⟩, ⟨4, 1⟩, ⟨5, 1⟩, ⟨6, 1⟩, ⟨1, 1⟩, ⟨7, 1⟩, ⟨2, 1⟩, ⟨8, 1⟩, ⟨9, 1⟩, ⟨10, 1⟩, ⟨11, 1⟩⟩

theorem leaves_halfModel :
    halfModel.attempt halfGraph .update = .error (.chunkNotFound ⟨8, 1⟩) ∧
      Leaves halfModel halfGraph .update (.chunkNotFound ⟨8, 1⟩) :=
  ⟨by decide, leaves_of_failed (by decide)⟩

/-- A light that is added to a model without the bucket for it stays in the model, though the addition fails. -/
theorem light_stays_without_bucket :
    ∃ (model : LightModel) (bucket : Chunk) (graph : ChunkGraph),
      (new .empty {}).1 = .ok model ∧ (new .empty {}).2.remove (model.bucket .directional) = some (bucket, graph) ∧
      model.attempt graph (.addLight (.directional .zero)) = .error (.chunkNotFound (model.bucket .directional)) ∧
      model.lights.size = 0 ∧ (model.step graph (.addLight (.directional .zero))).1.lights.size = 1 := by
  obtain ⟨model, filter, depth, made, -, empty, -, -, -, chunks⟩ := new_spec .empty {}
  have member : model.bucket .directional ∈ model.chunks.root :: model.chunks.inOrder := by
    simp [bucket, ModelChunks.bucket, ModelChunks.inOrder, ModelChunks.buckets, LightType.all]
  obtain ⟨chunk, -, found⟩ := exists_of_forall₂ chunks member
  cases removed : (new .empty {}).2.remove (model.bucket .directional) with
  | none =>
    rw [ChunkGraph.chunk?, ChunkGraph.remove_eq_none_iff.1 removed] at found
    cases found
  | some taken =>
    obtain ⟨bucket, graph⟩ := taken
    obtain ⟨node, marked, -, -, nodes, -⟩ := ChunkGraph.remove_cases removed
    have gone : graph.lightBucket? (model.bucket (Light.directional .zero).type) = none := by
      change graph.lightBucket? (model.bucket .directional) = none
      rw [lightBucket?, ChunkGraph.chunk?, nodes, if_pos rfl]
      rfl
    have failed : model.attempt graph (.addLight (.directional .zero)) =
        .error (.chunkNotFound (model.bucket .directional)) := by
      simp only [attempt, LightModel.addLight, gone]
      rfl
    have none : model.lights.size = 0 := by
      rw [empty]
      rfl
    have leaves := leaves_addLight failed
    refine ⟨model, bucket, graph, made, removed, failed, none, ?_⟩
    rw [leaves.model_eq, leaves.count, countLeft, none]

end LightModel

end ShaderWeave
