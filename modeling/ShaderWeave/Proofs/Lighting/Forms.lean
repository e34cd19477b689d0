import ShaderWeave.Proofs.Lighting.Runs
import ShaderWeave.Proofs.Lighting.Upkeep

/-! # Forms of chunks

Operations of light models leave most of a chunk as it is: the names of flags and choices, the types of buckets and
the widths of their buffers. So along a run each chunk of a model keeps the form in which it was made.
-/

namespace ShaderWeave

/-- What no operation of a light model changes in a chunk. -/
inductive ChunkForm where
  | group
  | flag (name : String)
  | choice (name : String) (variants : List String)
  | stencil (chunk : StencilChunk)
  | shadowPool
  | lightBucket (type : LightType)
  | custom

def Chunk.form : Chunk → ChunkForm
  | .group => .group
  | .flag state => .flag state.name
  | .choice state => .choice state.name state.variants
  | .stencil chunk => .stencil chunk
  | .shadowPool _ => .shadowPool
  | .lightBucket bucket => .lightBucket bucket.type
  | .custom _ => .custom

/-! ## Buckets with a buffer for each attribute -/

/-- Each attribute has a buffer with rows of its width. -/
def LightBucket.Fits (layout : List (String × LightAttribute)) (buffers : List LightBuffer) : Prop :=
  List.Forall₂ (fun part buffer => buffer.stride = part.2.components) layout buffers

def LightBucket.Shaped (bucket : LightBucket) : Prop := Fits bucket.type.layout bucket.buffers

namespace LightBuffer

@[simp] theorem stride_resize (buffer : LightBuffer) (count : Nat) : (buffer.resize count).2.stride = buffer.stride := by
  unfold resize
  split <;> rfl

@[simp] theorem stride_write (buffer : LightBuffer) (index : Nat) (row : List Single) :
    (buffer.write index row).stride = buffer.stride := by
  unfold write write?
  dsimp only
  split <;> rfl

end LightBuffer

namespace LightBucket

variable {layout : List (String × LightAttribute)} {buffers : List LightBuffer}

theorem shaped_new (type : LightType) : (new type).Shaped := by
  rw [Shaped, Fits, new, List.forall₂_map_right_iff, List.forall₂_same]
  intro part _
  rfl

theorem fits_packInto (fits : Fits layout buffers) (light : Light) (index : Nat) :
    Fits layout (packInto layout light index buffers) := by
  induction fits with
  | nil => exact .nil
  | cons width _ ih => exact .cons ((LightBuffer.stride_write ..).trans width) ih

theorem fits_updateEntries (fits : Fits layout buffers) (lights : Arena .light Light) (index : Nat)
    (pool : ShadowPool) (entries : List BucketEntry) :
    Fits layout (updateEntries layout lights index buffers pool entries).2.2.1 := by
  induction entries generalizing index buffers pool with
  | nil => exact fits
  | cons entry rest ih =>
    rw [updateEntries]
    split
    · exact ih fits ..
    · next light _ => exact ih (fits_packInto fits light index) ..

theorem shaped_update {bucket : LightBucket} (shaped : bucket.Shaped) (lights : Arena .light Light)
    (pool : ShadowPool) : (bucket.update lights pool).2.1.Shaped := by
  refine fits_updateEntries ?_ lights 0 pool bucket.entries
  rw [Fits, List.forall₂_map_right_iff]
  refine shaped.imp ?_
  intro part buffer width
  exact (buffer.stride_resize bucket.size).trans width

end LightBucket

/-! ## States of the same form -/

/-- A later state of a chunk. -/
structure Chunk.Kin (before after : Chunk) : Prop where
  form : after.form = before.form
  shaped : ∀ old new, before = .lightBucket old → after = .lightBucket new → old.Shaped → new.Shaped

namespace Chunk

theorem Kin.refl (chunk : Chunk) : Kin chunk chunk :=
  ⟨rfl, fun _ _ first second shaped => by cases first.symm.trans second; exact shaped⟩

theorem Kin.trans {first second third : Chunk} (early : Kin first second) (late : Kin second third) :
    Kin first third := by
  refine ⟨late.form.trans early.form, ?_⟩
  rintro old new rfl rfl shaped
  cases second with
  | lightBucket between => exact late.shaped between new rfl rfl (early.shaped old between rfl rfl shaped)
  | _ => cases early.form

theorem kin_pool (before after : ShadowPool) : Kin (.shadowPool before) (.shadowPool after) :=
  ⟨rfl, by rintro _ _ ⟨⟩⟩

theorem kin_bucket {before after : LightBucket} (type : after.type = before.type)
    (shaped : before.Shaped → after.Shaped) : Kin (.lightBucket before) (.lightBucket after) := by
  refine ⟨congrArg ChunkForm.lightBucket type, ?_⟩
  rintro _ _ ⟨⟩ ⟨⟩
  exact shaped

theorem kin_choice {choice chosen : Choice} {value : String} {changed : Bool}
    (set : choice.set value = .ok (changed, chosen)) : Kin (.choice choice) (.choice chosen) := by
  obtain ⟨name, variants, -⟩ := Choice.set_cases set
  refine ⟨?_, by rintro _ _ ⟨⟩⟩
  simp only [form, name, variants]

end Chunk

namespace ChunkGraph

variable {graph before middle after : ChunkGraph}

/-- Every chunk is still there, in a state of the same form. -/
def Resembles (before after : ChunkGraph) : Prop :=
  ∀ id chunk, before.chunk? id = some chunk → ∃ next, after.chunk? id = some next ∧ chunk.Kin next

theorem Resembles.refl (graph : ChunkGraph) : Resembles graph graph := fun _ chunk found => ⟨chunk, found, .refl chunk⟩

theorem Resembles.trans (first : Resembles before middle) (second : Resembles middle after) :
    Resembles before after := by
  intro id chunk found
  obtain ⟨between, held, early⟩ := first id chunk found
  obtain ⟨next, held, late⟩ := second id between held
  exact ⟨next, held, early.trans late⟩

theorem resembles_of_same (same : ∀ id, after.chunk? id = before.chunk? id) : Resembles before after :=
  fun id chunk found => ⟨chunk, (same id).trans found, .refl chunk⟩

theorem resembles_setChunk {id : ChunkId} {old new : Chunk} (found : graph.chunk? id = some old) (kin : old.Kin new) :
    Resembles graph (graph.setChunk id new) := by
  intro other chunk held
  rw [chunk?_setChunk]
  split
  · next here =>
    subst here
    cases found.symm.trans held
    exact ⟨new, by rw [found]; rfl, kin⟩
  · exact ⟨chunk, held, .refl chunk⟩

theorem resembles_store {id : ChunkId} {old new : Chunk} (found : graph.chunk? id = some old) (kin : old.Kin new)
    (changed : Bool) : Resembles graph (graph.store id new changed) :=
  (resembles_setChunk found kin).trans (resembles_of_same fun _ => chunk?_ite_invalidateCode ..)

end ChunkGraph

/-! ## Operations -/

namespace LightModel

open ChunkGraph

variable {graph : ChunkGraph}

theorem resembles_announce (id : ChunkId) (changed : Bool) : Resembles graph (announce graph id changed) :=
  resembles_of_same fun other => chunk?_announce graph id other changed

theorem Write.resembles {ids : List ChunkId} {after : ChunkGraph} (write : Write ids graph after) :
    Resembles graph after := by
  cases write with
  | addLight _ found =>
    refine resembles_store (lightBucket?_eq_some_iff.1 found) ?_ _
    unfold LightBucket.addLight
    split <;> exact Chunk.kin_bucket rfl fun shaped => shaped
  | removeLight _ found =>
    refine resembles_store (lightBucket?_eq_some_iff.1 found) ?_ _
    unfold LightBucket.removeLight
    split <;> exact Chunk.kin_bucket rfl fun shaped => shaped
  | @setFlag _ flag _ found value =>
    have kin : Chunk.Kin (.flag flag) (.flag (flag.set value).2) := ⟨rfl, by rintro _ _ ⟨⟩⟩
    exact resembles_store (flag?_eq_some_iff.1 found) kin _
  | setChoice _ found set => exact resembles_store (choice?_eq_some_iff.1 found) (Chunk.kin_choice set) _
  | resetPool _ found => exact resembles_setChunk (shadowPool?_eq_some_iff.1 found) (Chunk.kin_pool _ _)
  | @updateBucket lights target shadows bucket pool _ _ found stored =>
    have bucketFound := lightBucket?_eq_some_iff.1 found
    have poolFound := shadowPool?_eq_some_iff.1 stored
    have apart : shadows ≠ target := by
      rintro rfl
      cases bucketFound.symm.trans poolFound
    have first : Resembles graph (graph.setChunk target (.lightBucket (bucket.update lights pool).2.1)) :=
      resembles_setChunk bucketFound (Chunk.kin_bucket rfl fun shaped => LightBucket.shaped_update shaped lights pool)
    have stillPool := (graph.chunk?_setChunk_of_ne apart (.lightBucket (bucket.update lights pool).2.1)).trans poolFound
    exact (first.trans (resembles_setChunk stillPool (Chunk.kin_pool _ _))).trans (resembles_announce _ _)
  | checkPool _ found =>
    exact (resembles_setChunk (shadowPool?_eq_some_iff.1 found) (Chunk.kin_pool _ _)).trans (resembles_announce _ _)

/-- No operation of a model changes the form of a chunk, not even when it fails halfway. -/
theorem resembles_step (model : LightModel) (graph : ChunkGraph) (op : Op) :
    Resembles graph (model.step graph op).2 :=
  (model.writes_step graph op).keeps .refl .trans Write.resembles

/-! ## What a run keeps -/

/-- The forms of the chunks of a model, in their order. -/
def forms : List ChunkForm :=
  [.flag "iblShadowing", .choice "shadowFilter" ShadowFiltering.variants, .choice "depthFormat" DepthFormat.variants,
    .shadowPool, .stencil ⟨LightBucket.lightsSlot, "lights/pre-light-setup"⟩] ++
    LightType.all.map .lightBucket ++ [.stencil ⟨LightBucket.lightsSlot, "lights/post-light-setup"⟩]

/-- The chunks of a model are there, in the forms in which they were made. -/
def Formed (chunks : ModelChunks) (graph : ChunkGraph) : Prop :=
  List.Forall₂ (fun id form => ∃ chunk, graph.chunk? id = some chunk ∧ chunk.form = form ∧
    ∀ bucket, chunk = .lightBucket bucket → bucket.Shaped) chunks.inOrder forms

variable {chunks : ModelChunks} {before after : ChunkGraph}

theorem Formed.of_kin (formed : Formed chunks before) (kin : ∀ id ∈ chunks.inOrder, ∀ chunk,
    before.chunk? id = some chunk → ∃ next, after.chunk? id = some next ∧ chunk.Kin next) : Formed chunks after := by
  apply ((List.forall₂_and_left _ _).2 ⟨kin, formed⟩).imp
  rintro id form ⟨kin, chunk, found, formed, shaped⟩
  obtain ⟨next, held, kin⟩ := kin chunk found
  refine ⟨next, held, kin.form.trans formed, ?_⟩
  rintro bucket rfl
  cases chunk with
  | lightBucket old => exact kin.shaped old bucket rfl rfl (shaped old rfl)
  | _ => cases kin.form

theorem Formed.resembles (formed : Formed chunks before) (resembles : Resembles before after) : Formed chunks after :=
  formed.of_kin fun id _ => resembles id

theorem formed_new {settings : LightModelSettings} {model : LightModel} (made : (new graph settings).1 = .ok model) :
    Formed model.chunks (new graph settings).2 := by
  obtain ⟨model', filter, depth, made', -, -, filtered, formatted, -, states⟩ := new_spec graph settings
  obtain rfl : model' = model := Except.ok.inj (made'.symm.trans made)
  obtain ⟨choice, filtered', filterName, filterVariants⟩ := filterChoice_eq_ok settings
  obtain ⟨choice', formatted', depthName, depthVariants⟩ := depthChoice_eq_ok
  obtain rfl : choice = filter := Except.ok.inj (filtered'.symm.trans filtered)
  obtain rfl : choice' = depth := Except.ok.inj (formatted'.symm.trans formatted)
  have later : List.Forall₂ (fun id chunk => (new graph settings).2.chunk? id = some chunk) model'.chunks.inOrder
      (firstChunks settings choice choice').tail := (List.forall₂_cons.1 states).2
  have shaped : ∀ chunk ∈ (firstChunks settings choice choice').tail, ∀ bucket, chunk = .lightBucket bucket →
      bucket.Shaped := by
    simp [firstChunks, LightType.all, LightBucket.shaped_new]
  have formed : (firstChunks settings choice choice').tail.map Chunk.form = forms := by
    simp [firstChunks, forms, Chunk.form, LightType.all, LightBucket.new, filterName, filterVariants, depthName,
      depthVariants]
  have all : List.Forall₂ (fun id chunk => (∀ bucket, chunk = .lightBucket bucket → bucket.Shaped) ∧
      (new graph settings).2.chunk? id = some chunk) model'.chunks.inOrder (firstChunks settings choice choice').tail := by
    exact ((List.forall₂_and_left _ _).2 ⟨shaped, later.flip⟩).flip
  rw [Formed, ← formed, List.forall₂_map_right_iff]
  refine all.imp ?_
  rintro id chunk ⟨shaped, found⟩
  exact ⟨chunk, found, rfl, shaped⟩

/-- Whatever happens to a model and around it, its chunks keep their forms. -/
theorem Reached.formed {order : List LightId} {model : LightModel} (reached : Reached order model graph) :
    Formed model.chunks graph := by
  have after : ∀ (model : LightModel) (graph : ChunkGraph) (op : Op), Formed model.chunks graph →
      Formed (model.step graph op).1.chunks (model.step graph op).2 := by
    intro model graph op formed
    rw [model.chunks_step]
    exact formed.resembles (model.resembles_step graph op)
  induction reached with
  | new made => exact formed_new made
  | elsewhere _ same ih => exact ih.of_kin fun id member chunk found => ⟨chunk, (same id member).trans found, .refl chunk⟩
  | addLight light _ ih => exact after _ _ (.addLight light) ih
  | removeLight id _ ih => exact after _ _ (.removeLight id) ih
  | modifyLight id change _ _ ih => exact ih
  | setShadowFiltering filtering _ ih => exact after _ _ (.setShadowFiltering filtering) ih
  | setIblShadowing enabled _ ih => exact after _ _ (.setIblShadowing enabled) ih
  | update _ ih => exact after _ _ .update ih

end LightModel

/-! ## The states of a model's chunks -/

structure ModelStates where
  iblShadowing : Flag
  shadowFilter : Choice
  depthFormat : Choice
  shadows : ShadowPool
  bucket : LightType → LightBucket

namespace ModelStates

/-- The chunks in the order of their code. -/
def chunks (states : ModelStates) : List Chunk :=
  [.flag states.iblShadowing, .choice states.shadowFilter, .choice states.depthFormat, .shadowPool states.shadows,
    .stencil ⟨LightBucket.lightsSlot, "lights/pre-light-setup"⟩] ++
    LightType.all.map (fun type => .lightBucket (states.bucket type)) ++
    [.stencil ⟨LightBucket.lightsSlot, "lights/post-light-setup"⟩]

/-- Names, variants, types and widths are those of a new model. -/
structure Proper (states : ModelStates) : Prop where
  iblShadowing : states.iblShadowing.name = "iblShadowing"
  shadowFilter : states.shadowFilter.name = "shadowFilter" ∧ states.shadowFilter.variants = ShadowFiltering.variants
  depthFormat : states.depthFormat.name = "depthFormat" ∧ states.depthFormat.variants = DepthFormat.variants
  type : ∀ type, (states.bucket type).type = type
  shaped : ∀ type, (states.bucket type).Shaped

/-- The chunks of a model are in these states. -/
structure Of (states : ModelStates) (chunks : ModelChunks) (graph : ChunkGraph) : Prop where
  iblShadowing : graph.chunk? chunks.iblShadowing = some (.flag states.iblShadowing)
  shadowFilter : graph.chunk? chunks.shadowFilter = some (.choice states.shadowFilter)
  depthFormat : graph.chunk? chunks.depthFormat = some (.choice states.depthFormat)
  shadows : graph.chunk? chunks.shadows = some (.shadowPool states.shadows)
  preLights : graph.chunk? chunks.preLights = some (.stencil ⟨LightBucket.lightsSlot, "lights/pre-light-setup"⟩)
  bucket : ∀ type, graph.chunk? (chunks.bucket type) = some (.lightBucket (states.bucket type))
  postLights : graph.chunk? chunks.postLights = some (.stencil ⟨LightBucket.lightsSlot, "lights/post-light-setup"⟩)

variable {states : ModelStates} {chunks : ModelChunks} {graph : ChunkGraph}

theorem Of.filterMap_eq (states_of : states.Of chunks graph) :
    chunks.inOrder.filterMap graph.chunk? = states.chunks := by
  simp [ModelChunks.inOrder, ModelChunks.buckets, LightType.all, ModelStates.chunks, states_of.iblShadowing,
    states_of.shadowFilter, states_of.depthFormat, states_of.shadows, states_of.preLights, states_of.bucket,
    states_of.postLights]

theorem Of.elsewhere (states_of : states.Of chunks graph) {after : ChunkGraph}
    (same : ∀ id ∈ chunks.inOrder, after.chunk? id = graph.chunk? id) : states.Of chunks after := by
  have each : ∀ {id chunk}, graph.chunk? id = some chunk → id ∈ chunks.inOrder → after.chunk? id = some chunk :=
    fun held member => (same _ member).trans held
  constructor
  · exact each states_of.iblShadowing (by simp [ModelChunks.inOrder])
  · exact each states_of.shadowFilter (by simp [ModelChunks.inOrder])
  · exact each states_of.depthFormat (by simp [ModelChunks.inOrder])
  · exact each states_of.shadows (by simp [ModelChunks.inOrder])
  · exact each states_of.preLights (by simp [ModelChunks.inOrder])
  · exact fun type => each (states_of.bucket type) (LightModel.bucket_mem_inOrder chunks type)
  · exact each states_of.postLights (by simp [ModelChunks.inOrder])

/-- The code of a model is that of its chunks. -/
theorem Proper.lightCode (proper : states.Proper) : ∀ chunk ∈ states.chunks, chunk.LightCode := by
  simp [ModelStates.chunks, LightType.all, Chunk.LightCode, proper.iblShadowing, proper.shadowFilter,
    proper.depthFormat]

end ModelStates

namespace Chunk

variable {chunk : Chunk}

theorem exists_of_form_flag {name : String} (form : chunk.form = .flag name) :
    ∃ state, chunk = .flag state ∧ state.name = name := by
  cases chunk with
  | flag state => exact ⟨state, rfl, ChunkForm.flag.inj form⟩
  | _ => cases form

theorem exists_of_form_choice {name : String} {variants : List String} (form : chunk.form = .choice name variants) :
    ∃ state, chunk = .choice state ∧ state.name = name ∧ state.variants = variants := by
  cases chunk with
  | choice state => exact ⟨state, rfl, ChunkForm.choice.inj form⟩
  | _ => cases form

theorem eq_of_form_stencil {stencil : StencilChunk} (form : chunk.form = .stencil stencil) :
    chunk = .stencil stencil := by
  cases chunk with
  | stencil other => exact congrArg Chunk.stencil (ChunkForm.stencil.inj form)
  | _ => cases form

theorem exists_of_form_shadowPool (form : chunk.form = .shadowPool) : ∃ pool, chunk = .shadowPool pool := by
  cases chunk with
  | shadowPool pool => exact ⟨pool, rfl⟩
  | _ => cases form

theorem exists_of_form_lightBucket {type : LightType} (form : chunk.form = .lightBucket type) :
    ∃ bucket, chunk = .lightBucket bucket ∧ bucket.type = type := by
  cases chunk with
  | lightBucket bucket => exact ⟨bucket, rfl, ChunkForm.lightBucket.inj form⟩
  | _ => cases form

end Chunk

theorem LightModel.Formed.exists_states {chunks : ModelChunks} {graph : ChunkGraph} (formed : Formed chunks graph) :
    ∃ states : ModelStates, states.Proper ∧ states.Of chunks graph := by
  simp only [Formed, ModelChunks.inOrder, ModelChunks.buckets, forms, LightType.all, List.map_cons, List.map_nil,
    List.cons_append, List.nil_append, List.forall₂_cons] at formed
  obtain ⟨⟨_, flagFound, flagForm, -⟩, ⟨_, filterFound, filterForm, -⟩, ⟨_, depthFound, depthForm, -⟩,
    ⟨_, poolFound, poolForm, -⟩, ⟨_, preFound, preForm, -⟩, directional, spot, point, ibl,
    ⟨_, postFound, postForm, -⟩, -⟩ := formed
  have buckets : ∀ type, ∃ bucket, graph.chunk? (chunks.bucket type) = some (.lightBucket bucket) ∧
      bucket.type = type ∧ bucket.Shaped := by
    intro type
    obtain ⟨chunk, found, form, shaped⟩ : ∃ chunk, graph.chunk? (chunks.bucket type) = some chunk ∧
        chunk.form = .lightBucket type ∧ ∀ bucket, chunk = .lightBucket bucket → bucket.Shaped := by
      cases type with
      | directional => exact directional
      | spot => exact spot
      | point => exact point
      | ibl => exact ibl
    obtain ⟨bucket, rfl, typed⟩ := Chunk.exists_of_form_lightBucket form
    exact ⟨bucket, found, typed, shaped bucket rfl⟩
  choose bucket bucketFound typed shaped using buckets
  obtain ⟨flag, rfl, flagName⟩ := Chunk.exists_of_form_flag flagForm
  obtain ⟨filter, rfl, filterNames⟩ := Chunk.exists_of_form_choice filterForm
  obtain ⟨depth, rfl, depthNames⟩ := Chunk.exists_of_form_choice depthForm
  obtain ⟨pool, rfl⟩ := Chunk.exists_of_form_shadowPool poolForm
  obtain rfl := Chunk.eq_of_form_stencil preForm
  obtain rfl := Chunk.eq_of_form_stencil postForm
  exact ⟨⟨flag, filter, depth, pool, bucket⟩, ⟨flagName, filterNames, depthNames, typed, shaped⟩,
    ⟨flagFound, filterFound, depthFound, poolFound, preFound, bucketFound, postFound⟩⟩

end ShaderWeave
