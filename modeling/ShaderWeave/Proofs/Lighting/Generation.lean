import Mathlib.Algebra.GroupWithZero.Nat
import ShaderWeave.Proofs.Lighting.Hashes
import ShaderWeave.Proofs.Stencil.Texts

/-! # What the chunks of light models generate

The code of such a chunk is a list of lines for each slot. All that varies with the place of the chunk is the first
binding that is free for it. Generation fails only where a stencil would repeat a part too often, for too
many shadow slots or too many image-based lights.
-/

namespace ShaderWeave

open Stencil

/-! ## Stencils by type -/

namespace LightType

/-- What declares the buffers of all lights of the type. -/
def declarationItems : LightType → List Item
  | directional => directionalDeclarations
  | spot => spotDeclarations
  | point => pointDeclarations
  | ibl => environmentDeclarations

/-- What one light contributes. -/
def lightItems : LightType → List Item
  | directional => directionalLight
  | spot => spotLight
  | point => pointLight
  | ibl => environmentLight

/-- The names that count repeats in the declarations. -/
def counts : LightType → List String
  | ibl => ["count"]
  | _ => []

theorem find?_declarationsStencil (type : LightType) :
    Stencil.find? type.declarationsStencil = some type.declarationItems := by
  have listed : listedName type.declarationsStencil = type.declarationsStencil := by
    cases type <;> decide
  rw [find?_of_listed listed]
  cases type <;> rfl

theorem find?_lightStencil (type : LightType) : Stencil.find? type.lightStencil = some type.lightItems := by
  have listed : listedName type.lightStencil = type.lightStencil := by
    cases type <;> decide
  rw [find?_of_listed listed]
  cases type <;> rfl

theorem over_declarationItems (type : LightType) :
    closedOver ["count", "binding"] type.counts type.declarationItems = true := by
  cases type <;> decide

theorem over_lightItems (type : LightType) : closedOver ["index", "shadow_index"] [] type.lightItems = true := by
  cases type <;> decide

end LightType

theorem found_shadowDeclarations : Stencil.find? "lights/shadow-maps-pre" = some shadowDeclarations := by
  rw [find?_of_listed (by decide)]
  rfl

/-! ## Lines of a chunk -/

private theorem map_mapIdx {α β γ : Type} (items : List α) (first : Nat → α → β) (second : β → γ) :
    (items.mapIdx first).map second = items.mapIdx fun index item => second (first index item) := by
  apply List.ext_getElem?
  intro index
  simp [Function.comp_def]

def Flag.line (flag : Flag) : String :=
  "const " ++ flag.name ++ ": bool = " ++ (if flag.value then "true" else "false") ++ ";"

theorem Flag.code_eq (flag : Flag) : flag.code = unlines [flag.line] := by
  simp only [code, line, unlines, List.map_cons, List.map_nil, String.join_cons, String.join_nil, String.append_assoc]
  rfl

/-- The constant of a choice. -/
def Choice.line (choice : Choice) : String :=
  "const " ++ choice.name ++ ": u32 = " ++ choice.name ++ "_" ++ choice.value ++ ";"

/-- The constant of the variant with number `index`. -/
def Choice.variantLine (name : String) (index : Nat) (variant : String) : String :=
  "const " ++ name ++ "_" ++ variant ++ ": u32 = " ++ toString index ++ "u;"

def Choice.lines (choice : Choice) : List String :=
  choice.variants.mapIdx (variantLine choice.name) ++ [choice.line]

theorem Choice.code_eq (choice : Choice) : choice.code = unlines choice.lines := by
  have variants : String.join (choice.variants.mapIdx fun index variant =>
      "const " ++ choice.name ++ "_" ++ variant ++ ": u32 = " ++ toString index ++ "u;\n") =
        unlines (choice.variants.mapIdx (variantLine choice.name)) := by
    rw [unlines, map_mapIdx]
    congr 2
    funext index variant
    simp only [variantLine, String.append_assoc]
    rfl
  rw [code, lines, unlines_append, variants]
  simp only [line, unlines, List.map_cons, List.map_nil, String.join_cons, String.join_nil, String.append_assoc]
  rfl

namespace ShadowPool

def stencilBindings (pool : ShadowPool) (binding : Nat) : Bindings := [
  ("count", .int pool.generatedCount),
  ("binding", .int binding),
  ("depth_texture", .switch pool.generatedDepthTexture)]

/-- The declarations of the pool, from binding `binding` on. -/
def lines (pool : ShadowPool) (binding : Nat) : List String :=
  texts (pool.stencilBindings binding) shadowDeclarations

end ShadowPool

namespace LightBucket

def stencilBindings (bucket : LightBucket) (binding : Nat) : Bindings :=
  [("count", .int bucket.size), ("binding", .int binding)]

/-- The declarations for all lights, from binding `binding` on. -/
def declarationLines (bucket : LightBucket) (binding : Nat) : List String :=
  texts (bucket.stencilBindings binding) bucket.type.declarationItems

def lightBindings (index : Nat) (slot : Option Nat) : Bindings := [
  ("index", .int index),
  ("shadow_index", .int (match slot with
    | some slot => slot
    | none => -1))]

/-- The code of all lights, one after the other. -/
def lightLines (bucket : LightBucket) : List String :=
  (bucket.shadowSlots.mapIdx fun index slot => texts (lightBindings index slot) bucket.type.lightItems).flatten

end LightBucket

namespace Chunk

/-- Whether no part of the chunk's code is repeated too often. -/
def Countable : Chunk → Prop
  | .shadowPool pool => pool.generatedCount ≤ maxRepeats
  | .lightBucket bucket => bucket.type = .ibl → bucket.size ≤ maxRepeats
  | _ => True

instance : DecidablePred Countable
  | .shadowPool pool => inferInstanceAs (Decidable (pool.generatedCount ≤ maxRepeats))
  | .lightBucket bucket => inferInstanceAs (Decidable (bucket.type = .ibl → bucket.size ≤ maxRepeats))
  | .group | .flag _ | .choice _ | .stencil _ | .custom _ => inferInstanceAs (Decidable True)

/-- How many bindings the chunk reserves. -/
def reserved : Chunk → Nat
  | .shadowPool pool => if pool.generatedCount = 0 then 0 else ShadowPool.fixedBindings + pool.generatedCount
  | .lightBucket bucket => if bucket.isEmpty then 0 else bucket.bindingsNeeded
  | _ => 0

/-- The lines of the chunk with their slots, if `binding` is the first binding that is free. -/
def printed (binding : Nat) : Chunk → List (String × List String)
  | .flag state => [(definitionsSlot, [state.line])]
  | .choice state => [(definitionsSlot, state.lines)]
  | .stencil chunk => [(chunk.slot, texts [] ((Stencil.find? chunk.stencil).getD []))]
  | .shadowPool pool =>
    if pool.generatedCount = 0 then [] else [(ShadowPool.declarationsSlot, pool.lines binding)]
  | .lightBucket bucket =>
    if bucket.isEmpty then []
    else [
      (ShadowPool.declarationsSlot, bucket.declarationLines binding),
      (LightBucket.lightsSlot, bucket.lightLines)]
  | .group | .custom _ => []

end Chunk

/-- Contributes the lines to their slots. -/
def SlotBuffer.addAll (slots : SlotBuffer) (parts : List (String × List String)) : SlotBuffer :=
  parts.foldl (fun slots (key, lines) => slots.add key (unlines lines)) slots

/-! ## Generating one chunk -/

namespace ShadowPool

variable {pool : ShadowPool}

private theorem valued_stencilBindings (binding : Nat) : Supplied ["count", "binding"] (pool.stencilBindings binding) := by
  simp [Supplied, stencilBindings, List.lookup_cons]

theorem generate_eq (countable : (Chunk.shadowPool pool).Countable) (slots : SlotBuffer) :
    pool.generate slots =
      .ok ((slots.reserve (Chunk.shadowPool pool).reserved).2.addAll
        ((Chunk.shadowPool pool).printed slots.bindingCount)) := by
  by_cases idle : pool.generatedCount = 0
  · simp only [generate, idle, if_true, Chunk.reserved, Chunk.printed]
    rfl
  · have counted : Counted ["count"] (pool.stencilBindings slots.bindingCount) :=
      ⟨rfl, List.forall_mem_singleton.2 ⟨pool.generatedCount, rfl, countable⟩⟩
    have rendered : renderNamed "lights/shadow-maps-pre" (pool.stencilBindings slots.bindingCount) =
        .ok (unlines (pool.lines slots.bindingCount)) :=
      renderNamed_eq_ok found_shadowDeclarations (valued_stencilBindings slots.bindingCount) counted (by decide)
    simp only [stencilBindings] at rendered
    simp only [generate, idle, if_false, Chunk.reserved, Chunk.printed, SlotBuffer.reserve, rendered]
    rfl

theorem generate_of_many (many : ¬ (Chunk.shadowPool pool).Countable) (slots : SlotBuffer) :
    ∃ cause, pool.generate slots = .error cause := by
  have crowded : maxRepeats < pool.generatedCount := Nat.lt_of_not_le many
  have busy : pool.generatedCount ≠ 0 := by omega
  have overcounted := countOf_of_many (show (pool.stencilBindings slots.bindingCount).lookup "count" =
    some (.int pool.generatedCount) from rfl) rfl crowded
  have rendered := renderNamed_of_overcounted found_shadowDeclarations rfl
    (valued_stencilBindings slots.bindingCount) (by decide) overcounted rfl
  simp only [stencilBindings] at rendered
  simp only [generate, busy, if_false, SlotBuffer.reserve, rendered]
  exact ⟨_, rfl⟩

end ShadowPool

namespace LightBucket

variable {bucket : LightBucket}

private theorem valued_stencilBindings (binding : Nat) :
    Supplied ["count", "binding"] (bucket.stencilBindings binding) := by
  simp [Supplied, stencilBindings, List.lookup_cons]

theorem lightCode_eq_ok (type : LightType) (index : Nat) (slot : Option Nat) :
    lightCode type index slot = .ok (unlines (texts (lightBindings index slot) type.lightItems)) := by
  have valued : Supplied ["index", "shadow_index"] (lightBindings index slot) := by
    simp [Supplied, lightBindings, List.lookup_cons]
  exact renderNamed_eq_ok type.find?_lightStencil valued ⟨rfl, by simp⟩ type.over_lightItems

private theorem codes_eq_ok (bucket : LightBucket) :
    ∃ codes, ((bucket.shadowSlots.mapIdx fun index slot => (index, slot)).mapM fun (index, slot) =>
      lightCode bucket.type index slot) = .ok codes ∧ String.join codes = unlines bucket.lightLines := by
  refine ⟨_, mapM_eq_ok fun pair _ => lightCode_eq_ok bucket.type pair.1 pair.2, ?_⟩
  rw [lightLines, ← unlines_flatten, map_mapIdx, map_mapIdx]

theorem generate_eq (countable : (Chunk.lightBucket bucket).Countable) (slots : SlotBuffer) :
    bucket.generate slots =
      .ok ((slots.reserve (Chunk.lightBucket bucket).reserved).2.addAll
        ((Chunk.lightBucket bucket).printed slots.bindingCount)) := by
  by_cases empty : bucket.isEmpty
  · simp only [generate, empty, if_true, Chunk.reserved, Chunk.printed]
    rfl
  · have counted : Counted bucket.type.counts (bucket.stencilBindings slots.bindingCount) := by
      refine ⟨rfl, fun count member => ?_⟩
      cases type : bucket.type with
      | ibl =>
        obtain rfl : count = "count" := by simpa [type, LightType.counts] using member
        exact ⟨bucket.size, rfl, countable type⟩
      | _ => simp [type, LightType.counts] at member
    have declared : renderNamed bucket.type.declarationsStencil (bucket.stencilBindings slots.bindingCount) =
        .ok (unlines (bucket.declarationLines slots.bindingCount)) :=
      renderNamed_eq_ok bucket.type.find?_declarationsStencil (valued_stencilBindings slots.bindingCount) counted
        bucket.type.over_declarationItems
    obtain ⟨codes, coded, joined⟩ := codes_eq_ok bucket
    have code : bucket.codeFrom slots.bindingCount =
        .ok (unlines (bucket.declarationLines slots.bindingCount), unlines bucket.lightLines) := by
      simp only [stencilBindings] at declared
      rw [codeFrom, declared, coded, ← joined]
      rfl
    simp only [generate, empty, SlotBuffer.reserve, code, Chunk.reserved, Chunk.printed]
    rfl

theorem generate_of_many (many : ¬ (Chunk.lightBucket bucket).Countable) (slots : SlotBuffer) :
    bucket.generate slots = .error (.stencil (.fault
      (if maxCount < bucket.size then .countTooLarge else .tooManyRepeats) "lights/ibl-lights-pre" 4)) := by
  obtain ⟨type, crowded⟩ : bucket.type = .ibl ∧ maxRepeats < bucket.size := by
    simpa [Chunk.Countable] using many
  have filled : bucket.isEmpty = false := by
    rw [isEmpty, List.isEmpty_eq_false_iff, ← List.length_pos_iff]
    exact Nat.lt_of_le_of_lt (Nat.zero_le _) crowded
  have overcounted := countOf_of_many (show (bucket.stencilBindings slots.bindingCount).lookup "count" =
    some (.int bucket.size) from rfl) rfl crowded
  have found : Stencil.find? "lights/ibl-lights-pre" = some environmentDeclarations :=
    LightType.ibl.find?_declarationsStencil
  have rendered := renderNamed_of_overcounted found rfl (valued_stencilBindings slots.bindingCount)
    (by decide) overcounted rfl
  simp only [stencilBindings] at rendered
  simp only [generate, filled, SlotBuffer.reserve, codeFrom, type, LightType.declarationsStencil, rendered]
  rfl

end LightBucket

namespace Chunk

variable {chunk : Chunk}

private theorem stencil_generate_eq {chunk : StencilChunk} (light : (Chunk.stencil chunk).LightCode)
    (slots : SlotBuffer) :
    chunk.generate slots = .ok (slots.addAll ((Chunk.stencil chunk).printed slots.bindingCount)) := by
  have known : ∃ items, Stencil.find? chunk.stencil = some items ∧ closedOver [] [] items = true := by
    obtain ⟨-, name | name⟩ := light
    · exact ⟨lightSums, by rw [name, find?_of_listed (by decide)]; rfl, by decide +kernel⟩
    · exact ⟨lightTotal, by rw [name, find?_of_listed (by decide)]; rfl, by decide +kernel⟩
  obtain ⟨items, found, closed⟩ := known
  have rendered : renderNamed chunk.stencil [] = .ok (unlines (texts [] items)) :=
    renderNamed_eq_ok found (by simp [Supplied]) ⟨rfl, by simp⟩ closed
  simp only [StencilChunk.generate, rendered, printed, found, Option.getD_some]
  rfl

/-- A chunk reserves its bindings, and then contributes its lines. -/
theorem generate_eq (light : chunk.LightCode) (countable : chunk.Countable) (slots : SlotBuffer) :
    chunk.generate slots = .ok ((slots.reserve chunk.reserved).2.addAll (chunk.printed slots.bindingCount)) := by
  cases chunk with
  | flag state =>
    rw [generate, state.code_eq]
    rfl
  | choice state =>
    rw [generate, state.code_eq]
    rfl
  | stencil chunk => exact stencil_generate_eq light slots
  | shadowPool pool => exact ShadowPool.generate_eq countable slots
  | lightBucket bucket => exact LightBucket.generate_eq countable slots
  | group => exact light.elim
  | custom chunk => exact light.elim

theorem generate_of_many (light : chunk.LightCode) (many : ¬ chunk.Countable) (slots : SlotBuffer) :
    ∃ cause, chunk.generate slots = .error cause := by
  cases chunk with
  | shadowPool pool => exact ShadowPool.generate_of_many many slots
  | lightBucket bucket => exact ⟨_, LightBucket.generate_of_many many slots⟩
  | group => exact light.elim
  | custom chunk => exact light.elim
  | _ => exact absurd trivial many

end Chunk

/-! ## Generating several chunks -/

namespace SlotBuffer

theorem addAll_append (slots : SlotBuffer) (first second : List (String × List String)) :
    slots.addAll (first ++ second) = (slots.addAll first).addAll second :=
  List.foldl_append

theorem bindingCount_addAll (slots : SlotBuffer) (parts : List (String × List String)) :
    (slots.addAll parts).bindingCount = slots.bindingCount := by
  induction parts generalizing slots with
  | nil => rfl
  | cons part rest ih => exact ih _

theorem reserve_addAll (slots : SlotBuffer) (parts : List (String × List String)) (count : Nat) :
    ((slots.addAll parts).reserve count).2 = (slots.reserve count).2.addAll parts := by
  induction parts generalizing slots with
  | nil => rfl
  | cons part rest ih => exact ih _

end SlotBuffer

namespace Chunk

/-- The lines of some chunks, one after the other, from binding `binding` on. -/
def printedAll : Nat → List Chunk → List (String × List String)
  | _, [] => []
  | binding, chunk :: rest => chunk.printed binding ++ printedAll (binding + chunk.reserved) rest

def reservedAll (chunks : List Chunk) : Nat := (chunks.map reserved).sum

variable {chunks : List Chunk}

private theorem foldlM_generate_eq (light : ∀ chunk ∈ chunks, chunk.LightCode)
    (countable : ∀ chunk ∈ chunks, chunk.Countable) (slots : SlotBuffer) :
    chunks.foldlM (fun slots chunk => chunk.generate slots) slots =
      .ok ((slots.reserve (reservedAll chunks)).2.addAll (printedAll slots.bindingCount chunks)) := by
  induction chunks generalizing slots with
  | nil => rfl
  | cons chunk rest ih =>
    have first := generate_eq (light _ (List.mem_cons_self ..)) (countable _ (List.mem_cons_self ..)) slots
    have later := ih (fun other member => light other (List.mem_cons_of_mem _ member))
      (fun other member => countable other (List.mem_cons_of_mem _ member))
      ((slots.reserve chunk.reserved).2.addAll (chunk.printed slots.bindingCount))
    have total : reservedAll (chunk :: rest) = chunk.reserved + reservedAll rest := by simp [reservedAll]
    rw [SlotBuffer.reserve_addAll, SlotBuffer.bindingCount_addAll] at later
    rw [List.foldlM_cons, first, printedAll, total, SlotBuffer.addAll_append]
    simp only [SlotBuffer.reserve, Nat.add_assoc] at later ⊢
    exact later

/-- The slots that some chunks fill. -/
def filledSlots (chunks : List Chunk) : SlotBuffer :=
  ((SlotBuffer.stamped (joinedHash chunks)).reserve (reservedAll chunks)).2.addAll (printedAll 0 chunks)

theorem render_eq_ok (light : ∀ chunk ∈ chunks, chunk.LightCode) (countable : ∀ chunk ∈ chunks, chunk.Countable) :
    render chunks = .ok (filledSlots chunks) :=
  foldlM_generate_eq light countable _

private theorem countable_of_foldlM (light : ∀ chunk ∈ chunks, chunk.LightCode) {slots after : SlotBuffer}
    (made : chunks.foldlM (fun slots chunk => chunk.generate slots) slots = .ok after) :
    ∀ chunk ∈ chunks, chunk.Countable := by
  induction chunks generalizing slots with
  | nil => simp
  | cons chunk rest ih =>
    have light' : ∀ other ∈ rest, other.LightCode := fun other member => light other (List.mem_cons_of_mem _ member)
    rw [List.foldlM_cons] at made
    by_cases countable : chunk.Countable
    · rw [generate_eq (light _ (List.mem_cons_self ..)) countable] at made
      exact List.forall_mem_cons.2 ⟨countable, ih light' made⟩
    · obtain ⟨cause, failed⟩ := generate_of_many (light _ (List.mem_cons_self ..)) countable slots
      rw [failed] at made
      cases made

/-- Behind chunks that have code, image-based lights that are too many are what generation fails at. -/
theorem render_of_many {front rest : List Chunk} {bucket : LightBucket} (light : ∀ chunk ∈ front, chunk.LightCode)
    (countable : ∀ chunk ∈ front, chunk.Countable) (many : ¬ (Chunk.lightBucket bucket).Countable) :
    render (front ++ .lightBucket bucket :: rest) = .error (.stencil (.fault
      (if maxCount < bucket.size then .countTooLarge else .tooManyRepeats) "lights/ibl-lights-pre" 4)) := by
  rw [render, List.foldlM_append, foldlM_generate_eq light countable]
  simp only [bind, Except.bind, List.foldlM_cons, generate, LightBucket.generate_of_many many]

/-- The code of light models is generated if no part is repeated too often, and not otherwise. -/
theorem render_eq_ok_iff (light : ∀ chunk ∈ chunks, chunk.LightCode) {slots : SlotBuffer} :
    render chunks = .ok slots ↔ (∀ chunk ∈ chunks, chunk.Countable) ∧ slots = filledSlots chunks := by
  constructor
  · intro made
    have countable := countable_of_foldlM light made
    exact ⟨countable, Except.ok.inj (made.symm.trans (render_eq_ok light countable))⟩
  · rintro ⟨countable, rfl⟩
    exact render_eq_ok light countable

theorem exists_render_iff (light : ∀ chunk ∈ chunks, chunk.LightCode) :
    (∃ slots, render chunks = .ok slots) ↔ ∀ chunk ∈ chunks, chunk.Countable := by
  simp only [render_eq_ok_iff light, exists_and_left, exists_eq, and_true]

end Chunk

end ShaderWeave
