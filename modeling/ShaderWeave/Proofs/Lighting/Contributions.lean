import ShaderWeave.Proofs.Lighting.Merging

/-! # What chunks contribute

Outside the declarations of resources, chunks contribute lines that declare no resource. A light looks up the shadow of
the slot that it holds, if it holds one, and a pool declares one lookup function for each slot of its code.
-/

namespace ShaderWeave

open Stencil Code

/-! ## Single lights -/

/-- The name of a lookup function, as it is spelled. -/
def lookupGlyphs (slot : String) : List Glyph := lookupFront.map .letter ++ [.hole (.variable slot)]

theorem spelledOut_lookupGlyphs {bindings : Bindings} {name : String} {slot : Nat}
    (found : bindings.lookup name = some (.int slot)) :
    spelledOut (numberOf bindings) (lookupGlyphs name) = lookupName slot := by
  have front : spelledOut (numberOf bindings) (lookupFront.map .letter) = lookupFront :=
    (List.flatMap_map ..).trans (List.flatMap_singleton' lookupFront)
  have number : numberOf bindings (.variable name) = slot := by
    simp [numberOf, Term.eval, found]
  rw [lookupGlyphs, spelledOut_append, front, lookupName]
  simp [spelledOut, Glyph.fill, number]

namespace LightType

/-- What a light of the type contributes, with a shadow or without one. -/
def sidedItems (type : LightType) (shadowed : Bool) : List Item := type.lightItems.flatMap (Item.side shadowed)

/-- The names that have whole numbers for values. -/
def scope (shadowed : Bool) : List String := if shadowed then ["index", "shadow_index"] else ["index"]

/-- The lookup functions that a light mentions; image-based light is not shadowed by its own slot. -/
def spelledLookups (type : LightType) (shadowed : Bool) : List (List Glyph) :=
  if type = .ibl ∨ shadowed = false then [] else [lookupGlyphs "shadow_index"]

theorem passes_sidedItems (type : LightType) (shadowed : Bool) :
    Passes (isPlain (scope shadowed) [] (type.spelledLookups shadowed)) (type.sidedItems shadowed) := by
  cases type <;> cases shadowed <;>
  · apply passes_of_spells
    · repeat' constructor
    · decide

end LightType

namespace LightBucket

theorem texts_lightItems (type : LightType) (index : Nat) (slot : Option Nat) :
    texts (lightBindings index slot) type.lightItems =
      texts (lightBindings index slot) (type.sidedItems slot.isSome) := by
  have tests : type.lightItems.all (Item.tests (.atLeast "shadow_index" 0)) = true := by
    cases type <;> decide
  apply texts_side tests
  cases slot <;> simp [Condition.test, Condition.eval, lightBindings, List.lookup_cons]

theorem whole_lightBindings (index : Nat) (slot : Option Nat) :
    Whole (LightType.scope slot.isSome) (lightBindings index slot) := by
  cases slot <;> simp [Whole, LightType.scope, lightBindings, List.lookup_cons]

theorem quiet_light (type : LightType) (index : Nat) (slot : Option Nat) :
    ∀ line ∈ texts (lightBindings index slot) type.lightItems, Quiet line.toList := by
  rw [texts_lightItems]
  exact quiet_of_isPlain (type.passes_sidedItems slot.isSome) (whole_lightBindings index slot)

/-- The lookup function that a light with this slot mentions. -/
def lookupsOf (type : LightType) (slot : Option Nat) : List (List Char) :=
  if type = .ibl then [] else slot.toList.map lookupName

theorem account_light (type : LightType) (index : Nat) (slot : Option Nat) :
    Account ((texts (lightBindings index slot) type.lightItems).map String.toList) [] (lookupsOf type slot) [] := by
  have account := account_of_isPlain (type.passes_sidedItems slot.isSome) (whole_lightBindings index slot)
  have mentioned : (type.spelledLookups slot.isSome).map (spelledOut (numberOf (lightBindings index slot))) =
      lookupsOf type slot := by
    cases slot with
    | none => simp [LightType.spelledLookups, lookupsOf]
    | some slot =>
      by_cases environment : type = .ibl
      · simp [LightType.spelledLookups, lookupsOf, environment]
      · have found : (lightBindings index (some slot)).lookup "shadow_index" = some (.int slot) := rfl
        simp [LightType.spelledLookups, lookupsOf, environment, spelledOut_lookupGlyphs found]
  rw [texts_lightItems, ← mentioned]
  exact account

end LightBucket

/-! ## Pools -/

namespace ShadowPool

/-- What stands in front of the lookup functions, and the functions of one slot. -/
def frontItems : List Item := front helperItems

def lookupItems : List Item := repeatedBody helperItems

theorem helperItems_eq :
    helperItems = frontItems ++ ([.repeated "i" "count" lookupItems] ++ [.line [.text ""]]) := rfl

private theorem passes_frontItems : Passes (isPlain [] [] []) frontItems := by
  apply passes_of_spells
  · repeat' constructor
  · decide

private theorem passes_lookupItems (depthTexture : Bool) :
    Passes (isPlain ["i"] [lookupGlyphs "i"] []) (lookupItems.flatMap (Item.side depthTexture)) := by
  cases depthTexture <;>
  · apply passes_of_spells
    · repeat' constructor
    · decide

private theorem passes_last : Passes (isPlain [] [] []) [.line [.text ""]] :=
  passes_of_spells (.cons (.text [] .nil) .nil) (by decide)

variable {pool : ShadowPool}

private theorem texts_lookupItems (binding : Nat) (slot : Int) :
    texts (("i", .int slot) :: pool.stencilBindings binding) lookupItems =
      texts (("i", .int slot) :: pool.stencilBindings binding)
        (lookupItems.flatMap (Item.side pool.generatedDepthTexture)) := by
  have tests : lookupItems.all (Item.tests (.holds "depth_texture")) = true := by decide
  exact texts_side tests (test_holds rfl)

theorem quiet_helperItems (binding : Nat) :
    ∀ line ∈ texts (pool.stencilBindings binding) helperItems, Quiet line.toList := by
  rw [helperItems_eq, texts_append, texts_append, List.forall_mem_append, List.forall_mem_append]
  refine ⟨quiet_of_isPlain passes_frontItems (by simp [Whole]), ?_, quiet_of_isPlain passes_last (by simp [Whole])⟩
  intro line member
  simp only [texts, Item.texts, List.append_nil, texts_lookupItems] at member
  obtain ⟨slot, -, member⟩ := List.mem_flatMap.1 member
  exact quiet_of_isPlain (passes_lookupItems _) (by simp [Whole]) line member

/-- Behind the resources, one lookup function is declared for each slot, and none is mentioned. -/
theorem account_helperItems (countable : (Chunk.shadowPool pool).Countable) (binding : Nat) :
    Account ((texts (pool.stencilBindings binding) helperItems).map String.toList)
      ((List.range pool.generatedCount).map lookupName) [] [] := by
  have each : ∀ slot : Nat, Account ((texts (("i", .int slot) :: pool.stencilBindings binding) lookupItems).map
      String.toList) [lookupName slot] [] [] := by
    intro slot
    have whole : Whole ["i"] (("i", .int slot) :: pool.stencilBindings binding) := by simp [Whole]
    have account := account_of_isPlain (passes_lookupItems pool.generatedDepthTexture) whole
    have found : (("i", Value.int slot) :: pool.stencilBindings binding).lookup "i" = some (.int slot) := by simp
    rw [texts_lookupItems]
    rwa [List.map_singleton, spelledOut_lookupGlyphs found] at account
  have none : Whole [] (pool.stencilBindings binding) := by simp [Whole]
  have all := (account_of_isPlain passes_frontItems none).append
    ((account_repeated (repeats_count countable binding) each).append (account_of_isPlain passes_last none))
  rw [helperItems_eq, texts_append, texts_append, List.map_append, List.map_append]
  simpa [← List.map_eq_flatMap, List.flatMap_eq_nil_iff.2] using all

end ShadowPool

/-! ## Constants -/

namespace Flag

variable {flag : Flag}

theorem account_line (name : flag.name = "iblShadowing") :
    (∀ line ∈ [flag.line], Quiet line.toList) ∧ Account ([flag.line].map String.toList) [] [] [] := by
  have shape : flag.line =
      if flag.value then "const iblShadowing: bool = true;" else "const iblShadowing: bool = false;" := by
    rw [line, name]
    cases flag.value <;> rfl
  rw [shape]
  cases flag.value <;>
  · apply account_of_giveFormats
    apply passes_of_spells
    · repeat' constructor
    · decide

end Flag

namespace ShadowFiltering

/-- The constants for the way in which shadow maps are sampled. -/
def lines (filtering : ShadowFiltering) : List String := [
  "const shadowFilter_PCFNONE: u32 = 0u;",
  "const shadowFilter_PCF4x1: u32 = 1u;",
  "const shadowFilter_PCF4x4: u32 = 2u;",
  "const shadowFilter_PCF2x2: u32 = 3u;",
  match filtering with
  | none => "const shadowFilter: u32 = shadowFilter_PCFNONE;"
  | pcf4x1 => "const shadowFilter: u32 = shadowFilter_PCF4x1;"
  | pcf4x4 => "const shadowFilter: u32 = shadowFilter_PCF4x4;"
  | pcf2x2 => "const shadowFilter: u32 = shadowFilter_PCF2x2;"]

theorem passes_lines (filtering : ShadowFiltering) : Passes (giveFormats []) (plain filtering.lines) := by
  cases filtering <;>
  · apply passes_of_spells
    · repeat' constructor
    · decide

end ShadowFiltering

namespace DepthFormat

/-- The constants for the form of shadow maps. -/
def lines (format : DepthFormat) : List String := [
  "const depthFormat_D_DEPTH: u32 = 0u;",
  "const depthFormat_D_RGB: u32 = 1u;",
  match format with
  | depth => "const depthFormat: u32 = depthFormat_D_DEPTH;"
  | rgb => "const depthFormat: u32 = depthFormat_D_RGB;"]

/-- The value of the constant that stands for the form. -/
def constant (format : DepthFormat) : List Char := formatName ++ '_' :: format.variant.toList

theorem passes_lines (format : DepthFormat) : Passes (giveFormats [format.constant]) (plain format.lines) := by
  cases format <;>
  · apply passes_of_spells
    · repeat' constructor
    · decide

end DepthFormat

namespace Choice

variable {choice : Choice}

theorem value_mem (choice : Choice) : choice.value ∈ choice.variants := List.get_mem ..

theorem lines_shadowFilter {filtering : ShadowFiltering} (name : choice.name = "shadowFilter")
    (variants : choice.variants = ShadowFiltering.variants) (value : choice.value = filtering.variant) :
    choice.lines = filtering.lines := by
  rw [lines, variants, Choice.line, name, value]
  cases filtering <;> rfl

theorem lines_depthFormat {format : DepthFormat} (name : choice.name = "depthFormat")
    (variants : choice.variants = DepthFormat.variants) (value : choice.value = format.variant) :
    choice.lines = format.lines := by
  rw [lines, variants, Choice.line, name, value]
  cases format <;> rfl

end Choice

/-! ## The sums of light -/

private theorem texts_stencil {chunk : StencilChunk} (light : (Chunk.stencil chunk).LightCode) :
    texts [] ((Stencil.find? chunk.stencil).getD []) ∈
      [["    var direct = vec3<f32>(0.0);", "    var ibl_shadow = 1.0;"], ["    color += direct;"]] := by
  obtain ⟨-, name | name⟩ := light
  · rw [name, find?_of_listed (by decide)]
    exact List.mem_cons_self ..
  · rw [name, find?_of_listed (by decide)]
    exact List.mem_cons_of_mem _ (List.mem_cons_self ..)

theorem StencilChunk.account_lines {chunk : StencilChunk} (light : (Chunk.stencil chunk).LightCode) :
    (∀ line ∈ texts [] ((Stencil.find? chunk.stencil).getD []), Quiet line.toList) ∧
      Account ((texts [] ((Stencil.find? chunk.stencil).getD [])).map String.toList) [] [] [] := by
  have passes : ∀ lines ∈ [["    var direct = vec3<f32>(0.0);", "    var ibl_shadow = 1.0;"], ["    color += direct;"]],
      Passes (giveFormats []) (plain lines) := by
    simp only [List.forall_mem_cons]
    refine ⟨?_, ?_, by simp⟩ <;>
    · apply passes_of_spells
      · repeat' constructor
      · decide
  exact account_of_giveFormats (passes _ (texts_stencil light))

/-! ## All chunks -/

theorem LightBucket.quiet_lightLines (bucket : LightBucket) : ∀ line ∈ bucket.lightLines, Quiet line.toList := by
  intro line member
  obtain ⟨lines, isLight, inside⟩ := List.mem_flatten.1 member
  obtain ⟨index, bound, rfl⟩ := List.mem_mapIdx.1 isLight
  exact quiet_light bucket.type index bucket.shadowSlots[index] line inside

namespace Chunk

variable {chunk : Chunk} {chunks : List Chunk}

/-- Outside the slot of declarations, a chunk of a light model contributes lines without resources. -/
theorem quiet_printed (light : chunk.LightCode) {binding : Nat} {part : String × List String}
    (member : part ∈ chunk.printed binding) (other : part.1 ≠ ShadowPool.declarationsSlot) :
    ∀ line ∈ part.2, Quiet line.toList := by
  cases chunk with
  | flag state =>
    obtain rfl := List.mem_singleton.1 member
    exact (Flag.account_line light).1
  | choice state =>
    obtain rfl := List.mem_singleton.1 member
    rcases light with ⟨name, variants⟩ | ⟨name, variants⟩
    · obtain ⟨filtering, -, value⟩ := List.mem_map.1 (variants ▸ state.value_mem)
      rw [state.lines_shadowFilter name variants value.symm]
      exact (account_of_giveFormats filtering.passes_lines).1
    · obtain ⟨format, -, value⟩ := List.mem_map.1 (variants ▸ state.value_mem)
      rw [state.lines_depthFormat name variants value.symm]
      exact (account_of_giveFormats format.passes_lines).1
  | stencil chunk =>
    obtain rfl := List.mem_singleton.1 member
    exact (StencilChunk.account_lines light).1
  | shadowPool pool =>
    simp only [printed] at member
    split at member
    · cases member
    · obtain rfl := List.mem_singleton.1 member
      exact absurd rfl other
  | lightBucket bucket =>
    simp only [printed] at member
    split at member
    · cases member
    · rcases List.mem_cons.1 member with rfl | member
      · exact absurd rfl other
      · obtain rfl := List.mem_singleton.1 member
        exact bucket.quiet_lightLines
  | group => cases member
  | custom chunk => cases member

/-- In the slot of declarations it declares the resources that it needs. -/
theorem declares_printed (light : chunk.LightCode) (countable : chunk.Countable) (binding : Nat) :
    Declares binding chunk.resources (linesAt ShadowPool.declarationsSlot (chunk.printed binding)) := by
  cases chunk with
  | shadowPool pool =>
    simp only [printed, resources]
    split
    · exact .nil binding
    · have lines : linesAt ShadowPool.declarationsSlot [(ShadowPool.declarationsSlot, pool.lines binding)] =
          pool.lines binding := by simp [linesAt]
      rw [lines, ShadowPool.lines_eq countable]
      exact (Declares.of_numbered pool.plain_resources binding).append_quiet (ShadowPool.quiet_helperItems binding)
  | lightBucket bucket =>
    simp only [printed, resources]
    split
    · exact .nil binding
    · have lines : linesAt ShadowPool.declarationsSlot [(ShadowPool.declarationsSlot, bucket.declarationLines binding),
          (LightBucket.lightsSlot, bucket.lightLines)] = bucket.declarationLines binding := by
        simp [linesAt, LightBucket.lightsSlot, ShadowPool.declarationsSlot]
      rw [lines, LightBucket.declarationLines_eq countable]
      exact (Declares.of_numbered bucket.plain_resources binding).append_quiet (bucket.type.quiet_helperItems _)
  | stencil chunk =>
    have elsewhere : chunk.slot ≠ ShadowPool.declarationsSlot := by
      rw [light.1]
      decide
    rw [linesAt_of_forall (by simpa [printed] using elsewhere)]
    exact .nil binding
  | _ => exact .nil binding

theorem declares_printedAll (light : ∀ chunk ∈ chunks, chunk.LightCode)
    (countable : ∀ chunk ∈ chunks, chunk.Countable) (binding : Nat) :
    Declares binding (chunks.flatMap resources) (linesAt ShadowPool.declarationsSlot (printedAll binding chunks)) := by
  induction chunks generalizing binding with
  | nil => exact .nil binding
  | cons chunk rest ih =>
    obtain ⟨light, lights⟩ := List.forall_mem_cons.1 light
    obtain ⟨here, later⟩ := List.forall_mem_cons.1 countable
    rw [printedAll, linesAt_append, List.flatMap_cons]
    refine (declares_printed light here binding).append ?_
    rw [length_resources]
    exact ih lights later _

end Chunk

end ShaderWeave
