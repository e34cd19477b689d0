import Mathlib.Data.List.Perm.Basic
import ShaderWeave.Proofs.Lighting.Contributions

/-! # What code says about shadows

All the lines that chunks contribute, whichever slots they are for: which lookup functions they declare and mention, the
form of the maps that they name, and the variables that they declare.
-/

namespace ShaderWeave

open Stencil Code

/-! ## Declarations of resources -/

namespace Stencil

/-- Whether lines say nothing about shadows. -/
def areMute (scope : List String) (rows : List (List Glyph)) : Bool :=
  areClosed scope rows && (lackConstants rows && haveLookups [] [] rows)

variable {bindings : Bindings}

theorem account_of_areMute {scope : List String} {items : List Item} (passes : Passes (areMute scope) items)
    (whole : Whole scope bindings) : Account ((texts bindings items).map String.toList) [] [] [] :=
  account_of_passes passes whole

theorem account_repeated_nil {index count : String} {body : List Item} {number : Nat}
    (counted : repeats bindings count = number)
    (each : ∀ place : Nat, Account ((texts ((index, .int place) :: bindings) body).map String.toList) [] [] []) :
    Account ((texts bindings [.repeated index count body]).map String.toList) [] [] [] := by
  have all := account_repeated counted each
  rwa [List.flatMap_eq_nil_iff.2 fun _ _ => rfl] at all

end Stencil

namespace LightBucket

private theorem passes_declarationItems {type : LightType} (bounded : type ≠ .ibl) :
    Passes (areMute ["count", "binding"]) type.declarationItems := by
  cases type with
  | ibl => exact absurd rfl bounded
  | _ =>
    apply passes_of_spells
    · repeat' constructor
    · decide

private theorem passes_environment :
    Passes (areMute ["count", "binding"]) (front environmentDeclarations) ∧
      Passes (areMute ["i", "binding"]) (repeatedBody environmentDeclarations) ∧
      Passes (areMute []) LightType.ibl.helperItems := by
  refine ⟨?_, ?_, ?_⟩ <;>
  · apply passes_of_spells
    · repeat' constructor
    · decide

variable {bucket : LightBucket}

theorem account_declarationLines (countable : (Chunk.lightBucket bucket).Countable) (binding : Nat) :
    Account ((bucket.declarationLines binding).map String.toList) [] [] [] := by
  have whole : Whole ["count", "binding"] (bucket.stencilBindings binding) := by
    simp [Whole, stencilBindings, List.lookup_cons]
  by_cases environment : bucket.type = .ibl
  · have split : bucket.type.declarationItems = front environmentDeclarations ++
        ([.repeated "i" "count" (repeatedBody environmentDeclarations)] ++ LightType.ibl.helperItems) := by
      rw [environment]
      rfl
    obtain ⟨front, maps, helpers⟩ := passes_environment
    have each : ∀ place : Nat, Whole ["i", "binding"] (("i", .int place) :: bucket.stencilBindings binding) := by
      intro place
      simp [Whole, stencilBindings, List.lookup_cons]
    have none : Whole [] (bucket.stencilBindings binding) := by simp [Whole]
    have repeated := account_repeated_nil (repeats_count countable environment binding)
      fun place => account_of_areMute maps (each place)
    have all := (account_of_areMute front whole).append (repeated.append (account_of_areMute helpers none))
    rw [declarationLines, split, texts_append, texts_append, List.map_append, List.map_append]
    exact all
  · exact account_of_areMute (passes_declarationItems environment) whole

theorem account_lightLines (bucket : LightBucket) :
    Account (bucket.lightLines.map String.toList) [] (bucket.shadowSlots.flatMap (lookupsOf bucket.type)) [] := by
  have all := Account.flatMap fun (entry : Option Nat × Nat) (_ : entry ∈ bucket.shadowSlots.zipIdx) =>
    account_light bucket.type entry.2 entry.1
  have lights : bucket.lightLines.map String.toList = bucket.shadowSlots.zipIdx.flatMap fun entry =>
      (texts (lightBindings entry.2 entry.1) bucket.type.lightItems).map String.toList := by
    rw [lightLines, List.mapIdx_eq_zipIdx_map, ← List.flatMap_def, List.map_flatMap]
  have mentioned : bucket.shadowSlots.flatMap (lookupsOf bucket.type) =
      bucket.shadowSlots.zipIdx.flatMap fun entry => lookupsOf bucket.type entry.1 := by
    conv_lhs => rw [← List.zipIdx_map_fst 0 bucket.shadowSlots, List.flatMap_map]
  rw [lights, mentioned]
  simpa [List.flatMap_eq_nil_iff.2] using all

end LightBucket

namespace ShadowPool

/-- The resources but for the maps. -/
def fixedItems (depthTexture : Bool) : List Item := (front shadowDeclarations).flatMap (Item.side depthTexture)

/-- The map of a slot. -/
def mapBody (depthTexture : Bool) : List Item := (repeatedBody shadowDeclarations).flatMap (Item.side depthTexture)

private theorem passes_resources (depthTexture : Bool) :
    Passes (areMute ["count", "binding"]) (fixedItems depthTexture) ∧
      Passes (areMute ["i", "binding"]) (mapBody depthTexture) := by
  cases depthTexture <;> refine ⟨?_, ?_⟩ <;>
  · apply passes_of_spells
    · repeat' constructor
    · decide

variable {pool : ShadowPool}

/-- A pool declares a lookup function for each slot, and mentions none. -/
theorem account_lines (countable : (Chunk.shadowPool pool).Countable) (binding : Nat) :
    Account ((pool.lines binding).map String.toList) ((List.range pool.generatedCount).map lookupName) [] [] := by
  obtain ⟨fixed, map⟩ := passes_resources pool.generatedDepthTexture
  have whole : Whole ["count", "binding"] (pool.stencilBindings binding) := whole_stencilBindings binding
  have resources := account_of_areMute fixed whole
  have fixedTests : (front shadowDeclarations).all (Item.tests (.holds "depth_texture")) = true := by decide
  have mapTests : (repeatedBody shadowDeclarations).all (Item.tests (.holds "depth_texture")) = true := by decide
  rw [fixedItems, ← texts_side fixedTests (test_holds rfl)] at resources
  have each : ∀ place : Nat, Account ((texts (("i", .int place) :: pool.stencilBindings binding)
      (repeatedBody shadowDeclarations)).map String.toList) [] [] [] := by
    intro place
    have switched : (("i", Value.int place) :: pool.stencilBindings binding).lookup "depth_texture" =
        some (.switch pool.generatedDepthTexture) := rfl
    rw [texts_side mapTests (test_holds switched)]
    exact account_of_areMute map (by simp [Whole, stencilBindings, List.lookup_cons])
  have maps : Account ((texts (pool.stencilBindings binding)
      [.repeated "i" "count" (repeatedBody shadowDeclarations)]).map String.toList) [] [] [] :=
    account_repeated_nil (repeats_count countable binding) each
  have split : shadowDeclarations = front shadowDeclarations ++
      ([.repeated "i" "count" (repeatedBody shadowDeclarations)] ++ helperItems) := rfl
  have all := resources.append (maps.append (account_helperItems countable binding))
  rw [lines, split, texts_append, texts_append, List.map_append, List.map_append]
  exact all

end ShadowPool

/-! ## Chunks -/

namespace Chunk

/-- The lookup functions that the code of a chunk declares. -/
def declaredLookups : Chunk → List (List Char)
  | .shadowPool pool => (List.range pool.generatedCount).map lookupName
  | _ => []

/-- The lookup functions that it mentions. -/
def lookups : Chunk → List (List Char)
  | .lightBucket bucket => bucket.shadowSlots.flatMap (LightBucket.lookupsOf bucket.type)
  | _ => []

/-- The value that it gives to the constant for the form of the maps. -/
def formats : Chunk → List (List Char)
  | .choice state => if state.name = "depthFormat" then [formatName ++ '_' :: state.value.toList] else []
  | _ => []

variable {chunk : Chunk} {chunks : List Chunk}

theorem account_printed (light : chunk.LightCode) (countable : chunk.Countable) (binding : Nat) :
    Account (((chunk.printed binding).flatMap (·.2)).map String.toList) chunk.declaredLookups chunk.lookups
      chunk.formats := by
  cases chunk with
  | flag state => simpa [printed, declaredLookups, lookups, formats] using (Flag.account_line light).2
  | choice state =>
    rw [printed, List.flatMap_singleton]
    rcases light with ⟨name, variants⟩ | ⟨name, variants⟩
    · obtain ⟨filtering, -, value⟩ := List.mem_map.1 (variants ▸ state.value_mem)
      have none : (Chunk.choice state).formats = [] := by simp [formats, name]
      rw [none, state.lines_shadowFilter name variants value.symm]
      exact (account_of_giveFormats filtering.passes_lines).2
    · obtain ⟨format, -, value⟩ := List.mem_map.1 (variants ▸ state.value_mem)
      have given : (Chunk.choice state).formats = [format.constant] := by
        simp [formats, name, DepthFormat.constant, ← value]
      rw [given, state.lines_depthFormat name variants value.symm]
      exact (account_of_giveFormats format.passes_lines).2
  | stencil chunk => simpa [printed, declaredLookups, lookups, formats] using (StencilChunk.account_lines light).2
  | shadowPool pool =>
    by_cases idle : pool.generatedCount = 0
    · simpa [printed, declaredLookups, lookups, formats, idle] using Account.nil
    · simpa [printed, declaredLookups, lookups, formats, idle] using ShadowPool.account_lines countable binding
  | lightBucket bucket =>
    by_cases empty : bucket.isEmpty
    · have none : bucket.entries = [] := List.isEmpty_iff.1 empty
      simpa [printed, declaredLookups, lookups, formats, empty, LightBucket.shadowSlots, none] using Account.nil
    · have all := (LightBucket.account_declarationLines countable binding).append bucket.account_lightLines
      simpa [printed, declaredLookups, lookups, formats, empty] using all
  | group => exact .nil
  | custom chunk => exact .nil

theorem account_printedAll (light : ∀ chunk ∈ chunks, chunk.LightCode)
    (countable : ∀ chunk ∈ chunks, chunk.Countable) (binding : Nat) :
    Account (((printedAll binding chunks).flatMap (·.2)).map String.toList) (chunks.flatMap declaredLookups)
      (chunks.flatMap lookups) (chunks.flatMap formats) := by
  induction chunks generalizing binding with
  | nil => exact .nil
  | cons chunk rest ih =>
    obtain ⟨light, lights⟩ := List.forall_mem_cons.1 light
    obtain ⟨here, later⟩ := List.forall_mem_cons.1 countable
    rw [printedAll, List.flatMap_append, List.map_append]
    exact (account_printed light here binding).append (ih lights later _)

/-- All lines of a chunk together declare the resources that it needs. -/
theorem declares_lines (light : chunk.LightCode) (countable : chunk.Countable) (binding : Nat) :
    Declares binding chunk.resources ((chunk.printed binding).flatMap (·.2)) := by
  have split : (chunk.printed binding).flatMap (·.2) = linesAt ShadowPool.declarationsSlot (chunk.printed binding) ++
      ((chunk.printed binding).filter (·.1 != ShadowPool.declarationsSlot)).flatMap (·.2) := by
    cases chunk with
    | stencil chunk => by_cases here : chunk.slot = ShadowPool.declarationsSlot <;> simp [printed, linesAt, here]
    | shadowPool pool => by_cases idle : pool.generatedCount = 0 <;> simp [printed, linesAt, idle]
    | lightBucket bucket =>
      by_cases empty : bucket.isEmpty <;>
        simp [printed, linesAt, empty, LightBucket.lightsSlot, ShadowPool.declarationsSlot]
    | _ => simp [printed, linesAt, definitionsSlot, ShadowPool.declarationsSlot]
  rw [split]
  refine (declares_printed light countable binding).append_quiet ?_
  intro line member
  obtain ⟨part, isPart, inside⟩ := List.mem_flatMap.1 member
  obtain ⟨isPart, other⟩ := List.mem_filter.1 isPart
  exact quiet_printed light isPart (by simpa using other) line inside

theorem declares_linesAll (light : ∀ chunk ∈ chunks, chunk.LightCode)
    (countable : ∀ chunk ∈ chunks, chunk.Countable) (binding : Nat) :
    Declares binding (chunks.flatMap resources) ((printedAll binding chunks).flatMap (·.2)) := by
  induction chunks generalizing binding with
  | nil => exact .nil binding
  | cons chunk rest ih =>
    obtain ⟨light, lights⟩ := List.forall_mem_cons.1 light
    obtain ⟨here, later⟩ := List.forall_mem_cons.1 countable
    rw [printedAll, List.flatMap_append, List.flatMap_cons]
    refine (declares_lines light here binding).append ?_
    rw [length_resources]
    exact ih lights later _

/-- What is read in merged code, whatever the slots. -/
structure Merged (chunks : List Chunk) (lines : List (List Char)) : Prop where
  declared : (Code.declaredLookups lines).Perm (chunks.flatMap declaredLookups)
  mentioned : (Code.lookups lines).Perm (chunks.flatMap lookups)
  formats : (Code.formats lines).Perm (chunks.flatMap formats)
  globals : (lines.filterMap global?).Perm
    ((chunks.flatMap resources).map fun resource => (resource.name, resource.type.toList))

theorem merged_filledSlots (light : ∀ chunk ∈ chunks, chunk.LightCode) (countable : ∀ chunk ∈ chunks, chunk.Countable) :
    Merged chunks (filledSlots chunks).lines := by
  have declares := declares_linesAll light countable 0
  have account := account_printedAll light countable 0
  have lines := lines_filledSlots declares.oneLine
  refine ⟨?_, ?_, ?_, ?_⟩
  · rw [← account.declared]
    exact (lines.filterMap function?).filter isLookup
  · rw [← account.mentioned]
    exact (lines.flatMap_right mentions).filter isLookup
  · rw [← account.formats]
    exact (lines.filterMap constant?).filterMap _
  · rw [← declares.globals_eq]
    exact lines.filterMap global?

end Chunk

end ShaderWeave
