import ShaderWeave.Proofs.Code.Resources
import ShaderWeave.Proofs.Lighting.Generation
import ShaderWeave.Proofs.Stencil.Spelling

/-! # Declared resources

Buckets and pools declare resources under consecutive bindings, as many as they reserve, and behind them what reads
these resources.
-/

namespace ShaderWeave

open Stencil Code

/-! ## Stencils of resources -/

namespace Stencil

/-- The binding `offset` places behind the first one. -/
def numberTerm : Nat → Term
  | 0 => value "binding"
  | offset + 1 => plus "binding" (offset + 1)

/-- A storage array, `offset` places behind the first binding. -/
def arrayItem (offset : Nat) (name element : String) (count : Term) : Item :=
  resource (numberTerm offset) ["var<storage, read> " ++ name ++ ": array<" ++ element ++ ", ", count, ">;"]

/-- A resource for each repeat, from `offset` places behind the first binding on. -/
def eachItem (offset : Nat) (name type : String) : Item :=
  resource (plusEach "binding" offset "i") ["var " ++ name, value "i", ": " ++ type ++ ";"]

variable {bindings : Bindings} {first count : Nat}

theorem texts_resource {term : Term} {declaration : List Piece} {number : Nat} {declared : Resource}
    (numbered : (Piece.hole term).fill bindings = toString number)
    (printed : filled bindings declaration = "var" ++ declared.tail) :
    texts bindings [resource term declaration] = [declared.line number] := by
  have regroup : ∀ rest : String, ") " ++ ("var" ++ rest) = ") var" ++ rest := fun rest => by
    rw [← String.append_assoc]
    rfl
  have row : filled bindings ("@group(0) @binding(" :: term :: ") " :: declaration) = declared.line number := by
    have rest : String.join (declaration.map (Piece.fill bindings)) = "var" ++ declared.tail := printed
    simp only [filled, List.map_cons, Piece.fill_text, String.join_cons, numbered, rest]
    unfold Resource.line Resource.tail
    rw [regroup]
    simp only [String.append_assoc]
  simp only [resource, texts, Item.texts, row, List.append_nil]

theorem fill_numberTerm (found : bindings.lookup "binding" = some (.int first)) (offset : Nat) :
    (Piece.hole (numberTerm offset)).fill bindings = toString (first + offset) := by
  cases offset with
  | zero =>
    simp only [numberTerm, value, Piece.fill, Piece.render, Term.eval, found]
    rfl
  | succ offset =>
    simp only [numberTerm, plus, Piece.fill, Piece.render, Term.eval, found]
    rfl

theorem fill_value {name : String} {number : Nat} (found : bindings.lookup name = some (.int number)) :
    (Piece.hole (value name)).fill bindings = toString number := by
  simp only [value, Piece.fill, Piece.render, Term.eval, found]
  rfl

theorem fill_times {name : String} {number : Nat} (found : bindings.lookup name = some (.int number)) (factor : Nat) :
    (Piece.hole (times name factor)).fill bindings = toString (number * factor) := by
  simp only [times, Piece.fill, Piece.render, Term.eval, found]
  rfl

theorem texts_arrayItem (found : bindings.lookup "binding" = some (.int first)) (offset : Nat) (name element : String)
    {size : Term} (counted : (Piece.hole size).fill bindings = toString count) :
    texts bindings [arrayItem offset name element size] =
      [(Resource.array name element count).line (first + offset)] := by
  refine texts_resource (fill_numberTerm found offset) ?_
  have closing : ">" ++ ";" = ">;" := rfl
  have middle : ": " ++ "array<" = ": array<" := rfl
  have opening : "var" ++ ("<storage, read>" ++ " ") = "var<storage, read> " := rfl
  simp only [filled, List.map_cons, List.map_nil, Piece.fill_text, String.join_cons, String.join_nil, counted,
    String.append_empty]
  unfold Resource.array Resource.tail
  rw [← opening, ← middle, ← closing]
  simp only [String.append_assoc]

/-- Repeated resources have consecutive bindings. -/
theorem texts_repeated {body : List Item} {declared : Nat → Resource} (counted : repeats bindings "count" = count)
    (each : ∀ number : Nat, texts (("i", .int number) :: bindings) body = [(declared number).line (first + number)]) :
    texts bindings [.repeated "i" "count" body] = numbered first ((List.range count).map declared) := by
  have all : (List.range count).flatMap (fun number => texts (("i", .int (Int.ofNat number)) :: bindings) body) =
      (List.range count).map fun number => (declared number).line (first + number) := by
    rw [List.map_eq_flatMap]
    exact List.flatMap_congr fun number _ => each number
  simp only [texts, Item.texts, counted, all, List.append_nil]
  clear all counted each
  induction count with
  | zero => rfl
  | succ count ih =>
    rw [List.range_succ, List.map_append, List.map_append, numbered_append, ih]
    simp [numbered]

theorem texts_eachItem (found : bindings.lookup "binding" = some (.int first)) (offset : Nat) (name type : String)
    (number : Nat) :
    texts (("i", .int number) :: bindings) [eachItem offset name type] =
      [(⟨"", name ++ toString number, type⟩ : Resource).line (first + offset + number)] := by
  have here : (("i", Value.int number) :: bindings).lookup "i" = some (.int number) := by simp
  have there : (("i", Value.int number) :: bindings).lookup "binding" = some (.int first) := found
  refine texts_resource ?_ ?_
  · simp only [plusEach, plus, Piece.fill, Piece.render, Term.eval, here, there]
    rfl
  · have opening : "var" ++ ("" ++ " ") = "var " := rfl
    simp only [filled, List.map_cons, List.map_nil, Piece.fill_text, String.join_cons, String.join_nil,
      fill_value here, String.append_empty]
    unfold Resource.tail
    rw [← opening]
    simp only [String.append_assoc]

/-- Arrays from some place behind the first binding on. -/
def arrayItems (offset : Nat) : List (String × LightAttribute) → List Item
  | [] => []
  | part :: rest => arrayItem offset part.1 "f32" (times "count" part.2.components) :: arrayItems (offset + 1) rest

theorem texts_arrayItems (found : bindings.lookup "binding" = some (.int first))
    (counted : bindings.lookup "count" = some (.int count)) (offset : Nat) (layout : List (String × LightAttribute)) :
    texts bindings (arrayItems offset layout) = numbered (first + offset)
      (layout.map fun part => .array part.1 "f32" (count * part.2.components)) := by
  induction layout generalizing offset with
  | nil => rfl
  | cons part rest ih =>
    have one := texts_arrayItem found offset part.1 "f32" (fill_times counted part.2.components)
    have split : arrayItems offset (part :: rest) =
        [arrayItem offset part.1 "f32" (times "count" part.2.components)] ++ arrayItems (offset + 1) rest := rfl
    rw [split, texts_append, one, ih]
    rfl

end Stencil

/-! ## Resources of a chunk -/

namespace LightType

/-- The sampler and the cube maps of image-based lights. -/
def environmentItems : LightType → List Item
  | ibl => [
    resource (numberTerm 2) ["var sEnv: sampler;"],
    .repeated "i" "count" [eachItem 3 "tEnv" "texture_cube<f32>"]]
  | _ => []

/-- What stands behind the resources. -/
def helperItems (type : LightType) : List Item :=
  type.declarationItems.drop (type.layout.length + type.environmentItems.length)

theorem declarationItems_eq (type : LightType) :
    type.declarationItems = arrayItems 0 type.layout ++ type.environmentItems ++ type.helperItems := by
  cases type <;> rfl

theorem quiet_helperItems (type : LightType) (bindings : Bindings) :
    ∀ line ∈ texts bindings type.helperItems, Quiet line.toList := by
  have passes : Passes (fun rows => areClosed [] rows && rows.all isQuiet) type.helperItems := by
    cases type <;>
    · apply passes_of_spells
      · repeat' constructor
      · decide
  exact quiet_of_passes passes (by simp [Whole])

end LightType

namespace LightBucket

/-- The resources that the lights of the bucket need, in the order of their bindings. -/
def resources (bucket : LightBucket) : List Resource :=
  (bucket.type.layout.map fun part => .array part.1 "f32" (bucket.size * part.2.components)) ++
    if bucket.type = .ibl then
      ⟨"", "sEnv", "sampler"⟩ :: (List.range bucket.size).map fun index =>
        ⟨"", "tEnv" ++ toString index, "texture_cube<f32>"⟩
    else []

theorem length_resources (bucket : LightBucket) : bucket.resources.length = bucket.bindingsNeeded := by
  rw [resources, bindingsNeeded, List.length_append, List.length_map]
  split
  · simp [Nat.add_comm]
  · rfl

variable {bucket : LightBucket}

theorem repeats_count (countable : (Chunk.lightBucket bucket).Countable) (type : bucket.type = .ibl) (binding : Nat) :
    repeats (bucket.stencilBindings binding) "count" = bucket.size := by
  have few : bucket.size ≤ maxRepeats := countable type
  have small : ¬ maxCount < (bucket.size : Int) := by
    simp only [maxCount, maxRepeats] at few ⊢
    omega
  simp [repeats, countOf, stencilBindings, List.lookup_cons, Value.toInt, small, Nat.not_lt.2 few]

/-- The declarations of a bucket are those of its resources, and what reads them. -/
theorem declarationLines_eq (countable : (Chunk.lightBucket bucket).Countable) (binding : Nat) :
    bucket.declarationLines binding =
      numbered binding bucket.resources ++ texts (bucket.stencilBindings binding) bucket.type.helperItems := by
  have found : (bucket.stencilBindings binding).lookup "binding" = some (.int binding) := rfl
  have counted : (bucket.stencilBindings binding).lookup "count" = some (.int bucket.size) := rfl
  have arrays := texts_arrayItems found counted 0 bucket.type.layout
  rw [declarationLines, LightType.declarationItems_eq, texts_append, texts_append, arrays, resources, numbered_append,
    List.length_map]
  congr 2
  split
  · next type =>
    have sampler := texts_resource (fill_numberTerm found 2)
      (show filled _ ["var sEnv: sampler;"] = "var" ++ (⟨"", "sEnv", "sampler"⟩ : Resource).tail from rfl)
    have maps := texts_repeated (repeats_count countable type binding)
      (texts_eachItem found 3 "tEnv" "texture_cube<f32>")
    have split : bucket.type.environmentItems = [resource (numberTerm 2) ["var sEnv: sampler;"]] ++
        [.repeated "i" "count" [eachItem 3 "tEnv" "texture_cube<f32>"]] := by
      rw [type]
      rfl
    have length : bucket.type.layout.length = 2 := by
      rw [type]
      rfl
    rw [split, texts_append, sampler, maps, length]
    rfl
  · next type =>
    have none : bucket.type.environmentItems = [] := by
      cases other : bucket.type <;> simp_all [LightType.environmentItems]
    rw [none]
    rfl

end LightBucket

namespace ShadowPool

/-- What the maps are in code, and the sampler for them. -/
def mapType (depthTexture : Bool) : String := if depthTexture then "texture_depth_2d" else "texture_2d<f32>"

def samplerType (depthTexture : Bool) : String := if depthTexture then "sampler_comparison" else "sampler"

/-- The resources that the slots of the generated code need, in the order of their bindings. -/
def resources (pool : ShadowPool) : List Resource := [
  .array "uShadowMatrices" "mat4x4<f32>" pool.generatedCount,
  .array "uShadowTexelBiasVector" "vec4<f32>" pool.generatedCount,
  .array "uShadowMapSize" "vec2<f32>" pool.generatedCount,
  ⟨"<uniform>", "uShadowKernelRotation", "vec2<f32>"⟩,
  ⟨"", "sShadow", samplerType pool.generatedDepthTexture⟩] ++
    (List.range pool.generatedCount).map fun slot =>
      ⟨"", "tShadowMap" ++ toString slot, mapType pool.generatedDepthTexture⟩

theorem length_resources (pool : ShadowPool) : pool.resources.length = fixedBindings + pool.generatedCount := by
  simp [resources, fixedBindings]
  omega

/-- The sampler and the maps, in one of their forms. -/
def mapItems (depthTexture : Bool) : List Item := [
  resource (numberTerm 4) ["var sShadow: " ++ samplerType depthTexture ++ ";"],
  .repeated "i" "count" [eachItem 5 "tShadowMap" (mapType depthTexture)]]

/-- What stands behind the resources. -/
def helperItems : List Item := shadowDeclarations.drop 6

variable {pool : ShadowPool}

theorem whole_stencilBindings (binding : Nat) : Whole ["count", "binding"] (pool.stencilBindings binding) := by
  simp [Whole, stencilBindings, List.lookup_cons]

theorem repeats_count (countable : (Chunk.shadowPool pool).Countable) (binding : Nat) :
    repeats (pool.stencilBindings binding) "count" = pool.generatedCount := by
  have few : pool.generatedCount ≤ maxRepeats := countable
  have small : ¬ maxCount < (pool.generatedCount : Int) := by
    simp only [maxCount, maxRepeats] at few ⊢
    omega
  simp [repeats, countOf, stencilBindings, List.lookup_cons, Value.toInt, small, Nat.not_lt.2 few]

theorem test_holds {bindings : Bindings} {name : String} {passed : Bool}
    (found : bindings.lookup name = some (.switch passed)) : (Condition.holds name).test bindings = passed := by
  simp [Condition.test, Condition.eval, found, Value.holds]

/-- The form of the maps is decided once for the sampler and once for each map. -/
private theorem texts_mapItems {bindings : Bindings} {depthTexture : Bool}
    (formed : bindings.lookup "depth_texture" = some (.switch depthTexture)) :
    texts bindings ((shadowDeclarations.drop 4).take 2) = texts bindings (mapItems depthTexture) := by
  have inner : ∀ number : Int, (("i", Value.int number) :: bindings).lookup "depth_texture" =
      some (.switch depthTexture) := fun _ => formed
  simp only [shadowDeclarations, List.cons_append, List.drop_succ_cons, List.drop_zero, List.take_succ_cons,
    List.take_zero, mapItems, texts, Item.texts, test_holds formed, test_holds (inner _)]
  cases depthTexture <;> rfl

/-- The declarations of a pool are those of its resources, and what reads them. -/
theorem lines_eq (countable : (Chunk.shadowPool pool).Countable) (binding : Nat) :
    pool.lines binding =
      numbered binding pool.resources ++ texts (pool.stencilBindings binding) helperItems := by
  have found : (pool.stencilBindings binding).lookup "binding" = some (.int binding) := rfl
  have counted : (Piece.hole (value "count")).fill (pool.stencilBindings binding) = toString pool.generatedCount :=
    fill_value (show (pool.stencilBindings binding).lookup "count" = some (.int pool.generatedCount) from rfl)
  have split : shadowDeclarations = [arrayItem 0 "uShadowMatrices" "mat4x4<f32>" (value "count")] ++
      ([arrayItem 1 "uShadowTexelBiasVector" "vec4<f32>" (value "count")] ++
      ([arrayItem 2 "uShadowMapSize" "vec2<f32>" (value "count")] ++
      ([resource (numberTerm 3) ["var<uniform> uShadowKernelRotation: vec2<f32>;"]] ++
      ((shadowDeclarations.drop 4).take 2 ++ helperItems)))) := rfl
  have rotation := texts_resource (fill_numberTerm found 3)
    (show filled _ ["var<uniform> uShadowKernelRotation: vec2<f32>;"] =
      "var" ++ (⟨"<uniform>", "uShadowKernelRotation", "vec2<f32>"⟩ : Resource).tail from rfl)
  have sampler := texts_resource (fill_numberTerm found 4)
    (show filled _ ["var sShadow: " ++ samplerType pool.generatedDepthTexture ++ ";"] =
        "var" ++ (⟨"", "sShadow", samplerType pool.generatedDepthTexture⟩ : Resource).tail by
      cases pool.generatedDepthTexture <;> rfl)
  have maps := texts_repeated (repeats_count countable binding)
    (texts_eachItem found 5 "tShadowMap" (mapType pool.generatedDepthTexture))
  have sampled : mapItems pool.generatedDepthTexture =
      [resource (numberTerm 4) ["var sShadow: " ++ samplerType pool.generatedDepthTexture ++ ";"]] ++
        [.repeated "i" "count" [eachItem 5 "tShadowMap" (mapType pool.generatedDepthTexture)]] := rfl
  rw [lines, split]
  simp only [texts_append, texts_mapItems (show (pool.stencilBindings binding).lookup "depth_texture" = _ from rfl),
    sampled, rotation, sampler, maps, texts_arrayItem found _ _ _ counted]
  simp only [resources, numbered_append, numbered, List.append_assoc]
  rfl

end ShadowPool

end ShaderWeave
