import Mathlib.Data.List.Perm.Basic
import ShaderWeave.Proofs.Lighting.Declarations

/-! # Merged code

The code of a slot is made of the lines that the chunks contribute to it, in the order of the chunks. All resources are
declared in one slot, under bindings that follow each other from chunk to chunk.
-/

namespace ShaderWeave

open Stencil Code

/-! ## Slots -/

/-- The lines of one slot among those of several. -/
def linesAt (key : String) (parts : List (String × List String)) : List String :=
  (parts.filter fun part => part.1 == key).flatMap (·.2)

theorem linesAt_append (key : String) (first second : List (String × List String)) :
    linesAt key (first ++ second) = linesAt key first ++ linesAt key second := by
  simp [linesAt]

theorem linesAt_of_forall {key : String} {parts : List (String × List String)} (others : ∀ part ∈ parts, part.1 ≠ key) :
    linesAt key parts = [] := by
  have none : parts.filter (fun part => part.1 == key) = [] := by simpa [List.filter_eq_nil_iff] using others
  rw [linesAt, none, List.flatMap_nil]

/-- Lines that are sorted by their slots are the same lines in another order. -/
theorem perm_linesAt {keys : List String} (nodup : keys.Nodup) {parts : List (String × List String)}
    (known : ∀ part ∈ parts, part.1 ∈ keys) :
    (keys.flatMap fun key => linesAt key parts).Perm (parts.flatMap (·.2)) := by
  induction parts with
  | nil => simp [linesAt]
  | cons part rest ih =>
    obtain ⟨here, later⟩ := List.forall_mem_cons.1 known
    have own : (keys.flatMap fun key => if key = part.1 then part.2 else []) = part.2 := by
      clear ih known later
      induction keys with
      | nil => cases here
      | cons key others ih =>
        obtain ⟨absent, nodup⟩ := List.nodup_cons.1 nodup
        rw [List.flatMap_cons]
        rcases List.mem_cons.1 here with rfl | there
        · have none : (others.flatMap fun key => if key = part.1 then part.2 else []) = [] := by
            rw [List.flatMap_eq_nil_iff]
            exact fun key member => if_neg (ne_of_mem_of_not_mem member absent)
          rw [if_pos rfl, none, List.append_nil]
        · rw [if_neg (ne_of_mem_of_not_mem there absent).symm, List.nil_append, ih nodup there]
    have split : ∀ key, linesAt key (part :: rest) = (if key = part.1 then part.2 else []) ++ linesAt key rest := by
      intro key
      by_cases same : key = part.1 <;> simp [linesAt, same, Ne.symm]
    rw [List.flatMap_congr fun key _ => split key, List.flatMap_cons]
    refine (List.flatMap_append_perm keys _ _).symm.trans ?_
    rw [own]
    exact (ih later).append_left part.2

namespace SlotBuffer

/-- All lines of all slots. -/
def lines (slots : SlotBuffer) : List (List Char) := slots.entries.flatMap fun entry => Text.lines entry.code.toList

/-- Every slot has one entry. -/
def Distinct (slots : SlotBuffer) : Prop := (slots.entries.map (·.key)).Nodup

theorem keys_join (key code : String) (entries : List SlotCode) :
    (join key code entries).map (·.key) =
      if key ∈ entries.map (·.key) then entries.map (·.key) else entries.map (·.key) ++ [key] := by
  induction entries with
  | nil => rfl
  | cons entry rest ih =>
    by_cases here : entry.key = key
    · simp [join, here]
    · have apart : key ≠ entry.key := Ne.symm here
      rw [join, if_neg here, List.map_cons, ih]
      by_cases later : key ∈ rest.map (·.key) <;> simp [later, apart]

variable {slots : SlotBuffer}

theorem keys_add (slots : SlotBuffer) (key code : String) :
    (slots.add key code).entries.map (·.key) =
      if key ∈ slots.entries.map (·.key) then slots.entries.map (·.key) else slots.entries.map (·.key) ++ [key] :=
  keys_join key code slots.entries

theorem Distinct.addAll (distinct : slots.Distinct) (parts : List (String × List String)) :
    (slots.addAll parts).Distinct := by
  induction parts generalizing slots with
  | nil => exact distinct
  | cons part rest ih =>
    refine ih ?_
    rw [Distinct, keys_add]
    split
    · exact distinct
    · next new =>
      refine List.nodup_append.2 ⟨distinct, by simp, ?_⟩
      simpa using fun entry member => (ne_of_mem_of_not_mem (List.mem_map_of_mem member) new)

/-- The keys that got code. -/
theorem key_of_mem_addAll {parts : List (String × List String)} {entry : SlotCode}
    (member : entry ∈ (slots.addAll parts).entries) :
    entry.key ∈ slots.entries.map (·.key) ∨ entry.key ∈ parts.map (·.1) := by
  induction parts generalizing slots with
  | nil => exact .inl (List.mem_map_of_mem member)
  | cons part rest ih =>
    rcases ih member with old | later
    · rw [keys_add] at old
      split at old
      · exact .inl old
      · rcases List.mem_append.1 old with old | new
        · exact .inl old
        · exact .inr (List.mem_map.2 ⟨part, List.mem_cons_self .., (List.mem_singleton.1 new).symm⟩)
    · exact .inr (List.mem_cons_of_mem _ later)

theorem mem_keys_addAll {parts : List (String × List String)} {key : String}
    (member : key ∈ slots.entries.map (·.key) ∨ key ∈ parts.map (·.1)) :
    key ∈ (slots.addAll parts).entries.map (·.key) := by
  induction parts generalizing slots with
  | nil => exact member.resolve_right (by simp)
  | cons part rest ih =>
    refine ih ?_
    rw [keys_add]
    rcases member with old | new
    · left
      split
      · exact old
      · exact List.mem_append_left _ old
    · rcases List.mem_cons.1 new with rfl | later
      · left
        split
        · assumption
        · exact List.mem_append_right _ (List.mem_singleton_self _)
      · exact .inr later

theorem Distinct.get?_of_mem (distinct : slots.Distinct) {entry : SlotCode} (member : entry ∈ slots.entries) :
    slots.get? entry.key = some entry.code := by
  obtain ⟨entries, fragmentCount, stamp, bindingCount⟩ := slots
  simp only [Distinct, get?] at distinct member ⊢
  induction entries with
  | nil => cases member
  | cons first rest ih =>
    obtain ⟨absent, distinct⟩ := List.nodup_cons.1 distinct
    rcases List.mem_cons.1 member with rfl | later
    · simp
    · have apart : first.key ≠ entry.key := (ne_of_mem_of_not_mem (List.mem_map_of_mem later) absent).symm
      rw [List.find?_cons_of_neg (by simpa using apart)]
      exact ih distinct later

/-- The code of a slot ends with all the lines contributed to it. -/
theorem get?_addAll (slots : SlotBuffer) (key : String) (parts : List (String × List String)) :
    ((slots.addAll parts).get? key).getD "" = (slots.get? key).getD "" ++ unlines (linesAt key parts) := by
  induction parts generalizing slots with
  | nil => exact String.append_empty.symm
  | cons part rest ih =>
    have later := ih (slots.add part.1 (unlines part.2))
    rw [get?_add] at later
    refine later.trans ?_
    by_cases here : key = part.1
    · have own : linesAt key (part :: rest) = part.2 ++ linesAt key rest := by simp [linesAt, here]
      rw [own, if_pos here, here, Option.getD_some, unlines_append, String.append_assoc]
    · have other : linesAt key (part :: rest) = linesAt key rest := by simp [linesAt, Ne.symm here]
      rw [other, if_neg here]

end SlotBuffer

namespace Chunk

variable {chunks : List Chunk}

theorem get?_filledSlots (chunks : List Chunk) (key : String) :
    ((filledSlots chunks).get? key).getD "" = unlines (linesAt key (printedAll 0 chunks)) :=
  (SlotBuffer.get?_addAll _ key (printedAll 0 chunks)).trans String.empty_append

theorem distinct_filledSlots (chunks : List Chunk) : (filledSlots chunks).Distinct := by
  have fresh : ((SlotBuffer.stamped (joinedHash chunks)).reserve (reservedAll chunks)).2.Distinct := List.nodup_nil
  exact fresh.addAll (printedAll 0 chunks)

/-- An entry has the lines of its slot, and some chunk contributed to it. -/
theorem code_of_mem_filledSlots {entry : SlotCode} (member : entry ∈ (filledSlots chunks).entries) :
    entry.code = unlines (linesAt entry.key (printedAll 0 chunks)) ∧
      entry.key ∈ (printedAll 0 chunks).map (·.1) := by
  have code := get?_filledSlots chunks entry.key
  rw [(distinct_filledSlots chunks).get?_of_mem member, Option.getD_some] at code
  exact ⟨code, (SlotBuffer.key_of_mem_addAll member).resolve_left (by simp [SlotBuffer.reserve, SlotBuffer.stamped])⟩

/-- Without breaks inside of lines, the slots have all the lines that were contributed. -/
theorem lines_filledSlots (oneLine : ∀ line ∈ (printedAll 0 chunks).flatMap (·.2), '\n' ∉ line.toList ∧ '\r' ∉ line.toList) :
    (filledSlots chunks).lines.Perm (((printedAll 0 chunks).flatMap (·.2)).map String.toList) := by
  have each : ∀ entry ∈ (filledSlots chunks).entries,
      Text.lines entry.code.toList = (linesAt entry.key (printedAll 0 chunks)).map String.toList := by
    intro entry member
    rw [(code_of_mem_filledSlots member).1]
    refine Text.lines_unlines fun line inside => oneLine line ?_
    obtain ⟨part, isPart, inside⟩ := List.mem_flatMap.1 inside
    exact List.mem_flatMap.2 ⟨part, (List.mem_filter.1 isPart).1, inside⟩
  have known : ∀ part ∈ printedAll 0 chunks, part.1 ∈ (filledSlots chunks).entries.map (·.key) := fun part member =>
    SlotBuffer.mem_keys_addAll (.inr (List.mem_map_of_mem member))
  have sorted := perm_linesAt (distinct_filledSlots chunks) known
  rw [List.flatMap_map] at sorted
  rw [SlotBuffer.lines, List.flatMap_congr each, ← List.map_flatMap]
  exact sorted.map _

theorem bindingCount_filledSlots (chunks : List Chunk) : (filledSlots chunks).bindingCount = reservedAll chunks :=
  (SlotBuffer.bindingCount_addAll ..).trans (Nat.zero_add _)

/-! ## Resources of a chunk -/

variable {chunk : Chunk}

/-- The resources that the chunk declares. -/
def resources : Chunk → List Resource
  | shadowPool pool => if pool.generatedCount = 0 then [] else pool.resources
  | lightBucket bucket => if bucket.isEmpty then [] else bucket.resources
  | _ => []

theorem length_resources (chunk : Chunk) : chunk.resources.length = chunk.reserved := by
  cases chunk with
  | shadowPool pool =>
    rw [resources, reserved]
    split
    · rfl
    · exact pool.length_resources
  | lightBucket bucket =>
    rw [resources, reserved]
    split
    · rfl
    · exact bucket.length_resources
  | _ => rfl

end Chunk

/-! ## Spelling of the resources -/

theorem LightType.word_of_mem_layout (type : LightType) : ∀ part ∈ type.layout, Word part.1 := by
  cases type <;> simp only [layout, List.forall_mem_cons]
  · exact ⟨.of_spelled rfl (by decide), .of_spelled rfl (by decide), by simp⟩
  · exact ⟨.of_spelled rfl (by decide), .of_spelled rfl (by decide), .of_spelled rfl (by decide),
      .of_spelled rfl (by decide), .of_spelled rfl (by decide), by simp⟩
  · exact ⟨.of_spelled rfl (by decide), .of_spelled rfl (by decide), .of_spelled rfl (by decide), by simp⟩
  · exact ⟨.of_spelled rfl (by decide), .of_spelled rfl (by decide), by simp⟩

theorem LightBucket.plain_resources (bucket : LightBucket) : ∀ resource ∈ bucket.resources, resource.Plain := by
  intro resource member
  rcases List.mem_append.1 member with array | environment
  · obtain ⟨part, isPart, rfl⟩ := List.mem_map.1 array
    exact .array (bucket.type.word_of_mem_layout part isPart) (by simp) _
  · split at environment
    · rcases List.mem_cons.1 environment with rfl | map
      · exact ⟨by decide, .of_spelled rfl (by decide), by simp⟩
      · obtain ⟨index, -, rfl⟩ := List.mem_map.1 map
        have front : Word "tEnv" := .of_spelled rfl (by decide)
        have cube : ∀ char ∈ "texture_cube<f32>".toList, char ∉ ['@', ';', '\n', '\r'] := by simp
        exact ⟨List.mem_cons_self .., front.append_number index, cube⟩
    · cases environment

theorem ShadowPool.plain_resources (pool : ShadowPool) : ∀ resource ∈ pool.resources, resource.Plain := by
  have map : ∀ char ∈ (mapType pool.generatedDepthTexture).toList, char ∉ ['@', ';', '\n', '\r'] := by
    cases pool.generatedDepthTexture <;> simp [mapType]
  have sampler : ∀ char ∈ (samplerType pool.generatedDepthTexture).toList, char ∉ ['@', ';', '\n', '\r'] := by
    cases pool.generatedDepthTexture <;> simp [samplerType]
  have front : Word "tShadowMap" := .of_spelled rfl (by decide)
  simp only [resources, List.cons_append, List.nil_append, List.forall_mem_cons, List.forall_mem_map]
  refine ⟨.array (.of_spelled rfl (by decide)) (by simp) _, .array (.of_spelled rfl (by decide)) (by simp) _,
    .array (.of_spelled rfl (by decide)) (by simp) _, ⟨by decide, .of_spelled rfl (by decide), by simp⟩,
    ⟨List.mem_cons_self .., .of_spelled rfl (by decide), sampler⟩,
    fun slot _ => ⟨List.mem_cons_self .., front.append_number slot, map⟩⟩

end ShaderWeave
