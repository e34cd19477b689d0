import ShaderWeave.Proofs.Lighting.Hashes

/-! # Hashes of definition chunks

The hash of a flag, a choice or a stencil chunk joins names without quoting them. As the names are identifiers, it can
still be read: it tells which of the three it is from, and all of its state except for the variants that a choice does
not have chosen. The code of a choice declares these too. So chunks with the same hash generate the same code exactly
if they have the same variants, and the same holds of lists of chunks with the same joined hash.
-/

namespace ShaderWeave

/-! ## Identifiers -/

/-- Whether a text may be an identifier of the shading language. Any characters beyond ASCII are let through. -/
structure Identifier (text : String) : Prop where
  filled : text.toList ≠ []
  chars : ∀ char ∈ text.toList, char.toNat < 128 → Text.isWordChar char = true
  start : ∀ char ∈ text.toList.head?, char.isDigit = false
  /-- A single underscore is a placeholder, and two of them at the start are reserved. -/
  unreserved : text.toList ≠ ['_'] ∧ text.toList.take 2 ≠ ['_', '_']

namespace Identifier

variable {text : String}

instance : Decidable (Identifier text) :=
  decidable_of_iff
    (text.toList ≠ [] ∧ text.toList.all (fun char => 128 ≤ char.toNat || Text.isWordChar char) = true ∧
      text.toList.head?.all (!·.isDigit) = true ∧ text.toList ≠ ['_'] ∧ text.toList.take 2 ≠ ['_', '_'])
    (by
      simp only [List.all_eq_true, Bool.or_eq_true, decide_eq_true_eq, Option.all_eq_true, Bool.not_eq_true']
      constructor
      · rintro ⟨filled, chars, start, unreserved⟩
        exact ⟨filled, fun char member ascii => (chars char member).resolve_left (by omega), start, unreserved⟩
      · rintro ⟨filled, chars, start, unreserved⟩
        refine ⟨filled, fun char member => ?_, start, unreserved⟩
        by_cases ascii : char.toNat < 128
        · exact .inr (chars char member ascii)
        · exact .inl (by omega))

theorem not_mem (identifier : Identifier text) {char : Char} (ascii : char.toNat < 128)
    (foreign : Text.isWordChar char = false) : char ∉ text.toList := by
  intro member
  rw [identifier.chars char member ascii] at foreign
  cases foreign

end Identifier

namespace Chunk

/-- The chunks that declare constants or place a stencil of the library, under names that are identifiers. -/
def Defines : Chunk → Prop
  | .flag state => Identifier state.name
  | .choice state => Identifier state.name ∧ ∀ variant ∈ state.variants, Identifier variant
  | .stencil chunk => Identifier chunk.slot ∧ (Stencil.find? chunk.stencil).isSome
  | .group | .shadowPool _ | .lightBucket _ | .custom _ => False

instance : DecidablePred Defines
  | .flag state => inferInstanceAs (Decidable (Identifier state.name))
  | .choice state =>
    inferInstanceAs (Decidable (Identifier state.name ∧ ∀ variant ∈ state.variants, Identifier variant))
  | .stencil chunk => inferInstanceAs (Decidable (Identifier chunk.slot ∧ (Stencil.find? chunk.stencil).isSome))
  | .group | .shadowPool _ | .lightBucket _ | .custom _ => inferInstanceAs (Decidable False)

/-- What a choice may choose from. -/
def variants : Chunk → List String
  | .choice state => state.variants
  | _ => []

variable {chunk first second : Chunk}

/-! ## Reading a hash -/

/-- What stands in the hash before a mark. -/
def front : Chunk → List Char
  | .flag state => state.hash.toList
  | .choice state => state.name.toList
  | .stencil chunk => chunk.slot.toList
  | _ => []

/-- The mark of the hash and what stands behind it. -/
def back : Chunk → List Char
  | .choice state => '=' :: state.value.toList
  | .stencil chunk => ':' :: chunk.stencil.toList
  | _ => []

private def beforeMark (char : Char) : Bool := char != '=' && char != ':'

theorem front_append_back (defines : chunk.Defines) : chunk.hash.toList = chunk.front ++ chunk.back := by
  cases chunk with
  | flag state => simp [hash, front, back]
  | choice state => simp [hash, Choice.hash, front, back]
  | stencil chunk => simp [hash, StencilChunk.hash, front, back]
  | _ => exact defines.elim

private theorem toList_flag_hash (flag : Flag) :
    flag.hash.toList = flag.name.toList ++ [if flag.value then '1' else '0'] := by
  rw [Flag.hash, String.toList_append]
  cases flag.value <;> rfl

/-- No mark stands before the mark. -/
private theorem beforeMark_of_mem_front (defines : chunk.Defines) : ∀ char ∈ chunk.front, beforeMark char = true := by
  have apart : ∀ {text : String}, Identifier text → ∀ char ∈ text.toList, beforeMark char = true := by
    intro text identifier char member
    have eq : char ≠ '=' := fun same => identifier.not_mem (by decide) (by decide) (same ▸ member)
    have colon : char ≠ ':' := fun same => identifier.not_mem (by decide) (by decide) (same ▸ member)
    simp [beforeMark, eq, colon]
  cases chunk with
  | flag state =>
    intro char member
    rw [front, toList_flag_hash, List.mem_append] at member
    rcases member with named | digit
    · exact apart defines char named
    · obtain rfl := List.mem_singleton.1 digit
      cases state.value <;> rfl
  | choice state => exact apart defines.1
  | stencil chunk => exact apart defines.1
  | _ => exact defines.elim

private theorem beforeMark_head_back (chunk : Chunk) : ∀ char ∈ chunk.back.head?, beforeMark char = false := by
  cases chunk <;> simp [back, beforeMark]

private theorem parts_of_hash_eq (firstDefines : first.Defines) (secondDefines : second.Defines)
    (same : first.hash = second.hash) : first.front = second.front ∧ first.back = second.back := by
  have texts := congrArg String.toList same
  rw [front_append_back firstDefines, front_append_back secondDefines] at texts
  exact append_inj_of_span (beforeMark_of_mem_front firstDefines) (beforeMark_of_mem_front secondDefines)
    (beforeMark_head_back first) (beforeMark_head_back second) texts

private theorem flag_eq_of_hash_eq {first second : Flag} (same : first.hash.toList = second.hash.toList) :
    first = second := by
  obtain ⟨name, value⟩ := first
  obtain ⟨name', value'⟩ := second
  rw [toList_flag_hash, toList_flag_hash] at same
  obtain ⟨names, digits⟩ := List.append_inj' same rfl
  obtain rfl : name = name' := String.toList_inj.1 names
  cases value <;> cases value' <;> simp_all

/-- Chunks that look alike to everyone who sees their hashes: the same chunk twice, or two choices that have chosen the
same among other variants. -/
inductive Alike : Chunk → Chunk → Prop
  | refl (chunk : Chunk) : Alike chunk chunk
  | choices {first second : Choice} (names : first.name = second.name) (values : first.value = second.value) :
      Alike (.choice first) (.choice second)

theorem alike_of_hash_eq (firstDefines : first.Defines) (secondDefines : second.Defines)
    (same : first.hash = second.hash) : Alike first second := by
  obtain ⟨fronts, backs⟩ := parts_of_hash_eq firstDefines secondDefines same
  cases first with
  | flag state =>
    cases second with
    | flag state' =>
      rw [flag_eq_of_hash_eq fronts]
      exact .refl _
    | choice state' => simp [back] at backs
    | stencil chunk' => simp [back] at backs
    | _ => exact secondDefines.elim
  | choice state =>
    cases second with
    | flag state' => simp [back] at backs
    | choice state' =>
      exact .choices (String.toList_inj.1 fronts) (String.toList_inj.1 (List.cons.inj backs).2)
    | stencil chunk' => simp [back] at backs
    | _ => exact secondDefines.elim
  | stencil chunk =>
    cases second with
    | flag state' => simp [back] at backs
    | choice state' => simp [back] at backs
    | stencil chunk' =>
      have slots : chunk.slot = chunk'.slot := String.toList_inj.1 fronts
      have stencils : chunk.stencil = chunk'.stencil := String.toList_inj.1 (List.cons.inj backs).2
      obtain rfl : chunk = chunk' := by
        cases chunk
        cases chunk'
        simp_all
      exact .refl _
    | _ => exact secondDefines.elim
  | _ => exact firstDefines.elim

end Chunk

/-! ## Reading the code of a choice -/

namespace Choice

/-- How each constant of a choice begins. -/
def opening (name : String) : List Char := ("const " ++ name).toList

/-- The constants of variants, the first of which has the number `index`. -/
def constants (name : String) : Nat → List String → List Char
  | _, [] => []
  | index, variant :: rest =>
    opening name ++ '_' :: (variant.toList ++ ':' ::
      ((" u32 = " ++ toString index ++ "u;\n").toList ++ constants name (index + 1) rest))

/-- The constant of the choice. -/
def closing (name value : String) : List Char :=
  opening name ++ ':' :: (" u32 = " ++ name ++ "_" ++ value ++ ";\n").toList

private theorem toList_constants (name : String) (index : Nat) (variants : List String) :
    (String.join (variants.mapIdx fun position variant =>
      "const " ++ name ++ "_" ++ variant ++ ": u32 = " ++ toString (position + index) ++ "u;\n")).toList =
        constants name index variants := by
  induction variants generalizing index with
  | nil => simp [constants]
  | cons variant rest ih =>
    rw [List.mapIdx_cons, String.join_cons, String.toList_append]
    have later : ∀ position, position + 1 + index = position + (index + 1) := by omega
    simp only [later, ih]
    simp [constants, opening]

theorem toList_code (choice : Choice) :
    choice.code.toList = constants choice.name 0 choice.variants ++ closing choice.name choice.value := by
  rw [code, ← toList_constants]
  simp [closing, opening]

/-- Where the constants of variants end is seen from the text, as the constant of the choice has no underscore behind
the name. -/
theorem constants_append_inj {name value : String} {index : Nat} {firsts seconds : List String}
    {firstTail secondTail : List Char} (firstsPlain : ∀ variant ∈ firsts, ':' ∉ variant.toList)
    (secondsPlain : ∀ variant ∈ seconds, ':' ∉ variant.toList)
    (same : constants name index firsts ++ (closing name value ++ firstTail) =
      constants name index seconds ++ (closing name value ++ secondTail)) :
    firsts = seconds ∧ firstTail = secondTail := by
  have apart : ∀ {index variant rest tail tail'},
      closing name value ++ tail ≠ constants name index (variant :: rest) ++ tail' := by
    intro index variant rest tail tail' same
    rw [closing, constants, List.append_assoc, List.append_assoc] at same
    exact absurd (List.cons.inj (List.append_cancel_left same)).1 (by decide)
  have plain : ∀ {text : String}, ':' ∉ text.toList → ∀ char ∈ text.toList, (char != ':') = true := by
    intro text free char member
    simpa using ne_of_mem_of_not_mem member free
  induction firsts generalizing index seconds with
  | nil =>
    cases seconds with
    | nil => exact ⟨rfl, List.append_cancel_left same⟩
    | cons variant rest => exact absurd same apart
  | cons variant rest ih =>
    cases seconds with
    | nil => exact absurd same.symm apart
    | cons variant' rest' =>
      rw [List.forall_mem_cons] at firstsPlain secondsPlain
      simp only [constants, List.append_assoc, List.cons_append] at same
      have named := (List.cons.inj (List.append_cancel_left same)).2
      obtain ⟨variants, behind⟩ := append_inj_of_span (plain firstsPlain.1) (plain secondsPlain.1) (by simp) (by simp)
        named
      obtain rfl : variant = variant' := String.toList_inj.1 variants
      have later := List.append_cancel_left (List.cons.inj behind).2
      obtain ⟨rfl, tails⟩ := ih firstsPlain.2 secondsPlain.2 later
      exact ⟨rfl, tails⟩

end Choice

/-- All that was added to the definitions. -/
def SlotBuffer.declared (slots : SlotBuffer) : String := (slots.get? definitionsSlot).getD ""

namespace Chunk

variable {chunk first second : Chunk}

theorem code_append_inj {first second : Choice} (firstDefines : (choice first).Defines)
    (secondDefines : (choice second).Defines) (names : first.name = second.name) (values : first.value = second.value)
    {firstTail secondTail : List Char} (same : first.code.toList ++ firstTail = second.code.toList ++ secondTail) :
    first.variants = second.variants ∧ firstTail = secondTail := by
  have plain : ∀ {state : Choice}, (choice state).Defines → ∀ variant ∈ state.variants, ':' ∉ variant.toList :=
    fun defines variant member => (defines.2 variant member).not_mem (by decide) (by decide)
  rw [Choice.toList_code, Choice.toList_code, names, values, List.append_assoc, List.append_assoc] at same
  exact Choice.constants_append_inj (plain firstDefines) (plain secondDefines) same

/-! ## Same hash, same code -/

/-- What a chunk adds to the definitions. -/
def definitions : Chunk → String
  | .flag state => state.code
  | .choice state => state.code
  | .stencil chunk =>
    if chunk.slot = definitionsSlot then (Stencil.renderNamed chunk.stencil []).toOption.getD "" else ""
  | _ => ""

theorem declared_generate (defines : chunk.Defines) {slots after : SlotBuffer}
    (made : chunk.generate slots = .ok after) : after.declared = slots.declared ++ chunk.definitions := by
  have added : ∀ code, (slots.add definitionsSlot code).declared = slots.declared ++ code := by
    intro code
    simp [SlotBuffer.declared, SlotBuffer.get?_add]
  cases chunk with
  | flag state =>
    obtain rfl := Except.ok.inj made
    exact added _
  | choice state =>
    obtain rfl := Except.ok.inj made
    exact added _
  | stencil chunk =>
    rw [generate, StencilChunk.generate] at made
    cases rendered : Stencil.renderNamed chunk.stencil [] with
    | error cause => simp [rendered] at made
    | ok code =>
      rw [rendered] at made
      obtain rfl := Except.ok.inj made
      by_cases here : chunk.slot = definitionsSlot
      · simp [definitions, here, added, rendered, Except.toOption]
      · simp [definitions, here, SlotBuffer.declared, SlotBuffer.get?_add, Ne.symm here]
  | _ => exact defines.elim

theorem declared_foldlM {chunks : List Chunk} (define : ∀ chunk ∈ chunks, chunk.Defines) {slots after : SlotBuffer}
    (made : chunks.foldlM (fun slots chunk => chunk.generate slots) slots = .ok after) :
    after.declared = slots.declared ++ String.join (chunks.map definitions) := by
  induction chunks generalizing slots with
  | nil =>
    obtain rfl := Except.ok.inj made
    simp
  | cons chunk rest ih =>
    rw [List.forall_mem_cons] at define
    rw [List.foldlM_cons] at made
    cases here : chunk.generate slots with
    | error cause =>
      rw [here] at made
      cases made
    | ok between =>
      rw [here] at made
      rw [ih define.2 made, declared_generate define.1 here, List.map_cons, String.join_cons, String.append_assoc]

/-- Which variants chunks have that look alike is seen from what they declare together. -/
theorem variants_eq_of_definitions {firsts seconds : List Chunk}
    (pairs : List.Forall₂ (fun first second => first.Defines ∧ second.Defines ∧ Alike first second) firsts seconds)
    (same : String.join (firsts.map definitions) = String.join (seconds.map definitions)) :
    firsts.map variants = seconds.map variants := by
  induction pairs with
  | nil => rfl
  | cons here _ ih =>
    rw [List.map_cons, List.map_cons, String.join_cons, String.join_cons, ← String.toList_inj, String.toList_append,
      String.toList_append] at same
    obtain ⟨firstDefines, secondDefines, alike⟩ := here
    rw [List.map_cons, List.map_cons]
    cases alike with
    | refl chunk => rw [ih (String.toList_inj.1 (List.append_cancel_left same))]
    | choices names values =>
      obtain ⟨here, later⟩ := code_append_inj firstDefines secondDefines names values same
      rw [variants, variants, here, ih (String.toList_inj.1 later)]

theorem Alike.generate_congr (alike : Alike first second) (same : first.variants = second.variants)
    (slots : SlotBuffer) : first.generate slots = second.generate slots := by
  cases alike with
  | refl chunk => rfl
  | choices names values =>
    rw [variants, variants] at same
    rw [generate, generate, Choice.code, Choice.code, names, values, same]

/-- Chunks that look alike generate the same code exactly if they have the same variants. -/
theorem Alike.generate_eq_iff (firstDefines : first.Defines) (secondDefines : second.Defines)
    (alike : Alike first second) :
    (∀ slots, first.generate slots = second.generate slots) ↔ first.variants = second.variants := by
  refine ⟨?_, alike.generate_congr⟩
  intro agree
  cases alike with
  | refl chunk => rfl
  | choices names values =>
    have codes := congrArg SlotBuffer.declared (Except.ok.inj (agree .empty))
    rw [declared_generate firstDefines rfl, declared_generate secondDefines rfl, ← String.toList_inj,
      String.toList_append, String.toList_append] at codes
    have texts := congrArg (· ++ []) (List.append_cancel_left codes)
    exact (code_append_inj firstDefines secondDefines names values texts).1

/-! ## Joined hashes -/

private theorem bar_not_mem_of_found {name : String} (found : (Stencil.find? name).isSome) : '|' ∉ name.toList := by
  have plain : ∀ entry ∈ Stencil.library, '|' ∉ entry.1.toList := by decide
  obtain ⟨entry, listed, same⟩ := List.lookup_isSome_iff.1 found
  replace plain := plain entry listed
  rw [← beq_iff_eq.1 same, Stencil.listedName] at plain
  intro member
  -- The listed spelling turns backslashes and may drop an ending, and neither takes a bar away.
  have spelled : '|' ∈ name.toList.map fun char => if char = '\\' then '/' else char :=
    List.mem_map.2 ⟨_, member, rfl⟩
  revert plain spelled
  generalize name.toList.map _ = chars
  intro plain spelled
  split at plain
  · rename_i ends
    obtain ⟨stem, rfl⟩ := List.isSuffixOf_iff_suffix.1 ends
    rw [List.mem_append] at spelled
    rcases spelled with stemmed | ended
    · simp [stemmed] at plain
    · revert ended
      decide
  · exact plain (by simpa using spelled)

theorem Defines.separable (defines : chunk.Defines) : chunk.Separable where
  filled := by
    rw [front_append_back defines]
    cases chunk with
    | flag state => simp [front, toList_flag_hash]
    | choice state => simp [back]
    | stencil chunk => simp [back]
    | _ => exact defines.elim
  plain := by
    have named : ∀ {text : String}, Identifier text → '|' ∉ text.toList :=
      fun identifier => identifier.not_mem (by decide) (by decide)
    rw [front_append_back defines, List.mem_append, not_or]
    cases chunk with
    | flag state =>
      refine ⟨?_, by simp [back]⟩
      rw [front, toList_flag_hash]
      cases state.value <;> simp [named defines]
    | choice state =>
      have chosen : Identifier state.value := defines.2 _ (List.get_mem ..)
      exact ⟨named defines.1, by simp [back, named chosen]⟩
    | stencil chunk => exact ⟨named defines.1, by simp [back, bar_not_mem_of_found defines.2]⟩
    | _ => exact defines.elim

/-- Lists of chunks that look alike in pairs, one of which generates code, generate the same exactly if they have the
same variants. -/
theorem render_again_iff {firsts seconds : List Chunk} (same : joinedHash firsts = joinedHash seconds)
    (pairs : List.Forall₂ (fun first second => first.Defines ∧ second.Defines ∧ Alike first second) firsts seconds)
    (firstsDefine : ∀ chunk ∈ firsts, chunk.Defines) (secondsDefine : ∀ chunk ∈ seconds, chunk.Defines)
    {slots : SlotBuffer} (made : render firsts = .ok slots) :
    render seconds = .ok slots ↔ firsts.map variants = seconds.map variants := by
  constructor
  · intro remade
    have texts := declared_foldlM firstsDefine made
    rw [declared_foldlM secondsDefine remade, same, ← String.toList_inj, String.toList_append,
      String.toList_append] at texts
    exact variants_eq_of_definitions pairs (String.toList_inj.1 (List.append_cancel_left texts)).symm
  · intro variants
    rw [← List.forall₂_eq_eq_eq, List.forall₂_map_left_iff, List.forall₂_map_right_iff] at variants
    have agree := pairs.mp (fun _ _ pair same => pair.2.2.generate_congr same) variants
    rw [← render_congr same agree, made]

/-- What a hash leaves out is the variants that a choice has not chosen. Two chunks with the same hash generate the same
code exactly if they have the same variants, and two lists of chunks with the same joined hash, of which one generates
code, generate the same exactly if they have the same variants chunk by chunk. -/
theorem same_code_iff_same_variants {firsts seconds : List Chunk} (firstsDefine : ∀ chunk ∈ firsts, chunk.Defines)
    (secondsDefine : ∀ chunk ∈ seconds, chunk.Defines) :
    (∀ first ∈ firsts, ∀ second ∈ seconds, first.hash = second.hash →
      ((∀ slots, first.generate slots = second.generate slots) ↔ first.variants = second.variants)) ∧
    ∀ slots, joinedHash firsts = joinedHash seconds → render firsts = .ok slots →
      (render seconds = .ok slots ↔ firsts.map variants = seconds.map variants) := by
  have pair : ∀ first ∈ firsts, ∀ second ∈ seconds, first.hash = second.hash →
      first.Defines ∧ second.Defines ∧ Alike first second := by
    intro first isFirst second isSecond same
    have firstDefines := firstsDefine first isFirst
    have secondDefines := secondsDefine second isSecond
    exact ⟨firstDefines, secondDefines, alike_of_hash_eq firstDefines secondDefines same⟩
  constructor
  · intro first isFirst second isSecond same
    obtain ⟨firstDefines, secondDefines, alike⟩ := pair first isFirst second isSecond same
    exact alike.generate_eq_iff firstDefines secondDefines
  · intro slots same made
    have hashes := hashes_eq_of_joinedHash_eq (fun chunk member => (firstsDefine chunk member).separable)
      (fun chunk member => (secondsDefine chunk member).separable) same
    exact render_again_iff same (forall₂_of_hashes hashes pair) firstsDefine secondsDefine made

/-- A choice between `A` and another variant that has chosen `A`. -/
def modeOf (other : String) : Chunk := .choice ⟨"mode", ["A", other], 0, by simp⟩

/-- Two choices with the same hash, one between `A` and `B` and one between `A` and `C`, declare different constants. -/
theorem modes_hash_alike : ¬ ∀ first second : Chunk, first.Defines → second.Defines → first.hash = second.hash →
    ∀ slots, first.generate slots = second.generate slots := by
  intro agree
  have same := Except.ok.inj (agree (modeOf "B") (modeOf "C") (by decide +kernel) (by decide +kernel) rfl .empty)
  exact absurd same (by decide +kernel)

/-- Beside the same flag, too, they have the same joined hash and other code. -/
theorem modes_render_apart :
    (∀ other ∈ ["B", "C"], ∀ chunk ∈ [.flag ⟨"useFog", true⟩, modeOf other], chunk.Defines) ∧
    (modeOf "B").hash = (modeOf "C").hash ∧
    (¬ ∀ slots, (modeOf "B").generate slots = (modeOf "C").generate slots) ∧
    joinedHash [.flag ⟨"useFog", true⟩, modeOf "B"] = "useFog1|mode=A" ∧
    joinedHash [.flag ⟨"useFog", true⟩, modeOf "C"] = "useFog1|mode=A" ∧
    ∃ slots, render [.flag ⟨"useFog", true⟩, modeOf "B"] = .ok slots ∧
      render [.flag ⟨"useFog", true⟩, modeOf "C"] ≠ .ok slots := by
  have define : ∀ other ∈ ["B", "C"], ∀ chunk ∈ [.flag ⟨"useFog", true⟩, modeOf other], chunk.Defines := by
    decide +kernel
  have apart : (modeOf "B").variants ≠ (modeOf "C").variants := by decide
  obtain ⟨chunks, lists⟩ := same_code_iff_same_variants (define "B" (by simp)) (define "C" (by simp))
  have same := chunks (modeOf "B") (by simp) (modeOf "C") (by simp) rfl
  refine ⟨define, rfl, mt same.1 apart, rfl, rfl, _, rfl, ?_⟩
  rw [Ne, lists _ rfl rfl]
  intro variants
  exact apart (List.cons.inj (List.cons.inj variants).2).1

end Chunk

end ShaderWeave
