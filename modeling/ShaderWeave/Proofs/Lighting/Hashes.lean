import Mathlib.Data.List.Forall2
import ShaderWeave.Chunk
import ShaderWeave.Text.Blank

/-! # Hashes of the chunks of light models

The hash of such a chunk is a word of letters with a tail behind it. The word tells what the chunk is, the tail tells
its state as far as the code goes, and both can be read back. So chunks with the same hash generate the same code, and
so do lists of chunks with the same joined hash.
-/

namespace ShaderWeave

/-! ## Reading texts back -/

/-- Where a run of characters of one class ends is seen from the text. -/
theorem append_inj_of_span {inside : Char → Bool} {first second firstTail secondTail : List Char}
    (firsts : ∀ char ∈ first, inside char = true) (seconds : ∀ char ∈ second, inside char = true)
    (firstEnds : ∀ char ∈ firstTail.head?, inside char = false)
    (secondEnds : ∀ char ∈ secondTail.head?, inside char = false)
    (same : first ++ firstTail = second ++ secondTail) : first = second ∧ firstTail = secondTail := by
  have span : ∀ {run tail : List Char}, (∀ char ∈ run, inside char = true) →
      (∀ char ∈ tail.head?, inside char = false) → (run ++ tail).takeWhile inside = run := by
    intro run tail runs ends
    rw [List.takeWhile_append_of_pos runs]
    cases tail with
    | nil => simp
    | cons char rest => simp [ends char rfl]
  have runs : first = second := by
    rw [← span firsts firstEnds, same, span seconds secondEnds]
  subst runs
  exact ⟨rfl, List.append_cancel_left same⟩

theorem toList_toString (number : Nat) : (toString number).toList = Nat.toDigits 10 number := by
  rw [Nat.toString_eq_repr, Nat.toList_repr]

private theorem isDigit_of_mem_digits {number : Nat} {char : Char} (member : char ∈ Nat.toDigits 10 number) :
    char.isDigit = true :=
  Nat.isDigit_of_mem_toDigits (by decide) (by decide) member

private theorem digits_inj {first second : Nat} (same : Nat.toDigits 10 first = Nat.toDigits 10 second) :
    first = second := by
  rw [← @Nat.ofDigitChars_ten_toDigits first, same, Nat.ofDigitChars_ten_toDigits]

theorem toList_toString_inj {first second : Nat} (same : (toString first).toList = (toString second).toList) :
    first = second := by
  rw [toList_toString, toList_toString] at same
  exact digits_inj same

private theorem number_append_inj {first second : Nat} {firstTail secondTail : List Char}
    (firstEnds : ∀ char ∈ firstTail.head?, char.isDigit = false)
    (secondEnds : ∀ char ∈ secondTail.head?, char.isDigit = false)
    (same : Nat.toDigits 10 first ++ firstTail = Nat.toDigits 10 second ++ secondTail) :
    first = second ∧ firstTail = secondTail := by
  obtain ⟨digits, tails⟩ := append_inj_of_span (fun _ => isDigit_of_mem_digits) (fun _ => isDigit_of_mem_digits)
    firstEnds secondEnds same
  exact ⟨digits_inj digits, tails⟩

private theorem isAlpha_of_isDigit {char : Char} (digit : char.isDigit = true) : char.isAlpha = false := by
  rw [Text.isDigit_iff] at digit
  rw [← Bool.not_eq_true, Text.isAlpha_iff]
  omega

/-! ## Buckets -/

namespace LightBucket

/-- The slots in the hash of a bucket whose first light has the number `index`. -/
def slotMarks : Nat → List (Option Nat) → List Char
  | _, [] => []
  | index, none :: rest => slotMarks (index + 1) rest
  | index, some slot :: rest =>
    ',' :: (Nat.toDigits 10 index ++ ':' :: (Nat.toDigits 10 slot ++ slotMarks (index + 1) rest))

private theorem toList_marks (index : Nat) (slots : List (Option Nat)) :
    (String.join (slots.mapIdx fun position slot =>
      match slot with
      | some slot => "," ++ toString (position + index) ++ ":" ++ toString slot
      | none => "")).toList = slotMarks index slots := by
  induction slots generalizing index with
  | nil => simp [slotMarks]
  | cons slot rest ih =>
    rw [List.mapIdx_cons, String.join_cons, String.toList_append]
    have later : ∀ position, position + 1 + index = position + (index + 1) := by omega
    simp only [later, ih]
    cases slot with
    | none => rfl
    | some slot => simp [slotMarks]

theorem toList_hash (bucket : LightBucket) :
    bucket.hash.toList =
      bucket.type.tag.toList ++ (Nat.toDigits 10 bucket.size ++ slotMarks 0 bucket.shadowSlots) := by
  rw [hash, String.toList_append, String.toList_append, toList_toString, List.append_assoc, ← toList_marks]
  rfl

/-- Marks are empty, or begin with one of a later light. -/
private theorem slotMarks_cases (index : Nat) (slots : List (Option Nat)) :
    slotMarks index slots = [] ∨
      ∃ later tail, index ≤ later ∧ slotMarks index slots = ',' :: (Nat.toDigits 10 later ++ ':' :: tail) := by
  induction slots generalizing index with
  | nil => exact .inl rfl
  | cons slot rest ih =>
    cases slot with
    | some slot => exact .inr ⟨index, _, Nat.le_refl index, rfl⟩
    | none =>
      rcases ih (index + 1) with none | ⟨later, tail, le, marks⟩
      · exact .inl none
      · exact .inr ⟨later, tail, by omega, marks⟩

private theorem slotMarks_head (index : Nat) (slots : List (Option Nat)) :
    ∀ char ∈ (slotMarks index slots).head?, char.isDigit = false := by
  rcases slotMarks_cases index slots with none | ⟨later, tail, -, marks⟩
  · simp [none]
  · rw [marks]
    rintro char ⟨⟩
    rfl

/-- A light without a slot leaves no mark, and the marks of later lights tell that it was skipped. -/
private theorem slotMarks_skip {index slot : Nat} {rest other : List (Option Nat)} :
    slotMarks index (some slot :: rest) ≠ slotMarks index (none :: other) := by
  intro same
  rw [slotMarks, slotMarks] at same
  rcases slotMarks_cases (index + 1) other with none | ⟨later, tail, le, marks⟩
  · simp [none] at same
  · rw [marks] at same
    have numbers := (number_append_inj (by simp) (by simp) (List.cons.inj same).2).1
    omega

theorem slotMarks_inj {index : Nat} {first second : List (Option Nat)} (sizes : first.length = second.length)
    (same : slotMarks index first = slotMarks index second) : first = second := by
  induction first generalizing index second with
  | nil => exact (List.length_eq_zero_iff.1 sizes.symm).symm
  | cons slot rest ih =>
    cases second with
    | nil => simp at sizes
    | cons slot' rest' =>
      replace sizes : rest.length = rest'.length := by simpa using sizes
      cases slot with
      | none =>
        cases slot' with
        | none =>
          have rests : slotMarks (index + 1) rest = slotMarks (index + 1) rest' := same
          rw [ih sizes rests]
        | some slot' => exact absurd same.symm slotMarks_skip
      | some slot =>
        cases slot' with
        | none => exact absurd same slotMarks_skip
        | some slot' =>
          have behind := (number_append_inj (by simp) (by simp) (List.cons.inj same).2).2
          obtain ⟨slots, rests⟩ :=
            number_append_inj (slotMarks_head _ _) (slotMarks_head _ _) (List.cons.inj behind).2
          rw [slots, ih sizes rests]

theorem length_shadowSlots (bucket : LightBucket) : bucket.shadowSlots.length = bucket.size := List.length_map ..

theorem size_congr {first second : LightBucket} (slots : first.shadowSlots = second.shadowSlots) :
    first.size = second.size := by
  rw [← length_shadowSlots, slots, length_shadowSlots]

/-- The code of a bucket depends on its type and on the slots of its lights. -/
theorem generate_congr {first second : LightBucket} (type : first.type = second.type)
    (slots : first.shadowSlots = second.shadowSlots) (buffer : SlotBuffer) :
    first.generate buffer = second.generate buffer := by
  have size := size_congr slots
  have isEmpty : first.isEmpty = second.isEmpty := by
    simpa [shadowSlots, LightBucket.isEmpty] using congrArg List.isEmpty slots
  simp only [generate, isEmpty, bindingsNeeded, codeFrom, type, size, slots]

end LightBucket

/-! ## Words and tails -/

namespace Chunk

/-- The chunks that light models make, in any of their states. -/
def LightCode : Chunk → Prop
  | .flag state => state.name = "iblShadowing"
  | .choice state =>
    (state.name = "shadowFilter" ∧ state.variants = ShadowFiltering.variants) ∨
      (state.name = "depthFormat" ∧ state.variants = DepthFormat.variants)
  | .stencil chunk =>
    chunk.slot = LightBucket.lightsSlot ∧
      (chunk.stencil = "lights/pre-light-setup" ∨ chunk.stencil = "lights/post-light-setup")
  | .shadowPool _ | .lightBucket _ => True
  | .group | .custom _ => False

/-- What a chunk of a light model is. -/
def word : Chunk → String
  | .flag state => state.name
  | .choice state => state.name
  | .stencil chunk => chunk.slot
  | .shadowPool _ => "shadows"
  | .lightBucket bucket => bucket.type.tag
  | .group | .custom _ => ""

/-- The state of a chunk as its hash tells it. -/
def tail : Chunk → List Char
  | .flag state => if state.value then ['1'] else ['0']
  | .choice state => '=' :: state.value.toList
  | .stencil chunk => ':' :: chunk.stencil.toList
  | .shadowPool pool =>
    Nat.toDigits 10 pool.generatedCount ++
      if pool.generatedCount = 0 then [] else if pool.generatedDepthTexture then ['d'] else ['r']
  | .lightBucket bucket => Nat.toDigits 10 bucket.size ++ LightBucket.slotMarks 0 bucket.shadowSlots
  | .group | .custom _ => []

variable {chunk first second : Chunk}

theorem toList_hash (light : chunk.LightCode) : chunk.hash.toList = chunk.word.toList ++ chunk.tail := by
  cases chunk with
  | flag state =>
    rw [hash, Flag.hash, String.toList_append, word, tail]
    cases state.value <;> rfl
  | choice state => simp [hash, Choice.hash, word, tail]
  | stencil chunk => simp [hash, StencilChunk.hash, word, tail]
  | shadowPool pool =>
    rw [hash, ShadowPool.hash]
    by_cases none : pool.generatedCount = 0
    · simp only [none, if_true, word, tail]
      rfl
    · simp only [none, if_false, String.toList_append, toList_toString, word, tail, List.append_assoc]
      cases pool.generatedDepthTexture <;> rfl
  | lightBucket bucket => exact bucket.toList_hash
  | group => exact light.elim
  | custom chunk => exact light.elim

theorem isAlpha_of_mem_word (light : chunk.LightCode) : ∀ char ∈ chunk.word.toList, char.isAlpha = true := by
  have all : chunk.word.toList.all Char.isAlpha = true := by
    cases chunk with
    | flag state => rw [word, show state.name = _ from light]; decide
    | choice state => rcases light with ⟨name, -⟩ | ⟨name, -⟩ <;> rw [word, name] <;> decide
    | stencil chunk => rw [word, light.1]; decide
    | shadowPool pool => rw [word]; decide
    | lightBucket bucket => rw [word]; cases bucket.type <;> decide
    | group => exact light.elim
    | custom chunk => exact light.elim
  exact List.all_eq_true.1 all

private theorem digits_head (number : Nat) (behind : List Char) :
    ∀ char ∈ (Nat.toDigits 10 number ++ behind).head?, char.isAlpha = false := by
  obtain ⟨first, rest, digits⟩ := List.exists_cons_of_ne_nil (@Nat.toDigits_ne_nil number 10)
  rw [digits]
  rintro _ ⟨⟩
  exact isAlpha_of_isDigit (isDigit_of_mem_digits (digits ▸ List.mem_cons_self ..))

theorem tail_head (chunk : Chunk) : ∀ char ∈ chunk.tail.head?, char.isAlpha = false := by
  cases chunk with
  | flag state =>
    rw [tail]
    split <;>
      · rintro _ ⟨⟩
        rfl
  | choice state => simp [tail]
  | stencil chunk => simp [tail]
  | shadowPool pool => exact digits_head _ _
  | lightBucket bucket => exact digits_head _ _
  | group => simp [tail]
  | custom chunk => simp [tail]

/-- Word and tail can be read from the hash. -/
theorem word_tail_of_hash_eq (firstLight : first.LightCode) (secondLight : second.LightCode)
    (same : first.hash = second.hash) : first.word = second.word ∧ first.tail = second.tail := by
  have texts := congrArg String.toList same
  rw [toList_hash firstLight, toList_hash secondLight] at texts
  obtain ⟨words, tails⟩ := append_inj_of_span (isAlpha_of_mem_word firstLight) (isAlpha_of_mem_word secondLight)
    (tail_head first) (tail_head second) texts
  exact ⟨String.toList_inj.1 words, tails⟩

/-! ## Same hash, same code -/

private def kindOfWord (word : String) : ChunkKind :=
  if word = "iblShadowing" then .flag
  else if word = "shadowFilter" ∨ word = "depthFormat" then .choice
  else if word = LightBucket.lightsSlot then .stencil
  else if word = "shadows" then .shadowPool
  else .lightBucket

private theorem kind_eq (light : chunk.LightCode) : chunk.kind = kindOfWord chunk.word := by
  cases chunk with
  | flag state => rw [word, show state.name = _ from light]; rfl
  | choice state => rcases light with ⟨name, -⟩ | ⟨name, -⟩ <;> rw [word, name] <;> rfl
  | stencil chunk => rw [word, light.1]; rfl
  | shadowPool pool => rfl
  | lightBucket bucket => rw [word]; cases bucket.type <;> rfl
  | group => exact light.elim
  | custom chunk => exact light.elim

private theorem flag_eq {first second : Flag} (names : first.name = second.name)
    (tails : (flag first).tail = (flag second).tail) : first = second := by
  obtain ⟨name, value⟩ := first
  obtain ⟨name', value'⟩ := second
  obtain rfl : name = name' := names
  cases value <;> cases value' <;> simp_all [tail]

private theorem choice_code_eq {first second : Choice} (firstLight : (choice first).LightCode)
    (secondLight : (choice second).LightCode) (names : first.name = second.name) (values : first.value = second.value) :
    first.code = second.code := by
  have variants : first.variants = second.variants := by
    rcases firstLight with ⟨name, variants⟩ | ⟨name, variants⟩ <;>
      rcases secondLight with ⟨name', variants'⟩ | ⟨name', variants'⟩ <;> simp_all
  rw [Choice.code, Choice.code, names, values, variants]

/-- From the tail of a pool, the number of its slots can be read, and the form of the maps if there are any. -/
theorem generated_eq_of_tail_eq {first second : ShadowPool}
    (tails : (shadowPool first).tail = (shadowPool second).tail) :
    first.generatedCount = second.generatedCount ∧
      (second.generatedCount ≠ 0 → first.generatedDepthTexture = second.generatedDepthTexture) := by
  have ends : ∀ pool : ShadowPool, ∀ char ∈ (if pool.generatedCount = 0 then []
      else if pool.generatedDepthTexture then ['d'] else ['r']).head?, char.isDigit = false := by
    intro pool
    split
    · simp
    · split <;>
        · rintro _ ⟨⟩
          rfl
  obtain ⟨counts, forms⟩ := number_append_inj (ends first) (ends second) tails
  refine ⟨counts, fun busy => ?_⟩
  simp only [counts, busy, if_false] at forms
  cases form : first.generatedDepthTexture <;> cases form' : second.generatedDepthTexture <;> simp_all

private theorem pool_generate_eq {first second : ShadowPool}
    (tails : (shadowPool first).tail = (shadowPool second).tail) (slots : SlotBuffer) :
    first.generate slots = second.generate slots := by
  obtain ⟨counts, forms⟩ := generated_eq_of_tail_eq tails
  rw [ShadowPool.generate, ShadowPool.generate, counts]
  by_cases none : second.generatedCount = 0
  · simp only [none, if_true]
  · simp only [forms none]

/-- From the tail of a bucket, the slots of its lights can be read. -/
theorem shadowSlots_eq_of_tail_eq {first second : LightBucket}
    (tails : (lightBucket first).tail = (lightBucket second).tail) : first.shadowSlots = second.shadowSlots := by
  obtain ⟨sizes, marks⟩ := number_append_inj (LightBucket.slotMarks_head _ _) (LightBucket.slotMarks_head _ _) tails
  refine LightBucket.slotMarks_inj ?_ marks
  rw [LightBucket.length_shadowSlots, LightBucket.length_shadowSlots, sizes]

private theorem bucket_generate_eq {first second : LightBucket} (tags : first.type.tag = second.type.tag)
    (tails : (lightBucket first).tail = (lightBucket second).tail) (slots : SlotBuffer) :
    first.generate slots = second.generate slots := by
  have type : first.type = second.type := by
    cases type : first.type <;> cases type' : second.type <;> simp_all [LightType.tag]
  exact LightBucket.generate_congr type (shadowSlots_eq_of_tail_eq tails) slots

/-- Chunks of light models with the same hash generate the same code. -/
theorem generate_congr_of_hash (firstLight : first.LightCode) (secondLight : second.LightCode)
    (same : first.hash = second.hash) (slots : SlotBuffer) : first.generate slots = second.generate slots := by
  obtain ⟨words, tails⟩ := word_tail_of_hash_eq firstLight secondLight same
  have kinds : first.kind = second.kind := by rw [kind_eq firstLight, kind_eq secondLight, words]
  cases first with
  | flag state =>
    cases second with
    | flag state' => rw [flag_eq words tails]
    | _ => cases kinds
  | choice state =>
    cases second with
    | choice state' =>
      have values := String.toList_inj.1 (List.cons.inj tails).2
      rw [generate, generate, choice_code_eq firstLight secondLight words values]
    | _ => cases kinds
  | stencil chunk =>
    cases second with
    | stencil chunk' =>
      have stencils := String.toList_inj.1 (List.cons.inj tails).2
      have chunks : chunk = chunk' := by
        cases chunk
        cases chunk'
        simp_all [word]
      rw [chunks]
    | _ => cases kinds
  | shadowPool pool =>
    cases second with
    | shadowPool pool' => exact pool_generate_eq tails slots
    | _ => cases kinds
  | lightBucket bucket =>
    cases second with
    | lightBucket bucket' => exact bucket_generate_eq words tails slots
    | _ => cases kinds
  | group => exact firstLight.elim
  | custom chunk => exact firstLight.elim

/-! ## Joined hashes -/

theorem tail_ne_nil (light : chunk.LightCode) : chunk.tail ≠ [] := by
  cases chunk with
  | flag state => cases value : state.value <;> simp [tail, value]
  | choice state => simp [tail]
  | stencil chunk => simp [tail]
  | shadowPool pool => simp [tail, Nat.toDigits_ne_nil]
  | lightBucket bucket => simp [tail, Nat.toDigits_ne_nil]
  | group => exact light.elim
  | custom chunk => exact light.elim

private theorem bar_not_mem_digits (number : Nat) : '|' ∉ Nat.toDigits 10 number := by
  intro member
  have digit := isDigit_of_mem_digits member
  contradiction

private theorem bar_not_mem_slotMarks (index : Nat) (slots : List (Option Nat)) :
    '|' ∉ LightBucket.slotMarks index slots := by
  induction slots generalizing index with
  | nil => simp [LightBucket.slotMarks]
  | cons slot rest ih => cases slot <;> simp [LightBucket.slotMarks, bar_not_mem_digits, ih]

private theorem bar_not_mem_value {choice : Choice} (light : (Chunk.choice choice).LightCode) :
    '|' ∉ choice.value.toList := by
  have member : choice.value ∈ choice.variants := List.get_mem ..
  have plain : ∀ variant ∈ ShadowFiltering.variants ++ DepthFormat.variants, '|' ∉ variant.toList := by decide
  rcases light with ⟨-, variants⟩ | ⟨-, variants⟩
  · exact plain _ (List.mem_append_left _ (variants ▸ member))
  · exact plain _ (List.mem_append_right _ (variants ▸ member))

/-- What separates hashes is in none of them. -/
theorem bar_not_mem_hash (light : chunk.LightCode) : '|' ∉ chunk.hash.toList := by
  rw [toList_hash light, List.mem_append, not_or]
  constructor
  · intro member
    have letter := isAlpha_of_mem_word light _ member
    contradiction
  · cases chunk with
    | flag state => cases value : state.value <;> simp [tail, value]
    | choice state => simpa [tail] using bar_not_mem_value light
    | stencil chunk => rcases light.2 with stencil | stencil <;> rw [tail, stencil] <;> decide
    | shadowPool pool =>
      rw [tail, List.mem_append, not_or]
      refine ⟨bar_not_mem_digits _, ?_⟩
      split
      · simp
      · split <;> simp
    | lightBucket bucket =>
      rw [tail, List.mem_append, not_or]
      exact ⟨bar_not_mem_digits _, bar_not_mem_slotMarks _ _⟩
    | group => exact light.elim
    | custom chunk => exact light.elim

/-- The parts of a join that are not empty. -/
private theorem parts_of_join {texts : List String} (plain : ∀ text ∈ texts, '|' ∉ text.toList)
    (filled : ∀ text ∈ texts, text.toList ≠ []) :
    ((String.intercalate "|" texts).toList.splitOn '|').filter (!·.isEmpty) = texts.map String.toList := by
  rw [String.toList_intercalate]
  by_cases none : texts = []
  · subst none
    rfl
  · have parts : (['|'].intercalate (texts.map String.toList)).splitOn '|' = texts.map String.toList :=
      List.splitOn_intercalate '|' (by simpa using plain) (by simpa using none)
    have kept : ∀ part ∈ texts.map String.toList, (!part.isEmpty) = true := by
      intro part member
      obtain ⟨text, isText, rfl⟩ := List.mem_map.1 member
      simp [filled text isText]
    rw [show "|".toList = ['|'] from rfl, parts, List.filter_eq_self.2 kept]

/-- Hashes of some chunks, joined as in the hash of a collection. -/
def joinedHash (chunks : List Chunk) : String := String.intercalate "|" (chunks.map hash)

/-- A hash that stands in joins so that it can be read from them. -/
structure Separable (chunk : Chunk) : Prop where
  filled : chunk.hash.toList ≠ []
  plain : '|' ∉ chunk.hash.toList

theorem LightCode.separable (light : chunk.LightCode) : chunk.Separable where
  filled := by
    rw [toList_hash light]
    exact List.append_ne_nil_of_right_ne_nil _ (tail_ne_nil light)
  plain := bar_not_mem_hash light

variable {firsts seconds : List Chunk}

/-- The hashes can be read from their join. -/
theorem hashes_eq_of_joinedHash_eq (firstsSeparable : ∀ chunk ∈ firsts, chunk.Separable)
    (secondsSeparable : ∀ chunk ∈ seconds, chunk.Separable) (same : joinedHash firsts = joinedHash seconds) :
    firsts.map hash = seconds.map hash := by
  have parts : ∀ chunks : List Chunk, (∀ chunk ∈ chunks, chunk.Separable) →
      ((joinedHash chunks).toList.splitOn '|').filter (!·.isEmpty) = (chunks.map hash).map String.toList := by
    intro chunks separable
    apply parts_of_join
    · intro text member
      obtain ⟨chunk, isChunk, rfl⟩ := List.mem_map.1 member
      exact (separable chunk isChunk).plain
    · intro text member
      obtain ⟨chunk, isChunk, rfl⟩ := List.mem_map.1 member
      exact (separable chunk isChunk).filled
  have texts := parts firsts firstsSeparable
  rw [same, parts seconds secondsSeparable] at texts
  exact (List.map_inj_right fun _ _ => String.toList_inj.1).1 texts.symm

/-- What follows for two chunks from their hashes holds pairwise where the hashes are those of two lists. -/
theorem forall₂_of_hashes {agree : Chunk → Chunk → Prop} (hashes : firsts.map hash = seconds.map hash)
    (follows : ∀ first ∈ firsts, ∀ second ∈ seconds, first.hash = second.hash → agree first second) :
    List.Forall₂ agree firsts seconds := by
  have pairs : List.Forall₂ (fun first second => first.hash = second.hash) firsts seconds := by
    rw [← List.forall₂_eq_eq_eq, List.forall₂_map_left_iff, List.forall₂_map_right_iff] at hashes
    exact hashes
  refine List.forall₂_iff_zip.2 ⟨pairs.length_eq, ?_⟩
  intro first second member
  obtain ⟨isFirst, isSecond⟩ := List.of_mem_zip member
  exact follows first isFirst second isSecond ((List.forall₂_iff_zip.1 pairs).2 member)

/-- Code of some chunks, one after the other, stamped with their joined hashes. -/
def render (chunks : List Chunk) : Except AssemblyError SlotBuffer :=
  chunks.foldlM (fun slots chunk => chunk.generate slots) (SlotBuffer.stamped (joinedHash chunks))

/-- Chunks that agree pairwise generate the same, one after the other. -/
theorem render_congr (same : joinedHash firsts = joinedHash seconds)
    (agree : List.Forall₂ (fun first second => ∀ slots, first.generate slots = second.generate slots) firsts seconds) :
    render firsts = render seconds := by
  rw [render, render, same]
  generalize SlotBuffer.stamped (joinedHash seconds) = slots
  clear same
  induction agree generalizing slots with
  | nil => rfl
  | cons here _ ih =>
    rw [List.foldlM_cons, List.foldlM_cons, here]
    exact congrArg _ (funext ih)

/-- Whoever knows the joined hashes knows the code. -/
theorem render_eq_of_joinedHash_eq (firstsLight : ∀ chunk ∈ firsts, chunk.LightCode)
    (secondsLight : ∀ chunk ∈ seconds, chunk.LightCode) (same : joinedHash firsts = joinedHash seconds) :
    render firsts = render seconds := by
  have hashes := hashes_eq_of_joinedHash_eq (fun chunk member => (firstsLight chunk member).separable)
    (fun chunk member => (secondsLight chunk member).separable) same
  refine render_congr same (forall₂_of_hashes hashes ?_)
  intro first isFirst second isSecond hash
  exact generate_congr_of_hash (firstsLight first isFirst) (secondsLight second isSecond) hash

end Chunk

end ShaderWeave
