import ShaderWeave.Proofs.Lighting.Contributions
import ShaderWeave.Proofs.Program.Bindings
import ShaderWeave.Proofs.Template.Markers

/-! # Variables of the lit surface

With the code of light models in its slots, the standard template declares its own variables and the resources of
the models.
-/

namespace ShaderWeave

open Stencil Code

/-- The variables of module scope in a text, with their types. -/
def Code.globals (text : String) : List (String × List Char) := (Text.lines text.toList).filterMap global?

namespace Template

/-! ## Templates with some slots -/

/-- Whether the lines of a template have no breaks, these slots and these variables. -/
def isMade (slots : List (List Char)) (own : List (String × List Char)) (lines : List (List Char)) : Bool :=
  lines.all (fun line => Marker.isClear line && !line.contains '\n' && !line.contains '\r') &&
    (lines.filterMap Marker.slotOf? == slots &&
      lines.filterMap (fun line => if (Marker.slotOf? line).isSome then none else global? line) == own)

variable {slots : List (List Char)} {own : List (String × List Char)} {lines : List String} {buffer : SlotBuffer}
  {code : String → List String}

/-- The variables are those of the template and those of the code in its slots. -/
theorem mem_globals_resolve (made : isMade slots own (lines.map String.toList) = true)
    (filled : ∀ key, (buffer.get? key).getD "" = unlines (code key))
    (oneLine : ∀ slot ∈ slots, ∀ line ∈ code (String.ofList slot), '\n' ∉ line.toList ∧ '\r' ∉ line.toList)
    {declared : String × List Char} :
    declared ∈ globals (Marker.resolve (unlines lines) buffer) ↔
      declared ∈ own ∨ ∃ slot ∈ slots, ∃ line ∈ code (String.ofList slot), global? line.toList = some declared := by
  simp only [isMade, Bool.and_eq_true, List.all_map, List.all_eq_true, Function.comp_apply, beq_iff_eq,
    List.filterMap_map] at made
  obtain ⟨clear, rfl, rfl⟩ := made
  have lines_eq : Text.lines (Marker.resolve (unlines lines) buffer).toList =
      (lines.flatMap (Marker.filled code)).map String.toList := by
    rw [Marker.resolve_unlines filled fun line member => (clear line member).1.1]
    apply Text.lines_unlines
    intro line member
    obtain ⟨source, isSource, member⟩ := List.mem_flatMap.1 member
    rw [Marker.filled] at member
    split at member
    · next slot marker => exact oneLine slot (List.mem_filterMap.2 ⟨source, isSource, marker⟩) line member
    · obtain rfl := List.mem_singleton.1 member
      simpa using And.intro (clear line isSource).1.2 (clear line isSource).2
  rw [globals, lines_eq]
  simp only [List.mem_filterMap, List.mem_map, List.mem_flatMap, Marker.filled]
  constructor
  · rintro ⟨-, ⟨line, ⟨source, isSource, member⟩, rfl⟩, found⟩
    split at member
    · next slot marker => exact .inr ⟨slot, ⟨source, isSource, marker⟩, line, member, found⟩
    · next plain =>
      obtain rfl := List.mem_singleton.1 member
      exact .inl ⟨line, isSource, by simpa [plain] using found⟩
  · rintro (⟨source, isSource, found⟩ | ⟨slot, ⟨source, isSource, marker⟩, line, member, found⟩)
    · cases plain : Marker.slotOf? source.toList with
      | some slot => simp [plain] at found
      | none => exact ⟨_, ⟨source, ⟨source, isSource, by simp [plain]⟩, rfl⟩, by simpa [plain] using found⟩
    · exact ⟨_, ⟨line, ⟨source, isSource, by simpa [marker] using member⟩, rfl⟩, found⟩

/-! ## The standard template -/

/-- The variables of the vertex stage, without those in its slots. -/
def vertexGlobals : List (String × List Char) :=
  [("uCamera", ['C', 'a', 'm', 'e', 'r', 'a']),
    ("uModel", ['m', 'a', 't', '4', 'x', '4', '<', 'f', '3', '2', '>'])]

/-- The variables of the fragment stage, without those in its slots. -/
def fragmentGlobals : List (String × List Char) :=
  [("uCamera", ['C', 'a', 'm', 'e', 'r', 'a']), ("uMaterial", ['M', 'a', 't', 'e', 'r', 'i', 'a', 'l'])]

def vertexSlots : List (List Char) :=
  [['d', 'e', 'f', 'i', 'n', 'i', 't', 'i', 'o', 'n', 's'], ['p', 'v'],
    ['v', 'e', 'r', 't', 'e', 'x', '_', 'm', 'a', 'i', 'n']]

def fragmentSlots : List (List Char) :=
  [['d', 'e', 'f', 'i', 'n', 'i', 't', 'i', 'o', 'n', 's'], ['p', 'f'], ['l', 'i', 'g', 'h', 't', 's', 'f']]

private theorem passes_surfaceVertex : Passes (areLetters (isMade vertexSlots vertexGlobals)) surfaceVertex := by
  apply passes_of_spells
  · repeat' constructor
  · decide

private theorem passes_surfaceFragment :
    Passes (areLetters (isMade fragmentSlots fragmentGlobals)) surfaceFragment := by
  apply passes_of_spells
  · repeat' constructor
  · decide

theorem standard_eq :
    standard = .ok ⟨"standard", unlines (texts [] surfaceVertex), unlines (texts [] surfaceFragment)⟩ := by
  have valued : Supplied [] [] := by simp [Supplied]
  have counted : Counted [] [] := ⟨rfl, by simp⟩
  have vertex : renderNamed "standard.vert" [] = .ok (unlines (texts [] surfaceVertex)) :=
    renderNamed_eq_ok (by rw [find?_of_listed (by decide)]; rfl) valued counted (by decide +kernel)
  have fragment : renderNamed "standard.frag" [] = .ok (unlines (texts [] surfaceFragment)) :=
    renderNamed_eq_ok (by rw [find?_of_listed (by decide)]; rfl) valued counted (by decide +kernel)
  rw [standard, ofStencils, vertex, fragment]
  rfl

variable {chunks : List Chunk}

/-- With the code of light models, the fragment stage declares their resources besides its own variables. -/
theorem mem_globals_standard {template : Template} (isStandard : standard = .ok template)
    (light : ∀ chunk ∈ chunks, chunk.LightCode) (countable : ∀ chunk ∈ chunks, chunk.Countable)
    (declared : String × List Char) :
    (declared ∈ globals (template.resolve (Chunk.filledSlots chunks)).1 ↔ declared ∈ vertexGlobals) ∧
      (declared ∈ globals (template.resolve (Chunk.filledSlots chunks)).2 ↔ declared ∈ fragmentGlobals ∨
        ∃ resource ∈ chunks.flatMap Chunk.resources, (resource.name, resource.type.toList) = declared) := by
  obtain rfl := Except.ok.inj (standard_eq.symm.trans isStandard)
  let code := fun key => linesAt key (Chunk.printedAll 0 chunks)
  have filled : ∀ key, ((Chunk.filledSlots chunks).get? key).getD "" = unlines (code key) :=
    Chunk.get?_filledSlots chunks
  have declares : Declares 0 (chunks.flatMap Chunk.resources) (code "pf") :=
    Chunk.declares_printedAll light countable 0
  have quiet : ∀ key, key ≠ "pf" → ∀ line ∈ code key, Quiet line.toList := fun key other =>
    Chunk.quiet_linesAt light other 0
  have oneLine : ∀ key, ∀ line ∈ code key, '\n' ∉ line.toList ∧ '\r' ∉ line.toList := by
    intro key
    by_cases declarations : key = "pf"
    · rw [declarations]
      exact declares.oneLine
    · exact fun line member => ⟨(quiet key declarations line member).feeds, (quiet key declarations line member).returns⟩
  have silent : ∀ key, key ≠ "pf" → ∀ line ∈ code key, global? line.toList ≠ some declared := by
    intro key other line member
    simp [global?, (quiet key other line member).globals]
  have resources : (∃ line ∈ code "pf", global? line.toList = some declared) ↔
      ∃ resource ∈ chunks.flatMap Chunk.resources, (resource.name, resource.type.toList) = declared := by
    have all := congrArg (declared ∈ ·) declares.globals_eq
    simpa only [List.mem_filterMap, List.mem_map, exists_exists_and_eq_and, eq_iff_iff] using all
  constructor
  · refine (mem_globals_resolve (check_of_areLetters passes_surfaceVertex) filled fun slot _ => oneLine _).trans ?_
    have elsewhere : ∀ slot ∈ vertexSlots, String.ofList slot ≠ "pf" := by decide
    refine or_iff_left ?_
    rintro ⟨slot, isSlot, line, member, found⟩
    exact silent _ (elsewhere slot isSlot) line member found
  · refine (mem_globals_resolve (check_of_areLetters passes_surfaceFragment) filled fun slot _ => oneLine _).trans ?_
    rw [← resources]
    refine or_congr Iff.rfl ⟨?_, ?_⟩
    · rintro ⟨slot, isSlot, line, member, found⟩
      by_cases declarations : String.ofList slot = "pf"
      · exact ⟨line, declarations ▸ member, found⟩
      · exact absurd found (silent _ declarations line member)
    · rintro ⟨line, member, found⟩
      exact ⟨['p', 'f'], by decide, line, member, found⟩

end Template

end ShaderWeave
