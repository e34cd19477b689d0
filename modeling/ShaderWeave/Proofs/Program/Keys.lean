import ShaderWeave.Program.Cache
import ShaderWeave.Proofs.Hash.Tokens
import ShaderWeave.Proofs.Template.Interleaving

/-! # What a program key stands for

A key is the digest of the template's name and the stamp of the slots, and of the slots themselves if they have no
stamp. What is hashed tells all of these apart: stamps from code, no code from some, and a slot's name from its code.
-/

namespace ShaderWeave

open Hash

/-- The names and codes of slots, in turn. -/
def SlotBuffer.texts (slots : SlotBuffer) : List String :=
  slots.entries.flatMap fun entry => [entry.key, entry.code]

theorem SlotBuffer.texts_inj {first second : SlotBuffer} (same : first.texts = second.texts) :
    first.entries = second.entries := by
  simp only [texts] at same
  generalize first.entries = entries, second.entries = others at same ⊢
  induction entries generalizing others with
  | nil =>
    cases others with
    | nil => rfl
    | cons other rest => simp at same
  | cons entry rest ih =>
    cases others with
    | nil => simp at same
    | cons other others =>
      simp only [List.flatMap_cons, List.cons_append, List.nil_append, List.cons.injEq] at same
      obtain ⟨keys, codes, later⟩ := same
      obtain ⟨key, code⟩ := entry
      cases keys
      cases codes
      rw [ih others later]

namespace ProgramSource

variable {source first second : ProgramSource}

/-- The bytes whose digest is the key. -/
def stream (source : ProgramSource) : List UInt8 := Tokens.encode source.keyTokens

/-- The code is in the key where it has no stamp. -/
theorem keyTokens_eq (source : ProgramSource) :
    source.keyTokens =
      source.template.uid :: source.slots.stamp :: if source.slots.stamp = "" then source.slots.texts else [] := by
  by_cases stamped : source.slots.stamp = ""
  · cases filled : source.slots.entries with
    | nil => simp [keyTokens, SlotBuffer.texts, SlotBuffer.isEmpty, stamped, filled]
    | cons entry rest => simp [keyTokens, SlotBuffer.texts, SlotBuffer.isEmpty, stamped, filled]
  · simp [keyTokens, stamped]

theorem keyTokens_eq_iff :
    first.keyTokens = second.keyTokens ↔
      first.template.uid = second.template.uid ∧
        (first.slots.stamp ≠ "" ∧ second.slots.stamp = first.slots.stamp ∨
          first.slots.stamp = "" ∧ second.slots.stamp = "" ∧ first.slots.entries = second.slots.entries) := by
  rw [keyTokens_eq, keyTokens_eq, List.cons.injEq, List.cons.injEq]
  refine and_congr_right fun _ => ?_
  by_cases unstamped : first.slots.stamp = ""
  · by_cases both : second.slots.stamp = ""
    · have codes : first.slots.texts = second.slots.texts ↔ first.slots.entries = second.slots.entries :=
        ⟨SlotBuffer.texts_inj, fun same => by rw [SlotBuffer.texts, same, SlotBuffer.texts]⟩
      simp [unstamped, both, codes]
    · simp [unstamped, both, Ne.symm both]
  · constructor
    · rintro ⟨stamps, -⟩
      exact .inl ⟨unstamped, stamps.symm⟩
    · rintro (⟨-, stamps⟩ | ⟨absurd, -⟩)
      · simp [stamps, unstamped]
      · contradiction

theorem stream_eq_iff (firstFits : Tokens.Fits first.keyTokens) (secondFits : Tokens.Fits second.keyTokens) :
    first.stream = second.stream ↔ first.keyTokens = second.keyTokens :=
  ⟨Tokens.encode_inj firstFits secondFits, congrArg Tokens.encode⟩

/-- The texts that slots give to a template depend on their names and codes only. -/
theorem resolve_congr {slots others : SlotBuffer} (template : Template) (same : slots.entries = others.entries) :
    template.resolve slots = template.resolve others := by
  refine template.resolve_congr (funext fun key => ?_)
  rw [SlotBuffer.get?, SlotBuffer.get?, same]

/-- What is hashed to the key agrees exactly for the same name and the same stamp, or for the same name and the same
slots in the same order, if there is no stamp. So a stamp is never taken for code, and slots with code never for empty
ones. For slots without stamps, if names tell templates apart and the digest tells the two streams apart, one key stands
for one pair of texts. -/
theorem key_determines_texts (firstFits : Tokens.Fits first.keyTokens) (secondFits : Tokens.Fits second.keyTokens) :
    (first.stream = second.stream ↔
      first.template.uid = second.template.uid ∧
        (first.slots.stamp ≠ "" ∧ second.slots.stamp = first.slots.stamp ∨
          first.slots.stamp = "" ∧ second.slots.stamp = "" ∧ first.slots.entries = second.slots.entries)) ∧
    (first.slots.stamp ≠ "" → second.slots.stamp = "" → first.stream ≠ second.stream) ∧
    (first.slots.stamp = "" → second.slots.stamp = "" → first.slots.isEmpty = true → second.slots.isEmpty = false →
      first.stream ≠ second.stream) ∧
    (first.slots.stamp = "" → second.slots.stamp = "" →
      (first.template.uid = second.template.uid → first.template = second.template) →
      (Xxh3.digest first.stream.toArray = Xxh3.digest second.stream.toArray → first.stream = second.stream) →
      first.key = second.key → first.template.resolve first.slots = second.template.resolve second.slots) := by
  have decided := (stream_eq_iff firstFits secondFits).trans keyTokens_eq_iff
  refine ⟨decided, ?_, ?_, ?_⟩
  · intro stamped unstamped same
    rcases (decided.1 same).2 with ⟨-, stamps⟩ | ⟨none, -⟩
    · exact stamped (stamps.symm.trans unstamped)
    · exact stamped none
  · intro unstamped _ empty filled same
    rcases (decided.1 same).2 with ⟨stamped, -⟩ | ⟨-, -, entries⟩
    · exact stamped unstamped
    · rw [SlotBuffer.isEmpty, entries] at empty
      exact absurd (empty.symm.trans filled) (by decide)
  · intro unstamped _ identified distinct keys
    obtain ⟨uids, ⟨stamped, -⟩ | ⟨-, -, entries⟩⟩ := decided.1 (distinct (Tokens.digest_eq_of_hash_eq keys))
    · exact absurd unstamped stamped
    · rw [identified uids, resolve_congr second.template entries]

/-- A template with two places in one stage. -/
def paired : Template := ⟨"paired", "#pragma SLOT a\n#pragma SLOT b\n", ""⟩

/-- The same code in one contribution or in two has the same key and gives the same texts. In other slots, or in the
other order, it is hashed from other bytes, and so are a stamp and no code at all. -/
theorem key_of_pieces :
    let whole : ProgramSource := ⟨paired, (SlotBuffer.empty.add "a" "xy").add "b" "z"⟩
    let pieces : ProgramSource := ⟨paired, ((SlotBuffer.empty.add "a" "x").add "b" "z").add "a" "y"⟩
    let turned : ProgramSource := ⟨paired, (SlotBuffer.empty.add "b" "z").add "a" "xy"⟩
    let stamped : ProgramSource := ⟨paired, .stamped "a"⟩
    let empty : ProgramSource := ⟨paired, .empty⟩
    (∀ source ∈ [whole, pieces, turned, stamped, empty], Tokens.Fits source.keyTokens) ∧
      whole.slots ≠ pieces.slots ∧ whole.key = pieces.key ∧
      whole.template.resolve whole.slots = pieces.template.resolve pieces.slots ∧
      whole.stream ≠ turned.stream ∧ stamped.stream ≠ whole.stream ∧ empty.stream ≠ whole.stream := by
  intro whole pieces turned stamped empty
  have fits : ∀ source ∈ [whole, pieces, turned, stamped, empty], Tokens.Fits source.keyTokens := by decide
  have wholeFits := fits whole (by simp)
  have alike := key_determines_texts wholeFits (fits pieces (by simp))
  have apart := key_determines_texts wholeFits (fits turned (by simp))
  have keys : whole.key = pieces.key := rfl
  have streams : whole.stream = pieces.stream := alike.1.2 (by decide)
  refine ⟨fits, by decide, keys, ?_, ?_, ?_, ?_⟩
  · exact alike.2.2.2 rfl rfl (fun _ => rfl) (fun _ => streams) keys
  · exact mt apart.1.1 (by decide)
  · exact (key_determines_texts (fits stamped (by simp)) wholeFits).2.1 (by decide) rfl
  · exact (key_determines_texts (fits empty (by simp)) wholeFits).2.2.1 rfl rfl rfl rfl

end ProgramSource

end ShaderWeave
