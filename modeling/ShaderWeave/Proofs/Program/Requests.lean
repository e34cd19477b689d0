import ShaderWeave.Chunk.Fragments
import ShaderWeave.Proofs.Collection.StoredHashes
import ShaderWeave.Proofs.Program.Cache

/-! # Two ways to ask for a program

A program can be asked for with a collection, whose hash makes the key and whose code is generated only if it is
needed, or with slots that were filled before. For the code of one collection both ways go to the same key and the same
sources, if the slots still have the stamp that they got from the collection and this stamp is not empty beside code.
Two things can come in between: a chunk can stamp the slots anew, and the stored hash can be from a time when a chunk
had none.
-/

namespace ShaderWeave

/-! ## Chunks with code -/

namespace Chunk

variable {chunk : Chunk} {chunks : List Chunk} {slots made : SlotBuffer}

/-- The kinds of chunks of the library that generate code. -/
def IsBuiltIn : Chunk → Prop
  | flag _ | choice _ | stencil _ | shadowPool _ | lightBucket _ => True
  | group | custom _ => False

/-- What keys rely on: there is a hash, and generating only adds code, so that the slots keep their stamp. -/
structure Keyed (chunk : Chunk) : Prop where
  hash : chunk.hash ≠ ""
  stamp : ∀ slots made, chunk.generate slots = .ok made → made.stamp = slots.stamp

theorem hash_ne_empty (builtIn : chunk.IsBuiltIn) : chunk.hash ≠ "" := by
  have filled : chunk.hash.toList ≠ [] := by
    cases chunk with
    | flag state => cases value : state.value <;> simp [hash, Flag.hash, value]
    | choice state => simp [hash, Choice.hash]
    | stencil chunk => simp [hash, StencilChunk.hash]
    | shadowPool pool =>
      rw [hash, ShadowPool.hash]
      split <;> simp
    | lightBucket bucket =>
      have tagged : bucket.type.tag.toList ≠ [] := by cases bucket.type <;> decide
      simp [hash, LightBucket.hash, tagged]
    | group => exact builtIn.elim
    | custom chunk => exact builtIn.elim
  exact fun none => filled (by simp [none])

theorem stamp_of_generate (builtIn : chunk.IsBuiltIn) (generated : chunk.generate slots = .ok made) :
    made.stamp = slots.stamp := by
  cases chunk with
  | flag state =>
    cases generated
    rfl
  | choice state =>
    cases generated
    rfl
  | stencil chunk =>
    rw [generate, StencilChunk.generate] at generated
    split at generated <;> cases generated
    rfl
  | shadowPool pool =>
    simp only [generate, ShadowPool.generate] at generated
    split at generated
    · cases generated
      rfl
    · split at generated <;> cases generated
      rfl
  | lightBucket bucket =>
    simp only [generate, LightBucket.generate] at generated
    split at generated
    · cases generated
      rfl
    · split at generated <;> cases generated
      rfl
  | group => exact builtIn.elim
  | custom chunk => exact builtIn.elim

theorem IsBuiltIn.keyed (builtIn : chunk.IsBuiltIn) : chunk.Keyed :=
  ⟨hash_ne_empty builtIn, fun _ _ => stamp_of_generate builtIn⟩

theorem stamp_of_foldlM (keyed : ∀ chunk ∈ chunks, chunk.Keyed)
    (generated : chunks.foldlM (fun slots chunk => chunk.generate slots) slots = .ok made) :
    made.stamp = slots.stamp := by
  induction chunks generalizing slots with
  | nil =>
    cases generated
    rfl
  | cons chunk rest ih =>
    obtain ⟨here, later⟩ := List.forall_mem_cons.1 keyed
    rw [List.foldlM_cons] at generated
    cases first : chunk.generate slots with
    | error cause => simp [first, bind, Except.bind] at generated
    | ok middle =>
      rw [first] at generated
      exact (ih later generated).trans (here.stamp slots middle first)

theorem joinedHash_ne_empty (keyed : ∀ chunk ∈ chunks, chunk.Keyed) (filled : chunks ≠ []) :
    joinedHash chunks ≠ "" := by
  obtain ⟨first, rest, rfl⟩ := List.exists_cons_of_ne_nil filled
  have here := (keyed first (List.mem_cons_self ..)).hash
  intro none
  have chars := congrArg String.toList none
  rw [joinedHash, String.toList_intercalate, List.map_cons] at chars
  cases rest with
  | nil => exact here (by simpa using chars)
  | cons second rest => simp at chars

end Chunk

/-! ## The key of a collection -/

namespace ChunkGraph

variable {graph : ChunkGraph} {id : CollectionId} {collection : ChunkCollection} {roots : List ChunkId} {hash : String}

/-- Code of the active chunks, whatever stamp the slots get. -/
theorem generateAll_flattenAll (graph : ChunkGraph) (stamp : String) (roots : List ChunkId) :
    graph.generateAll stamp (graph.flattenAll roots).actives =
      (graph.codeBelow roots).foldlM (fun slots chunk => chunk.generate slots) (SlotBuffer.stamped stamp) := by
  rw [codeBelow, List.foldlM_map]
  rfl

theorem codeBelow_ne_nil {chunk : ChunkId} (active : chunk ∈ (graph.flattenAll roots).actives)
    (codes : graph.Codes chunk) : graph.codeBelow roots ≠ [] := by
  obtain ⟨node, found, code⟩ := codes
  have member : node.chunk ∈ graph.codeBelow roots :=
    List.mem_map_of_mem (List.mem_filter.2 ⟨List.mem_filterMap.2 ⟨chunk, active, found⟩, code⟩)
  exact List.ne_nil_of_mem member

/-- The hash that a collection has after a refresh: that of this moment, or one that was stored without a mark. -/
def Stands (graph : ChunkGraph) (collection : ChunkCollection) (hash : String) : Prop :=
  hash = Chunk.joinedHash (graph.codeBelow collection.roots) ∨
    collection.codeDirty = false ∧ hash = collection.hash ∧
      collection.actives = (graph.flattenAll collection.roots).actives

/-- A collection answers with one hash, and stamps it on the slots for its code. -/
theorem Tidy.exists_hash (tidy : graph.Tidy) (found : graph.collection? id = some collection) :
    ∃ hash, graph.Stands collection hash ∧ graph.collectionHash id = (.ok hash, (graph.refresh id).2) ∧
      graph.collectionGenerate id =
        ((graph.codeBelow collection.roots).foldlM (fun slots chunk => chunk.generate slots) (SlotBuffer.stamped hash),
          (graph.refresh id).2) := by
  obtain ⟨fresh, refreshed, actives, stands⟩ := tidy.exists_refreshed found
  refine ⟨fresh.hash, ?_, ?_, ?_⟩
  · rcases stands with now | ⟨clean, rfl⟩
    · rw [actives] at now
      exact .inl (now.trans (graph.hash_upToDate collection))
    · exact .inr ⟨clean, rfl, actives⟩
  · rw [collectionHash, refreshed]
    rfl
  · rw [← generateAll_flattenAll, ← actives, ← generateAll_of_bare (bare_refresh id), collectionGenerate, refreshed]
    rfl

/-- Where the chunks with code have hashes, the hash is empty exactly without code, from whatever moment it is. -/
theorem Stands.eq_empty_iff (stands : graph.Stands collection hash) (backed : graph.Backed)
    (found : graph.collection? id = some collection) (keyed : ∀ chunk ∈ graph.codeBelow collection.roots, chunk.Keyed)
    (current : collection.codeDirty = false → collection.hash = "" → graph.joinedHash collection.actives = "") :
    hash = "" ↔ graph.codeBelow collection.roots = [] := by
  have joined : hash = Chunk.joinedHash (graph.codeBelow collection.roots) →
      (hash = "" ↔ graph.codeBelow collection.roots = []) := by
    rintro rfl
    refine ⟨fun none => ?_, fun none => by rw [none]; rfl⟩
    by_contra some
    exact Chunk.joinedHash_ne_empty keyed some none
  rcases stands with now | ⟨clean, rfl, actives⟩
  · exact joined now
  by_cases none : collection.hash = ""
  · apply joined
    rw [none, ← current clean none, actives]
    exact graph.hash_upToDate collection
  · obtain ⟨chunk, active, codes⟩ := backed id collection found clean none
    exact iff_of_false none (codeBelow_ne_nil (actives ▸ active) codes)

end ChunkGraph

namespace ProgramSource

variable {chunks : List Chunk} {slots : SlotBuffer} {stamp : String}

/-- Slots that were filled under a stamp have it for a key, if it is not empty beside code. -/
theorem key_of_foldlM (keyed : ∀ chunk ∈ chunks, chunk.Keyed) (filled : stamp = "" → chunks = [])
    (generated : chunks.foldlM (fun slots chunk => chunk.generate slots) (SlotBuffer.stamped stamp) = .ok slots)
    (template : Template) : (ProgramSource.mk template slots).key = Request.key (template, stamp) := by
  have kept : slots.stamp = stamp := Chunk.stamp_of_foldlM keyed generated
  have tokens : (ProgramSource.mk template slots).keyTokens = [template.uid, stamp] := by
    cases chunks with
    | nil =>
      cases generated
      simp [keyTokens, SlotBuffer.stamped, SlotBuffer.isEmpty]
    | cons chunk rest =>
      have named : stamp ≠ "" := fun none => List.cons_ne_nil chunk rest (filled none)
      simp [keyTokens, kept, named]
  rw [key, tokens]
  rfl

end ProgramSource

namespace ProgramCache

open ChunkGraph

/-- A collection that generates code is asked for under the key of the slots that it fills, and gets the answer that
these slots get, from any cache and any backend. States may have changed without a mark, and then the key is made from
the stored hash; it must not be an empty one that is out of date, and `Fresh.hash` tells that none is where each change
of a state is followed by a mark. Without chunks with code the key is that of empty slots without a stamp. -/
theorem compile_paths_agree {P : Type} (events : List GraphEvent) {id : CollectionId} {collection : ChunkCollection}
    (found : (history events).collection? id = some collection)
    (keyed : ∀ chunk ∈ (history events).codeBelow collection.roots, chunk.IsBuiltIn ∨ chunk.Keyed)
    (current : collection.codeDirty = false → collection.hash = "" →
      (history events).joinedHash collection.actives = "") {slots : SlotBuffer}
    (generated : ((history events).collectionGenerate id).1 = .ok slots) (template : Template) :
    let graph := history events
    collectionKey? template graph id = some (ProgramSource.mk template slots).key ∧
    (graph.codeBelow collection.roots = [] → (graph.collectionHash id).1 = .ok "" ∧
      (ProgramSource.mk template slots).key = (ProgramSource.mk template .empty).key) ∧
    ∀ (cache : ProgramCache) (ledger : ProgramLedger P) (backend : Backend P),
      cache.compileCollection ledger backend template graph id =
        let (result, cache, ledger) := cache.compile ledger backend ⟨template, slots⟩
        (result, cache, ledger, (graph.collectionGenerate id).2) := by
  intro graph
  have allKeyed : ∀ chunk ∈ graph.codeBelow collection.roots, chunk.Keyed := fun chunk member =>
    (keyed chunk member).elim (·.keyed) (·)
  have tidy : graph.Tidy := Tidy.history events
  obtain ⟨hash, stands, hashed, filled⟩ := tidy.exists_hash found
  have empty := stands.eq_empty_iff (Backed.history events) found allKeyed current
  have key := ProgramSource.key_of_foldlM allKeyed empty.1 ((congrArg Prod.fst filled).symm.trans generated) template
  refine ⟨?_, ?_, ?_⟩
  · rw [collectionKey?, hashed, key]
    rfl
  · intro none
    rw [hashed, key, empty.2 none]
    exact ⟨rfl, rfl⟩
  · intro cache ledger backend
    have again : (graph.refresh id).2.collectionGenerate id = (.ok slots, (graph.refresh id).2) := by
      rw [collectionGenerate_again]
      exact Prod.ext generated (snd_collectionGenerate graph id)
    simp only [compileCollection, hashed, again, snd_collectionGenerate, ProgramCache.compile, key, Request.key]
    cases cache.hit? ledger (Hash.Tokens.hashPair template.uid hash) with
    | some hit => rfl
    | none => rfl

/-! ## A chunk by data -/

/-- A chunk by data, with code for the lights. -/
def shade (hash factor : String) : Chunk :=
  FragmentChunk.toChunk
    { caps := ⟨true, false⟩, hash, fragments := [⟨"lightsf", "color *= " ++ factor ++ ";\n"⟩] }

/-- A template with a place for lights. -/
def shadeTemplate : Template := ⟨"shade", "", "#pragma SLOT lightsf\n"⟩

/-- A collection with one chunk. -/
def alone (chunk : Chunk) : List GraphEvent :=
  [.op (.insert chunk), .op .createCollection, .op (.addRoot ⟨1, 1⟩ ⟨1, 1⟩)]

/-- A collection that was hashed before its chunk got another state without a mark. -/
def restated (before after : Chunk) : List GraphEvent :=
  alone before ++ [.op (.query ⟨1, 1⟩ .hash), .setChunk ⟨1, 1⟩ after]

theorem keyed_shade {hash factor : String} (filled : hash ≠ "") : (shade hash factor).Keyed where
  hash := filled
  stamp slots made generated := by
    cases generated
    rfl

/-- The stored hash is out of date, and both ways still go to the key that is made from it. The program is made from the
code of this moment. -/
theorem compile_of_restated :
    let graph := history (restated (shade "half" "0.5") (shade "quarter" "0.25"))
    ∃ collection slots, graph.collection? ⟨1, 1⟩ = some collection ∧
      (∀ chunk ∈ graph.codeBelow collection.roots, chunk.IsBuiltIn ∨ chunk.Keyed) ∧
      (collection.codeDirty = false → collection.hash = "" → graph.joinedHash collection.actives = "") ∧
      (graph.collectionGenerate ⟨1, 1⟩).1 = .ok slots ∧ slots.stamp = "half" ∧
      let cache := ProgramCache.new ⟨1⟩ {}
      let answer := cache.compileCollection {} (.recording ⟨1⟩) shadeTemplate graph ⟨1, 1⟩
      answer.1 = (cache.compile {} (.recording ⟨1⟩) ⟨shadeTemplate, slots⟩).1 ∧
        answer.2.1.get? (ProgramSource.mk shadeTemplate slots).key = some ⟨1⟩ ∧
        answer.2.1.stats = { misses := 1, compilations := 1 } ∧
        answer.2.2.1.program? ⟨1⟩ = some (.recorded { vertex := "", fragment := "color *= 0.25;\n" }) := by
  intro graph
  have found : graph.collection? ⟨1, 1⟩ = some ⟨[⟨1, 1⟩], [⟨1, 1⟩], [⟨1, 1⟩], false, false, "half"⟩ := rfl
  have keyed : ∀ chunk ∈ graph.codeBelow [⟨1, 1⟩], chunk.IsBuiltIn ∨ chunk.Keyed := by
    have code : graph.codeBelow [⟨1, 1⟩] = [shade "quarter" "0.25"] := rfl
    rw [code, List.forall_mem_singleton]
    exact .inr (keyed_shade (by decide))
  obtain ⟨slots, generated⟩ : ∃ slots, (graph.collectionGenerate ⟨1, 1⟩).1 = .ok slots := ⟨_, rfl⟩
  have filled : slots = (SlotBuffer.stamped "half").add "lightsf" "color *= 0.25;\n" := by
    cases generated
    rfl
  obtain ⟨-, -, answers⟩ :=
    compile_paths_agree (P := Program) _ found keyed (fun _ => nofun) generated shadeTemplate
  refine ⟨_, slots, found, keyed, fun _ => nofun, generated, by rw [filled]; rfl, ?_⟩
  simp only [graph, answers, true_and]
  refine ⟨?_, rfl, ?_⟩
  · simp [ProgramCache.compile, ProgramCache.hit?, ProgramCache.get?, ProgramCache.new, miss, Backend.recording,
      ProgramLedger.add]
  · rw [filled]
    decide +kernel

/-! ## Where both ways part -/

/-- The chunks with code all have hashes, and yet the slots that they fill have another key than the collection. So a
program that was made for the collection is made again for the slots. -/
def Part (graph : ChunkGraph) (id : CollectionId) (template : Template) : Prop :=
  ∃ collection slots, graph.collection? id = some collection ∧
    (∀ chunk ∈ graph.codeBelow collection.roots, chunk.hash ≠ "") ∧ (graph.collectionGenerate id).1 = .ok slots ∧
    collectionKey? template graph id ≠ some (ProgramSource.mk template slots).key ∧
    let made := (ProgramCache.new ⟨1⟩ {}).compileCollection {} (.recording ⟨1⟩) template graph id
    made.1 = .ok ⟨1⟩ ∧ (made.2.1.compile made.2.2.1 (.recording ⟨1⟩) ⟨template, slots⟩).1 = .ok ⟨2⟩

/-- A chunk with a hash that puts another stamp on the slots. -/
def stamping : Chunk :=
  .custom
    { caps := ⟨true, false⟩
      hash := "half"
      generate := fun slots => .ok { slots.add "lightsf" "color *= 0.5;\n" with stamp := "other" }
      uploads := fun _ => [] }

/-- Both ways part if a chunk stamps the slots anew, and if a hash that was stored while a chunk had none is out of
date. -/
theorem paths_part :
    Part (history (alone stamping)) ⟨1, 1⟩ shadeTemplate ∧
      Part (history (restated (shade "" "0.5") (shade "half" "0.5"))) ⟨1, 1⟩ shadeTemplate := by
  let filled : SlotBuffer := SlotBuffer.empty.add "lightsf" "color *= 0.5;\n"
  constructor
  · have code : (history (alone stamping)).codeBelow [⟨1, 1⟩] = [stamping] := rfl
    refine ⟨⟨[⟨1, 1⟩], [], [], true, true, ""⟩, { filled with stamp := "other" }, rfl, ?_, rfl, ?_, ?_, ?_⟩
    · rw [code, List.forall_mem_singleton]
      decide
    all_goals decide +kernel
  · have code : (history (restated (shade "" "0.5") (shade "half" "0.5"))).codeBelow [⟨1, 1⟩] =
        [shade "half" "0.5"] := rfl
    refine ⟨⟨[⟨1, 1⟩], [⟨1, 1⟩], [⟨1, 1⟩], false, false, ""⟩, filled, rfl, ?_, rfl, ?_, ?_, ?_⟩
    · rw [code, List.forall_mem_singleton]
      decide
    all_goals decide +kernel

end ProgramCache

end ShaderWeave
