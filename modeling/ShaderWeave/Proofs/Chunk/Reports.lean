import ShaderWeave.Proofs.Lighting.Hashes
import ShaderWeave.Proofs.Lighting.Upkeep

/-! # Reports of changes

The operations on the chunks of this library tell whether they changed the code. Collections are marked only when one
says so: a change without a report would leave a stale program in use, and a report without a change would compile a
program again for nothing. A report is exact when it is the same as another hash.
-/

namespace ShaderWeave

private theorem exact_of_quiet_of_loud {changed : Bool} {before after : String}
    (quiet : changed = false → after = before) (loud : changed = true → after ≠ before) :
    changed = true ↔ after ≠ before := by
  refine ⟨loud, fun differs => ?_⟩
  rw [← Bool.not_eq_false]
  exact mt quiet differs

/-! ## Buckets -/

namespace LightBucket

variable {first second : LightBucket}

/-- Buckets of one type hash alike only if their lights hold the same slots. -/
theorem shadowSlots_eq_of_hash_eq (same : first.hash = second.hash) : first.shadowSlots = second.shadowSlots := by
  have firstLight : (Chunk.lightBucket first).LightCode := trivial
  have secondLight : (Chunk.lightBucket second).LightCode := trivial
  exact Chunk.shadowSlots_eq_of_tail_eq (Chunk.word_tail_of_hash_eq firstLight secondLight same).2

theorem addLight_report (bucket : LightBucket) (id : LightId) :
    (bucket.addLight id).1 = true ↔ (bucket.addLight id).2.hash ≠ bucket.hash := by
  refine exact_of_quiet_of_loud hash_addLight fun loud same => ?_
  have sizes := size_congr (shadowSlots_eq_of_hash_eq same)
  unfold addLight at loud sizes
  split at loud
  · cases loud
  · next new => simp [new, LightBucket.size] at sizes

theorem removeLight_report (bucket : LightBucket) (id : LightId) :
    (bucket.removeLight id).1 = true ↔ (bucket.removeLight id).2.hash ≠ bucket.hash := by
  refine exact_of_quiet_of_loud hash_removeLight fun loud same => ?_
  have sizes := size_congr (shadowSlots_eq_of_hash_eq same)
  unfold removeLight at loud sizes
  split at loud
  · next member =>
    obtain ⟨entry, isEntry, here⟩ := List.mem_map.1 member
    have shorter : (bucket.entries.eraseP fun entry => entry.light == id).length = bucket.entries.length - 1 :=
      List.length_eraseP_of_mem isEntry (by simpa using here)
    have filled := List.length_pos_of_mem isEntry
    simp only [member, if_true, LightBucket.size, shorter] at sizes
    omega
  · cases loud

theorem update_report (bucket : LightBucket) (lights : Arena .light Light) (pool : ShadowPool) :
    (bucket.update lights pool).1 = true ↔ (bucket.update lights pool).2.1.hash ≠ bucket.hash := by
  refine exact_of_quiet_of_loud (bucket.hash_update lights pool).2 fun loud same => ?_
  rw [changed_update] at loud
  exact bne_iff_ne.1 loud (shadowSlots_eq_of_hash_eq same)

end LightBucket

/-! ## Shadow pools -/

namespace ShadowPool

variable {first second pool : ShadowPool}

/-- Pools hash alike only if their code is for as many slots, and for maps of the same form if there are any. -/
theorem generated_eq_of_hash_eq (same : first.hash = second.hash) :
    first.generatedCount = second.generatedCount ∧
      (second.generatedCount ≠ 0 → first.generatedDepthTexture = second.generatedDepthTexture) := by
  have firstLight : (Chunk.shadowPool first).LightCode := trivial
  have secondLight : (Chunk.shadowPool second).LightCode := trivial
  exact Chunk.generated_eq_of_tail_eq (Chunk.word_tail_of_hash_eq firstLight secondLight same).2

theorem depthTexture_of_count_eq_zero (none : pool.count = 0) : pool.depthTexture = .none := by
  rw [depthTexture, List.length_eq_zero_iff.1 none]
  rfl

/-- The form of the maps could change unseen only while the code has no slots, and then it sticks. -/
theorem check_report (pool : ShadowPool) : pool.check.1 = true ↔ pool.check.2.hash ≠ pool.hash := by
  refine exact_of_quiet_of_loud hash_check fun loud same => ?_
  obtain ⟨counts, forms⟩ := generated_eq_of_hash_eq same
  simp only [check] at loud counts forms
  by_cases none : pool.generatedCount = 0
  · have stays := depthTexture_of_count_eq_zero (counts.trans none)
    simp [counts, stays] at loud
  · simp [counts, forms none] at loud

theorem hash_request (pool : ShadowPool) (shadow : ShadowSettings) : (pool.request shadow).2.hash = pool.hash := by
  have kept : (pool.request shadow).2.reset.hash = pool.reset.hash := by rw [reset_request]
  exact kept

end ShadowPool

/-! ## Flags and choices -/

theorem Flag.set_report (flag : Flag) (value : Bool) :
    (flag.set value).1 = true ↔ (flag.set value).2.hash ≠ flag.hash := by
  refine exact_of_quiet_of_loud hash_set fun loud same => ?_
  obtain ⟨name, current⟩ := flag
  cases current <;> cases value <;> simp [set, hash, String.append_right_inj] at loud same

namespace Choice

/-- The states of choices: they are made with a value, and set to others. -/
inductive Reached : Choice → Prop
  | new {name variants choice} (made : Choice.new name variants = .ok choice) : Reached choice
  | withValue {name variants value choice} (made : Choice.withValue name variants value = .ok choice) : Reached choice
  | set {choice value changed next} (reached : Reached choice) (set : choice.set value = .ok (changed, next)) :
    Reached next

variable {choice next : Choice} {changed : Bool} {name value : String} {variants : List String}

theorem current_of_set (set : choice.set value = .ok (changed, next)) :
    next.current = choice.variants.idxOf value ∧ changed = (choice.current != next.current) := by
  simp only [Choice.set] at set
  split at set
  · cases set
    exact ⟨rfl, rfl⟩
  · cases set

/-- Where a name is twice among the variants, only the first one is ever chosen. -/
def ChoosesFirst (choice : Choice) : Prop := choice.variants.idxOf choice.value = choice.current

theorem value_eq (choice : Choice) : choice.variants[choice.current]? = some choice.value :=
  List.getElem?_eq_getElem choice.current_lt

theorem value_of_set (set : choice.set value = .ok (changed, next)) : next.value = value := by
  obtain ⟨-, variants, -⟩ := set_cases set
  obtain ⟨current, -⟩ := current_of_set set
  have chosen := next.value_eq
  have inside := next.current_lt
  rw [variants, current] at chosen inside
  rw [List.getElem?_eq_getElem inside, List.getElem_idxOf] at chosen
  exact (Option.some.inj chosen).symm

theorem choosesFirst_of_set (set : choice.set value = .ok (changed, next)) : next.ChoosesFirst := by
  obtain ⟨-, variants, -⟩ := set_cases set
  rw [ChoosesFirst, value_of_set set, variants, (current_of_set set).1]

theorem choosesFirst_of_new (made : Choice.new name variants = .ok choice) : choice.ChoosesFirst := by
  unfold Choice.new at made
  split at made
  case isTrue filled =>
    cases made
    obtain ⟨head, tail, rfl⟩ := List.exists_cons_of_length_pos filled
    exact List.idxOf_cons_self
  case isFalse => cases made

theorem exists_set_of_withValue (made : Choice.withValue name variants value = .ok choice) :
    ∃ start changed, Choice.set start value = .ok (changed, choice) := by
  simp only [Choice.withValue, bind, Except.bind] at made
  split at made
  case h_1 => cases made
  case h_2 start _ =>
    split at made
    case h_1 => cases made
    case h_2 result set =>
      cases made
      exact ⟨start, result.1, set⟩

theorem Reached.choosesFirst (reached : choice.Reached) : choice.ChoosesFirst := by
  cases reached with
  | new made => exact choosesFirst_of_new made
  | withValue made =>
    obtain ⟨start, changed, set⟩ := exists_set_of_withValue made
    exact choosesFirst_of_set set
  | set reached set => exact choosesFirst_of_set set

/-- A choice compares positions, and its hash has the name of the variant; a choice of a first variant has one position
for each name. -/
theorem set_report (first : choice.ChoosesFirst) (set : choice.set value = .ok (changed, next)) :
    changed = true ↔ next.hash ≠ choice.hash := by
  obtain ⟨name, variants, quiet⟩ := set_cases set
  refine exact_of_quiet_of_loud quiet fun loud same => ?_
  rw [hash, hash, name, String.append_right_inj] at same
  have stays := choosesFirst_of_set set
  rw [ChoosesFirst, variants, same, first] at stays
  rw [(current_of_set set).2, stays] at loud
  simp at loud

end Choice

/-! ## All operations -/

namespace Chunk

/-- An operation on a chunk, with what it reports and what it leaves. Those without a report stand for a report of no
change. -/
inductive Operation : Chunk → Bool → Chunk → Prop
  | addLight (bucket : LightBucket) (id : LightId) :
    Operation (lightBucket bucket) (bucket.addLight id).1 (lightBucket (bucket.addLight id).2)
  | removeLight (bucket : LightBucket) (id : LightId) :
    Operation (lightBucket bucket) (bucket.removeLight id).1 (lightBucket (bucket.removeLight id).2)
  | updateLights (bucket : LightBucket) (lights : Arena .light Light) (pool : ShadowPool) :
    Operation (lightBucket bucket) (bucket.update lights pool).1 (lightBucket (bucket.update lights pool).2.1)
  | check (pool : ShadowPool) : Operation (shadowPool pool) pool.check.1 (shadowPool pool.check.2)
  | reset (pool : ShadowPool) : Operation (shadowPool pool) false (shadowPool pool.reset)
  | request (pool : ShadowPool) (shadow : ShadowSettings) :
    Operation (shadowPool pool) false (shadowPool (pool.request shadow).2)
  | rotate (pool : ShadowPool) (angle : Single) :
    Operation (shadowPool pool) false (shadowPool (pool.rotated angle))
  | setFlag (state : Flag) (value : Bool) : Operation (flag state) (state.set value).1 (flag (state.set value).2)
  | setChoice {state next : Choice} {value : String} {changed : Bool} (reached : state.Reached)
    (set : state.set value = .ok (changed, next)) : Operation (choice state) changed (choice next)

/-- A change is reported exactly when the hash is another one afterwards. -/
theorem Operation.report_exact {before after : Chunk} {changed : Bool}
    (operation : Operation before changed after) : changed = true ↔ after.hash ≠ before.hash := by
  cases operation with
  | addLight bucket id => exact bucket.addLight_report id
  | removeLight bucket id => exact bucket.removeLight_report id
  | updateLights bucket lights pool => exact bucket.update_report lights pool
  | check pool => exact pool.check_report
  | reset pool => exact iff_of_false Bool.false_ne_true (not_not_intro rfl)
  | request pool shadow => exact iff_of_false Bool.false_ne_true (not_not_intro (pool.hash_request shadow))
  | rotate pool angle => exact iff_of_false Bool.false_ne_true (not_not_intro rfl)
  | setFlag state value => exact state.set_report value
  | setChoice reached set => exact Choice.set_report reached.choosesFirst set

/-- A name that is twice among the variants is chosen where it stands first, so that choosing it again is no change. -/
theorem report_of_repeated_variant :
    ∃ first second : Choice, ∃ changed, first.value = "FAST" ∧ first.set "FAST" = .ok (changed, second) ∧
      (changed = true ↔ second.hash ≠ first.hash) ∧ changed = false := by
  let start : Choice := ⟨"quality", ["NICE", "FAST", "FAST"], 0, by decide⟩
  let fast : Choice := ⟨"quality", ["NICE", "FAST", "FAST"], 1, by decide⟩
  have made : Choice.new "quality" ["NICE", "FAST", "FAST"] = .ok start := rfl
  have first : start.set "FAST" = .ok (true, fast) := by rfl
  have again : fast.set "FAST" = .ok (false, fast) := by rfl
  exact ⟨fast, fast, false, rfl, again, (Operation.setChoice (.set (.new made) first) again).report_exact, rfl⟩

end Chunk

end ShaderWeave
