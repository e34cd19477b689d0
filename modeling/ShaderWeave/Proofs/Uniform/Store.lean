import Mathlib.Data.List.Forall2
import ShaderWeave.Uniform.Store

/-! # What a uniform store holds

Staging replaces a value unless it is equal as numbers to the one that the store holds, and equal numbers have the same
bits, except for the two zeros. The bytes of an array are read back as the numbers that it was made of.
-/

namespace ShaderWeave

/-! ## Equal numbers -/

namespace Single

/-- One of the two zeros. -/
def isZero (value : Single) : Bool := value.bits == 0 || value.bits == 0x80000000

/-- The same bits, or two zeros. -/
def Alike (left right : Single) : Prop := left = right ∨ left.isZero = true ∧ right.isZero = true

theorem Alike.refl (value : Single) : Alike value value := .inl rfl

theorem Alike.symm {left right : Single} (alike : Alike left right) : Alike right left := by
  rcases alike with rfl | ⟨first, second⟩
  · exact .refl left
  · exact .inr ⟨second, first⟩

theorem toNat_magnitude (value : Single) : value.magnitude.toNat = value.bits.toNat % 0x80000000 := by
  rw [magnitude, UInt32.toNat_and]
  exact Nat.and_two_pow_sub_one_eq_mod value.bits.toNat 31

theorem isNegative_iff (value : Single) : value.isNegative = true ↔ 0x80000000 ≤ value.bits.toNat := by
  rw [isNegative, decide_eq_true_iff, ge_iff_le, UInt32.le_iff_toNat_le]
  rfl

theorem isZero_iff (value : Single) : value.isZero = true ↔ value.bits.toNat = 0 ∨ value.bits.toNat = 0x80000000 := by
  simp [isZero, ← UInt32.toNat_inj]

/-- The place of a number tells its bits, except for the zeros. -/
theorem alike_iff_rank (left right : Single) : left.Alike right ↔ left.rank = right.rank := by
  obtain ⟨leftBits⟩ := left
  obtain ⟨rightBits⟩ := right
  have leftBound := leftBits.toNat_lt
  have rightBound := rightBits.toNat_lt
  simp only [Alike, rank, isZero_iff, isNegative_iff, toNat_magnitude, Single.mk.injEq, ← UInt32.toNat_inj]
  split <;> split <;> omega

theorem alike_of_sameNumber {left right : Single} (same : left.sameNumber right = true) : left.Alike right := by
  simp only [sameNumber, Bool.and_eq_true, beq_iff_eq] at same
  exact (alike_iff_rank left right).2 same.2

theorem isNaN_of_isZero {value : Single} (zero : value.isZero = true) : value.isNaN = false := by
  obtain ⟨bits⟩ := value
  rcases Bool.or_eq_true_iff.1 zero with same | same
  all_goals
    obtain rfl := beq_iff_eq.1 same
    rfl

/-- Alike numbers are equal. -/
theorem Alike.sameNumber {left right : Single} (alike : left.Alike right) (number : left.isNaN = false) :
    left.sameNumber right = true := by
  have other : right.isNaN = false := by
    rcases alike with rfl | ⟨-, zero⟩
    · exact number
    · exact isNaN_of_isZero zero
  simp [Single.sameNumber, number, other, (alike_iff_rank left right).1 alike]

/-! ## Bytes -/

/-- The number with these bytes, the lowest first. -/
def ofBytes (first second third fourth : UInt8) : Single :=
  ⟨.ofNat (first.toNat + 0x100 * second.toNat + 0x10000 * third.toNat + 0x1000000 * fourth.toNat)⟩

/-- The numbers of an array, from its bytes. -/
def readAll : List UInt8 → Option (List Single)
  | [] => some []
  | first :: second :: third :: fourth :: rest => (readAll rest).map (ofBytes first second third fourth :: ·)
  | _ => none

theorem bytes_eq (value : Single) :
    value.bytes = [value.bits.toUInt8, (value.bits >>> 8).toUInt8, (value.bits >>> 16).toUInt8,
      (value.bits >>> 24).toUInt8] := rfl

theorem ofBytes_bytes (value : Single) :
    ofBytes value.bits.toUInt8 (value.bits >>> 8).toUInt8 (value.bits >>> 16).toUInt8 (value.bits >>> 24).toUInt8 =
      value := by
  obtain ⟨bits⟩ := value
  have bound := bits.toNat_lt
  rw [ofBytes, Single.mk.injEq, ← UInt32.toNat_inj]
  simp only [UInt32.toNat_ofNat', UInt32.toNat_toUInt8, UInt32.toNat_shiftRight, Nat.shiftRight_eq_div_pow,
    UInt32.reduceToNat, Nat.reduceMod]
  omega

theorem readAll_flatMap_bytes (data : List Single) : readAll (data.flatMap bytes) = some data := by
  induction data with
  | nil => rfl
  | cons value rest ih =>
    rw [List.flatMap_cons, bytes_eq]
    simp only [List.cons_append, List.nil_append, readAll, ih, ofBytes_bytes, Option.map_some]

end Single

/-! ## Equal values -/

namespace StagedUniform

/-- The same texture, or arrays of the same shape with the same bits, except that zeros stand for each other. -/
inductive Alike : StagedUniform → StagedUniform → Prop where
  | floats (components : Nat) {left right : List Single} (alike : List.Forall₂ Single.Alike left right) :
      Alike (.floats components left) (.floats components right)
  | texture (handle : TextureHandle) : Alike (.texture handle) (.texture handle)

/-- No number of an array is a NaN. -/
def isNumeric : StagedUniform → Bool
  | .floats _ data => data.all fun value => !value.isNaN
  | .texture _ => true

theorem Alike.refl : (value : StagedUniform) → Alike value value
  | .floats components _ => .floats components (List.forall₂_same.2 fun value _ => .refl value)
  | .texture handle => .texture handle

theorem Alike.symm {left right : StagedUniform} (alike : Alike left right) : Alike right left := by
  cases alike with
  | floats components alike => exact .floats components (alike.flip.imp fun _ _ => Single.Alike.symm)
  | texture handle => exact .texture handle

theorem alike_of_same {left right : StagedUniform} (same : left.same right = true) : left.Alike right := by
  cases left with
  | floats components data =>
    cases right with
    | floats other otherData =>
      simp only [StagedUniform.same, Bool.and_eq_true, beq_iff_eq, List.all_eq_true, and_assoc] at same
      obtain ⟨rfl, lengths, numbers⟩ := same
      refine .floats components (List.forall₂_iff_zip.2 ⟨lengths, ?_⟩)
      intro first second member
      exact Single.alike_of_sameNumber (numbers (first, second) member)
    | texture handle => simp [StagedUniform.same] at same
  | texture handle =>
    cases right with
    | floats other otherData => simp [StagedUniform.same] at same
    | texture other =>
      obtain rfl := of_decide_eq_true same
      exact .texture handle

theorem Alike.same {left right : StagedUniform} (alike : Alike left right) (numeric : left.isNumeric = true) :
    left.same right = true := by
  cases alike with
  | texture handle => exact decide_eq_true rfl
  | @floats components left right alike =>
    obtain ⟨lengths, pairs⟩ := List.forall₂_iff_zip.1 alike
    simp only [isNumeric, List.all_eq_true, Bool.not_eq_true'] at numeric
    simp only [StagedUniform.same, beq_self_eq_true, Bool.true_and, Bool.and_eq_true, beq_iff_eq, List.all_eq_true]
    refine ⟨lengths, ?_⟩
    rintro ⟨first, second⟩ member
    exact (pairs member).sameNumber (numeric first (List.of_mem_zip member).1)

end StagedUniform

/-! ## Edits -/

namespace UniformStore

/-- Whether the store holds a value that is equal to this one. -/
def holdsSame (store : UniformStore) (name : String) (value : StagedUniform) : Bool :=
  (store.entry? name).any fun entry => entry.value.same value

/-- Staging puts a pending value in place, unless the name is not declared or the store holds an equal value. -/
theorem stage_eq (store : UniformStore) (name : String) (value : UniformValue) :
    store.stage name value =
      if name ∈ store.declared then
        (true, if store.holdsSame name (.ofValue value) then store
          else { store with entries := put ⟨name, .ofValue value, true⟩ store.entries })
      else (false, store) := by
  have declares : store.declares name = true ↔ name ∈ store.declared := List.contains_iff_mem
  unfold stage holdsSame
  by_cases declared : name ∈ store.declared
  · rw [if_pos (declares.2 declared), if_pos declared]
    cases store.entry? name with
    | none => rfl
    | some entry => cases same : entry.value.same (.ofValue value) <;> simp [same]
  · rw [if_neg (mt declares.1 declared), if_neg declared]

theorem declared_stage (store : UniformStore) (name : String) (value : UniformValue) :
    (store.stage name value).2.declared = store.declared := by
  rw [stage_eq]
  split
  · dsimp only
    split <;> rfl
  · rfl

theorem stage_accepts_iff {store : UniformStore} {name : String} {value : UniformValue} :
    (store.stage name value).1 = true ↔ name ∈ store.declared := by
  rw [stage_eq]
  split
  · next declared => exact iff_of_true rfl declared
  · next silent => exact iff_of_false Bool.false_ne_true silent

theorem entry?_stage (store : UniformStore) (name other : String) (value : UniformValue) :
    UniformStore.entry? (store.stage name value).2 other =
      if other = name ∧ name ∈ store.declared ∧ store.holdsSame name (.ofValue value) = false then
        some ⟨name, .ofValue value, true⟩
      else store.entry? other := by
  rw [stage_eq]
  by_cases declared : name ∈ store.declared
  · cases same : store.holdsSame name (.ofValue value) with
    | true => simp [declared]
    | false =>
      simp only [declared, if_true, Bool.false_eq_true, if_false, and_true]
      exact find?_put ..
  · simp [declared]

theorem name_of_entry? {store : UniformStore} {name : String} {entry : StagedEntry}
    (found : store.entry? name = some entry) : entry.name = name := by
  simpa using List.find?_some found

/-- Bytes are taken from a pending array alone, which is then no longer pending. -/
theorem takeBytes_cases (store : UniformStore) (name : String) :
    (store.takeBytes name = none ∧
      ∀ entry, store.entry? name = some entry → entry.pending = true → ∃ handle, entry.value = .texture handle) ∨
    ∃ components data after, store.entry? name = some ⟨name, .floats components data, true⟩ ∧
      store.takeBytes name = some (data.flatMap Single.bytes, after) ∧ after.declared = store.declared ∧
      ∀ other, after.entry? other =
        if other = name then some ⟨name, .floats components data, false⟩ else store.entry? other := by
  unfold takeBytes
  cases found : store.entry? name with
  | none => exact .inl ⟨rfl, nofun⟩
  | some entry =>
    obtain rfl := name_of_entry? found
    obtain ⟨name, value, pending⟩ := entry
    cases pending with
    | false => exact .inl ⟨rfl, by rintro _ ⟨⟩ pending; cases pending⟩
    | true =>
      cases value with
      | texture handle => exact .inl ⟨rfl, by rintro _ ⟨⟩ -; exact ⟨handle, rfl⟩⟩
      | floats components data =>
        exact .inr ⟨components, data, _, rfl, rfl, rfl, fun other => find?_put ..⟩

/-- Nothing is taken from an array only if it is not pending. -/
theorem settled_of_takeBytes {store : UniformStore} {name : String} {components : Nat} {data : List Single}
    (holds : store.get? name = some (.floats components data)) (nothing : store.takeBytes name = none) :
    store.isPending name = false := by
  obtain ⟨entry, found, array⟩ := Option.map_eq_some_iff.1 holds
  rcases store.takeBytes_cases name with ⟨-, texture⟩ | ⟨_, _, _, -, taken, -⟩
  · cases pending : entry.pending with
    | false => simp [isPending, found, pending]
    | true =>
      obtain ⟨handle, same⟩ := texture entry found pending
      cases array.symm.trans same
  · cases nothing.symm.trans taken

end UniformStore

end ShaderWeave
