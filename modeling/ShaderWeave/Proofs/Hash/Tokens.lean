import Mathlib.Algebra.GroupWithZero.Nat
import Mathlib.Data.List.Infix
import ShaderWeave.Hash.Tokens

/-! # Lists of tokens are told apart

The byte stream of a list of tokens is read back from the front: eight bytes give the length of the first token, and
its bytes end where the next length begins. So two lists have the same stream only if they are the same list, and only
the digest can confuse them.
-/

namespace ShaderWeave

/-- Numbers whose lowest digits agree leave the same remainder. -/
theorem mod_pow_congr {base count first second : Nat}
    (digits : ∀ step < count, first / base ^ step % base = second / base ^ step % base) :
    first % base ^ count = second % base ^ count := by
  induction count with
  | zero => rw [Nat.pow_zero, Nat.mod_one, Nat.mod_one]
  | succ count ih =>
    have lower := ih fun step below => digits step (Nat.lt_succ_of_lt below)
    rw [Nat.mod_pow_succ, Nat.mod_pow_succ, lower, digits count (Nat.lt_succ_self count)]

/-! ## Digits of keys -/

namespace Text

theorem hexDigit_inj {first second : Nat} (firstBelow : first < 16) (secondBelow : second < 16)
    (same : hexDigit first = hexDigit second) : first = second := by
  have each : ∀ first < 16, ∀ second < 16, hexDigit first = hexDigit second → first = second := by decide
  exact each first firstBelow second secondBelow same

/-- Numbers that fit into the digits are written differently. -/
theorem hexDigits_inj {count first second : Nat} (firstFits : first < 16 ^ count) (secondFits : second < 16 ^ count)
    (same : hexDigits count first = hexDigits count second) : first = second := by
  have chars := List.map_inj_left.1 (String.ofList_injective same)
  have digits : ∀ step < count, first / 16 ^ step % 16 = second / 16 ^ step % 16 := by
    intro step below
    have here := chars step (List.mem_reverse.2 (List.mem_range.2 below))
    exact hexDigit_inj (Nat.mod_lt _ (by decide)) (Nat.mod_lt _ (by decide)) here
  have remainders := mod_pow_congr digits
  rwa [Nat.mod_eq_of_lt firstFits, Nat.mod_eq_of_lt secondFits] at remainders

end Text

/-! ## Streams of tokens -/

namespace Hash.Tokens

/-- Every token has a length that eight bytes can hold, as texts in memory have. -/
def Fits (tokens : List String) : Prop := ∀ token ∈ tokens, token.utf8ByteSize < 2 ^ 64

instance (tokens : List String) : Decidable (Fits tokens) :=
  inferInstanceAs (Decidable (∀ token ∈ tokens, _))

theorem length_lengthBytes (length : Nat) : (lengthBytes length).length = 8 := by
  simp [lengthBytes]

theorem lengthBytes_inj {first second : Nat} (firstFits : first < 2 ^ 64) (secondFits : second < 2 ^ 64)
    (same : lengthBytes first = lengthBytes second) : first = second := by
  have bytes := List.map_inj_left.1 same
  have digits : ∀ step < 8, first / 256 ^ step % 256 = second / 256 ^ step % 256 := by
    intro step below
    simpa using congrArg UInt8.toNat (bytes step (List.mem_range.2 below))
  have remainders := mod_pow_congr digits
  have wide : 256 ^ 8 = 2 ^ 64 := by decide
  rwa [wide, Nat.mod_eq_of_lt firstFits, Nat.mod_eq_of_lt secondFits] at remainders

theorem length_toUTF8 (token : String) : token.toUTF8.data.toList.length = token.utf8ByteSize := rfl

theorem toUTF8_inj {first second : String} (same : first.toUTF8.data.toList = second.toUTF8.data.toList) :
    first = second :=
  String.toByteArray_inj.1 (ByteArray.ext (Array.toList_inj.1 same))

/-- The token in front of a stream is read off it. -/
theorem encodeToken_append_inj {first second : String} {firstRest secondRest : List UInt8}
    (firstFits : first.utf8ByteSize < 2 ^ 64) (secondFits : second.utf8ByteSize < 2 ^ 64)
    (same : encodeToken first ++ firstRest = encodeToken second ++ secondRest) :
    first = second ∧ firstRest = secondRest := by
  simp only [encodeToken, List.append_assoc, length_toUTF8] at same
  obtain ⟨lengths, behind⟩ := List.append_inj same ((length_lengthBytes _).trans (length_lengthBytes _).symm)
  obtain ⟨bytes, rest⟩ := List.append_inj behind (lengthBytes_inj firstFits secondFits lengths)
  exact ⟨toUTF8_inj bytes, rest⟩

theorem encodeToken_ne_nil (token : String) : encodeToken token ≠ [] := by
  intro none
  have lengths := congrArg List.length none
  rw [encodeToken, List.length_append, length_lengthBytes, List.length_nil] at lengths
  omega

/-- Lists of tokens with the same stream are the same. -/
theorem encode_inj {first second : List String} (firstFits : Fits first) (secondFits : Fits second)
    (same : encode first = encode second) : first = second := by
  induction first generalizing second with
  | nil =>
    cases second with
    | nil => rfl
    | cons token rest => exact absurd (List.append_eq_nil_iff.1 same.symm).1 (encodeToken_ne_nil token)
  | cons token rest ih =>
    cases second with
    | nil => exact absurd (List.append_eq_nil_iff.1 same).1 (encodeToken_ne_nil token)
    | cons other others =>
      obtain ⟨firstHere, firstLater⟩ := List.forall_mem_cons.1 firstFits
      obtain ⟨secondHere, secondLater⟩ := List.forall_mem_cons.1 secondFits
      obtain ⟨rfl, later⟩ := encodeToken_append_inj firstHere secondHere same
      rw [ih firstLater secondLater later]

/-- A key stands for its digest. -/
theorem digest_eq_of_hash_eq {first second : List String} (same : hash first = hash second) :
    Xxh3.digest (encode first).toArray = Xxh3.digest (encode second).toArray :=
  UInt64.toNat_inj.1 (Text.hexDigits_inj (UInt64.toNat_lt _) (UInt64.toNat_lt _) same)

end Hash.Tokens

end ShaderWeave
