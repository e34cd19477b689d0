import ShaderWeave.Hash.Xxh3
import ShaderWeave.Text.Hex

/-! # Keys from lists of tokens

A key is built from an ordered list of texts. Each text enters the hash behind its length, so moving a
boundary between two texts changes what is hashed: `encode` is the whole byte stream, and `hash` is its digest
as sixteen hexadecimal digits.
-/

namespace ShaderWeave.Hash.Tokens

/-- A length as eight bytes, the lowest first. -/
def lengthBytes (length : Nat) : List UInt8 :=
  (List.range 8).map fun step => (length / Nat.pow 256 step).toUInt8

def encodeToken (token : String) : List UInt8 :=
  let bytes := token.toUTF8.data.toList
  lengthBytes bytes.length ++ bytes

/-- Every token behind its length in bytes. -/
def encode (tokens : List String) : List UInt8 :=
  tokens.flatMap encodeToken

def hash (tokens : List String) : String :=
  Text.hexDigits 16 (Xxh3.digest (encode tokens).toArray).toNat

/-- The common case of two tokens. -/
def hashPair (first second : String) : String :=
  hash [first, second]

end ShaderWeave.Hash.Tokens
