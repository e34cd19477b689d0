/-! # XXH3, 64 bits

The hash function XXH3 with its default secret and seed zero, over a whole byte sequence. It treats short,
middle and long inputs by different rules; `digest` picks the rule by length.

Reads are little endian, and all arithmetic is modulo 2^64 except for the products, which are taken in full
and folded.
-/

namespace ShaderWeave.Hash.Xxh3

/-- The default secret of the function, 192 bytes. -/
def secret : Array UInt8 := #[
  0xb8, 0xfe, 0x6c, 0x39, 0x23, 0xa4, 0x4b, 0xbe, 0x7c, 0x01, 0x81, 0x2c, 0xf7, 0x21, 0xad, 0x1c,
  0xde, 0xd4, 0x6d, 0xe9, 0x83, 0x90, 0x97, 0xdb, 0x72, 0x40, 0xa4, 0xa4, 0xb7, 0xb3, 0x67, 0x1f,
  0xcb, 0x79, 0xe6, 0x4e, 0xcc, 0xc0, 0xe5, 0x78, 0x82, 0x5a, 0xd0, 0x7d, 0xcc, 0xff, 0x72, 0x21,
  0xb8, 0x08, 0x46, 0x74, 0xf7, 0x43, 0x24, 0x8e, 0xe0, 0x35, 0x90, 0xe6, 0x81, 0x3a, 0x26, 0x4c,
  0x3c, 0x28, 0x52, 0xbb, 0x91, 0xc3, 0x00, 0xcb, 0x88, 0xd0, 0x65, 0x8b, 0x1b, 0x53, 0x2e, 0xa3,
  0x71, 0x64, 0x48, 0x97, 0xa2, 0x0d, 0xf9, 0x4e, 0x38, 0x19, 0xef, 0x46, 0xa9, 0xde, 0xac, 0xd8,
  0xa8, 0xfa, 0x76, 0x3f, 0xe3, 0x9c, 0x34, 0x3f, 0xf9, 0xdc, 0xbb, 0xc7, 0xc7, 0x0b, 0x4f, 0x1d,
  0x8a, 0x51, 0xe0, 0x4b, 0xcd, 0xb4, 0x59, 0x31, 0xc8, 0x9f, 0x7e, 0xc9, 0xd9, 0x78, 0x73, 0x64,
  0xea, 0xc5, 0xac, 0x83, 0x34, 0xd3, 0xeb, 0xc3, 0xc5, 0x81, 0xa0, 0xff, 0xfa, 0x13, 0x63, 0xeb,
  0x17, 0x0d, 0xdd, 0x51, 0xb7, 0xf0, 0xda, 0x49, 0xd3, 0x16, 0x55, 0x26, 0x29, 0xd4, 0x68, 0x9e,
  0x2b, 0x16, 0xbe, 0x58, 0x7d, 0x47, 0xa1, 0xfc, 0x8f, 0xf8, 0xb8, 0xd1, 0x7a, 0xd0, 0x31, 0xce,
  0x45, 0xcb, 0x3a, 0x8f, 0x95, 0x16, 0x04, 0x28, 0xaf, 0xd7, 0xfb, 0xca, 0xbb, 0x4b, 0x40, 0x7e]

def prime32A : UInt64 := 0x9E3779B1
def prime32B : UInt64 := 0x85EBCA77
def prime32C : UInt64 := 0xC2B2AE3D
def prime64A : UInt64 := 0x9E3779B185EBCA87
def prime64B : UInt64 := 0xC2B2AE3D27D4EB4F
def prime64C : UInt64 := 0x165667B19E3779F9
def prime64D : UInt64 := 0x85EBCA77C2B2AE63
def prime64E : UInt64 := 0x27D4EB2F165667C5

/-- `count` bytes from `start`, the first one lowest. Bytes past the end count as zero. -/
def word (bytes : Array UInt8) (start count : Nat) : UInt64 :=
  (List.range count).foldr (fun step rest => rest <<< 8 ||| (bytes.getD (start + step) 0).toUInt64) 0

def word32 (bytes : Array UInt8) (start : Nat) : UInt64 := word bytes start 4
def word64 (bytes : Array UInt8) (start : Nat) : UInt64 := word bytes start 8

def rotateLeft (value : UInt64) (amount : UInt64) : UInt64 :=
  value <<< amount ||| value >>> (64 - amount)

/-- The bytes of a word in reverse order. -/
def swapBytes (value : UInt64) : UInt64 :=
  (List.range 8).foldl (fun swapped step => swapped <<< 8 ||| (value >>> (8 * step).toUInt64 &&& 0xff)) 0

/-- Both halves of the full product, combined. -/
def foldedProduct (left right : UInt64) : UInt64 :=
  let product := left.toNat * right.toNat
  product.toUInt64 ^^^ (product >>> 64).toUInt64

/-- Last mixing step of inputs of more than eight bytes. -/
def avalanche (value : UInt64) : UInt64 :=
  let value := value ^^^ value >>> 37
  let value := value * 0x165667919E3779F9
  value ^^^ value >>> 32

/-- Last mixing step of inputs of at most three bytes. -/
def strongAvalanche (value : UInt64) : UInt64 :=
  let value := value ^^^ value >>> 33
  let value := value * prime64B
  let value := value ^^^ value >>> 29
  let value := value * prime64C
  value ^^^ value >>> 32

/-- Mixes sixteen bytes at `start` with sixteen bytes of the secret. -/
def mix (bytes : Array UInt8) (start secretStart : Nat) : UInt64 :=
  foldedProduct (word64 bytes start ^^^ word64 secret secretStart)
    (word64 bytes (start + 8) ^^^ word64 secret (secretStart + 8))

def digestEmpty : UInt64 :=
  strongAvalanche (word64 secret 56 ^^^ word64 secret 64)

def digestTo3 (bytes : Array UInt8) : UInt64 :=
  let size := bytes.size
  let combined := word bytes 0 1 <<< 16 ||| word bytes (size / 2) 1 <<< 24 ||| word bytes (size - 1) 1
    ||| size.toUInt64 <<< 8
  strongAvalanche (combined ^^^ (word32 secret 0 ^^^ word32 secret 4))

def digestTo8 (bytes : Array UInt8) : UInt64 :=
  let size := bytes.size
  let input := word32 bytes (size - 4) + word32 bytes 0 <<< 32
  let value := input ^^^ (word64 secret 8 ^^^ word64 secret 16)
  let value := value ^^^ (rotateLeft value 49 ^^^ rotateLeft value 24)
  let value := value * 0x9FB21C651E98DF25
  let value := value ^^^ (value >>> 35 + size.toUInt64)
  let value := value * 0x9FB21C651E98DF25
  value ^^^ value >>> 28

def digestTo16 (bytes : Array UInt8) : UInt64 :=
  let size := bytes.size
  let low := word64 bytes 0 ^^^ (word64 secret 24 ^^^ word64 secret 32)
  let high := word64 bytes (size - 8) ^^^ (word64 secret 40 ^^^ word64 secret 48)
  avalanche (size.toUInt64 + swapBytes low + high + foldedProduct low high)

/-- From 17 to 128 bytes: pairs of mixes from both ends inwards, as many as the length fills. -/
def digestTo128 (bytes : Array UInt8) : UInt64 :=
  let size := bytes.size
  let pairs := (size - 1) / 32 + 1
  avalanche ((List.range pairs).foldl
    (fun sum step =>
      sum + mix bytes (16 * step) (32 * step) + mix bytes (size - 16 * (step + 1)) (32 * step + 16))
    (size.toUInt64 * prime64A))

def digestTo240 (bytes : Array UInt8) : UInt64 :=
  let size := bytes.size
  let rounds := size / 16
  let first := (List.range 8).foldl (fun sum step => sum + mix bytes (16 * step) (16 * step))
    (size.toUInt64 * prime64A)
  let second := (List.range (rounds - 8)).foldl
    (fun sum step => sum + mix bytes (16 * (step + 8)) (16 * step + 3)) (avalanche first)
  avalanche (second + mix bytes (size - 16) 119)

/-- The eight running sums of a long input. -/
abbrev Lanes := Vector UInt64 8

def initialLanes : Lanes :=
  #v[prime32C, prime64A, prime64B, prime64C, prime64D, prime32B, prime64E, prime32A]

/-- Adds a stripe of 64 bytes: each word to its neighbour's lane, and its keyed halves' product to its own. -/
def Lanes.accumulate (lanes : Lanes) (bytes : Array UInt8) (start secretStart : Nat) : Lanes :=
  Vector.ofFn fun lane =>
    let neighbour := word64 bytes (start + 8 * (lane.val ^^^ 1))
    let keyed := word64 bytes (start + 8 * lane.val) ^^^ word64 secret (secretStart + 8 * lane.val)
    lanes[lane] + (neighbour + (keyed &&& (0xFFFFFFFF : UInt64)) * (keyed >>> 32))

def Lanes.scramble (lanes : Lanes) : Lanes :=
  Vector.ofFn fun lane =>
    let value := lanes[lane]
    (value ^^^ value >>> 47 ^^^ word64 secret (128 + 8 * lane.val)) * prime32A

def Lanes.merge (lanes : Lanes) (size : Nat) : UInt64 :=
  avalanche ((List.finRange 4).foldl
    (fun sum pair => sum +
      foldedProduct (lanes[2 * pair.val] ^^^ word64 secret (11 + 16 * pair.val))
        (lanes[2 * pair.val + 1] ^^^ word64 secret (19 + 16 * pair.val)))
    (size.toUInt64 * prime64A))

/-- More than 240 bytes: blocks of sixteen stripes, scrambled after each block, then the stripes of the last
block, then the last 64 bytes. -/
def digestLong (bytes : Array UInt8) : UInt64 :=
  let size := bytes.size
  let blocks := (size - 1) / 1024
  let stripes := (size - 1 - 1024 * blocks) / 64
  let addStripes := fun (lanes : Lanes) (start count : Nat) =>
    (List.range count).foldl (fun lanes step => lanes.accumulate bytes (start + 64 * step) (8 * step)) lanes
  let lanes := (List.range blocks).foldl
    (fun lanes block => (addStripes lanes (1024 * block) 16).scramble) initialLanes
  let lanes := addStripes lanes (1024 * blocks) stripes
  (lanes.accumulate bytes (size - 64) 121).merge size

def digest (bytes : Array UInt8) : UInt64 :=
  if bytes.size = 0 then digestEmpty
  else if bytes.size ≤ 3 then digestTo3 bytes
  else if bytes.size ≤ 8 then digestTo8 bytes
  else if bytes.size ≤ 16 then digestTo16 bytes
  else if bytes.size ≤ 128 then digestTo128 bytes
  else if bytes.size ≤ 240 then digestTo240 bytes
  else digestLong bytes

end ShaderWeave.Hash.Xxh3
