/-!
# A 64-bit digest of bytes

XXH3 in its 64-bit form, with seed 0 and the default secret.  It stands for a long text where keeping
the text itself would be wasteful; it is no protection against a forged text.

Inputs up to 240 bytes are mixed 16 bytes at a time, with a formula for each range of lengths.  Longer
ones run through eight lanes in stripes of 64 bytes; after every 16 stripes the lanes are scrambled.
All arithmetic is modulo `2^64`, numbers are read in little-endian order, and a product is folded by
taking the exclusive or of its two halves.
-/

namespace LiteralPatch
namespace Digest

/-- The bytes that key the digest. -/
def secretBytes : List UInt8 := [
  0xb8, 0xfe, 0x6c, 0x39, 0x23, 0xa4, 0x4b, 0xbe, 0x7c, 0x01, 0x81, 0x2c, 0xf7, 0x21, 0xad, 0x1c,
  0xde, 0xd4, 0x6d, 0xe9, 0x83, 0x90, 0x97, 0xdb, 0x72, 0x40, 0xa4, 0xa4, 0xb7, 0xb3, 0x67, 0x1f,
  0xcb, 0x79, 0xe6, 0x4e, 0xcc, 0xc0, 0xe5, 0x78, 0x82, 0x5a, 0xd0, 0x7d, 0xcc, 0xff, 0x72, 0x21,
  0xb8, 0x08, 0x46, 0x74, 0xf7, 0x43, 0x24, 0x8e, 0xe0, 0x35, 0x90, 0xe6, 0x81, 0x3a, 0x26, 0x4c,
  0x3c, 0x28, 0x52, 0xbb, 0x91, 0xc3, 0x00, 0xcb, 0x88, 0xd0, 0x65, 0x8b, 0x1b, 0x53, 0x2e, 0xa3,
  0x71, 0x64, 0x48, 0x97, 0xa2, 0x0d, 0xf9, 0x4e, 0x38, 0x19, 0xef, 0x46, 0xa9, 0xde, 0xac, 0xd8,
  0xa8, 0xfa, 0x76, 0x3f, 0xe3, 0x9c, 0x34, 0x3f, 0xf9, 0xdc, 0xbb, 0xc7, 0xc7, 0x0b, 0x4f, 0x1d,
  0x8a, 0x51, 0xe0, 0x4b, 0xcd, 0xb4, 0x59, 0x31, 0xc8, 0x9f, 0x7e, 0xc9, 0xd9, 0x78, 0x73, 0x64,
  0xea, 0xc5, 0xac, 0x83, 0x34, 0xd3, 0xeb, 0xc3, 0xc5, 0x81, 0xa0, 0xff, 0xfa, 0x13, 0x63, 0xeb,
  0x17, 0x0d, 0xdd, 0x51, 0xb7, 0xf0, 0xda, 0x49, 0xd3, 0x16, 0x55, 0x26, 0x29, 0xd4, 0x68, 0x9e,
  0x2b, 0x16, 0xbe, 0x58, 0x7d, 0x47, 0xa1, 0xfc, 0x8f, 0xf8, 0xb8, 0xd1, 0x7a, 0xd0, 0x31, 0xce,
  0x45, 0xcb, 0x3a, 0x8f, 0x95, 0x16, 0x04, 0x28, 0xaf, 0xd7, 0xfb, 0xca, 0xbb, 0x4b, 0x40, 0x7e]

def secret : ByteArray := ⟨secretBytes.toArray⟩

/-! ## Numbers and constants -/

def prime32A : UInt64 := 0x9E3779B1
def prime32B : UInt64 := 0x85EBCA77
def prime32C : UInt64 := 0xC2B2AE3D
def prime64A : UInt64 := 0x9E3779B185EBCA87
def prime64B : UInt64 := 0xC2B2AE3D27D4EB4F
def prime64C : UInt64 := 0x165667B19E3779F9
def prime64D : UInt64 := 0x85EBCA77C2B2AE63
def prime64E : UInt64 := 0x27D4EB2F165667C5
def mixA : UInt64 := 0x165667919E3779F9
def mixB : UInt64 := 0x9FB21C651E98DF25

/-- A byte of the input; behind the end, zero. -/
def byteAt (d : ByteArray) (i : Nat) : UInt64 :=
  if h : i < d.size then d[i].toUInt64 else 0

/-- Four bytes from `i` on. -/
def word32 (d : ByteArray) (i : Nat) : UInt64 :=
  byteAt d i ||| (byteAt d (i + 1) <<< 8) ||| (byteAt d (i + 2) <<< 16) |||
    (byteAt d (i + 3) <<< 24)

/-- Eight bytes from `i` on. -/
def word64 (d : ByteArray) (i : Nat) : UInt64 :=
  word32 d i ||| (word32 d (i + 4) <<< 32)

def rotateLeft (x : UInt64) (n : UInt64) : UInt64 :=
  (x <<< n) ||| (x >>> (64 - n))

/-- The bytes of a number in the opposite order. -/
def swapBytes (x : UInt64) : UInt64 :=
  (List.range 8).foldl (fun acc k => (acc <<< 8) ||| ((x >>> (8 * k.toUInt64)) &&& 0xFF)) 0

/-- The two halves of the full product, joined. -/
def foldedProduct (x y : UInt64) : UInt64 :=
  let p := x.toNat * y.toNat
  UInt64.ofNat p ^^^ UInt64.ofNat (p / 0x10000000000000000)

/-! ## Final mixing -/

def avalanche (h : UInt64) : UInt64 :=
  let h := (h ^^^ (h >>> 37)) * mixA
  h ^^^ (h >>> 32)

/-- The stronger mixing for the shortest inputs. -/
def avalancheShort (h : UInt64) : UInt64 :=
  let h := (h ^^^ (h >>> 33)) * prime64B
  let h := (h ^^^ (h >>> 29)) * prime64C
  h ^^^ (h >>> 32)

def rotateMix (h len : UInt64) : UInt64 :=
  let h := (h ^^^ rotateLeft h 49 ^^^ rotateLeft h 24) * mixB
  let h := (h ^^^ ((h >>> 35) + len)) * mixB
  h ^^^ (h >>> 28)

/-! ## Up to 240 bytes -/

/-- Mixes 16 bytes of the input with 16 bytes of the secret. -/
def mix16 (d : ByteArray) (i s : Nat) : UInt64 :=
  foldedProduct (word64 d i ^^^ word64 secret s) (word64 d (i + 8) ^^^ word64 secret (s + 8))

def upTo16 (d : ByteArray) : UInt64 :=
  let n := d.size
  let len := n.toUInt64
  if n = 0 then avalancheShort (word64 secret 56 ^^^ word64 secret 64)
  else if n ≤ 3 then
    let combined := (byteAt d 0 <<< 16) ||| (byteAt d (n / 2) <<< 24) ||| byteAt d (n - 1) |||
      (len <<< 8)
    avalancheShort (combined ^^^ (word32 secret 0 ^^^ word32 secret 4))
  else if n ≤ 8 then
    let input := word32 d (n - 4) + (word32 d 0 <<< 32)
    rotateMix (input ^^^ (word64 secret 8 ^^^ word64 secret 16)) len
  else
    let lo := word64 d 0 ^^^ (word64 secret 24 ^^^ word64 secret 32)
    let hi := word64 d (n - 8) ^^^ (word64 secret 40 ^^^ word64 secret 48)
    avalanche (len + swapBytes lo + hi + foldedProduct lo hi)

/-- From both ends towards the middle, 16 bytes at a time. -/
def upTo128 (d : ByteArray) : UInt64 :=
  let n := d.size
  let pairs := (n - 1) / 32
  avalanche ((List.range (pairs + 1)).foldl
    (fun acc k => acc + mix16 d (16 * k) (32 * k) + mix16 d (n - 16 * (k + 1)) (32 * k + 16))
    (n.toUInt64 * prime64A))

def upTo240 (d : ByteArray) : UInt64 :=
  let n := d.size
  let first := (List.range 8).foldl (fun acc k => acc + mix16 d (16 * k) (16 * k))
    (n.toUInt64 * prime64A)
  let rest := (List.range (n / 16 - 8)).foldl
    (fun acc k => acc + mix16 d (16 * (k + 8)) (16 * k + 3)) (avalanche first)
  avalanche (rest + mix16 d (n - 16) 119)

/-! ## More than 240 bytes -/

/-- The eight lanes. -/
abbrev Lanes := Array UInt64

def initialLanes : Lanes :=
  #[prime32C, prime64A, prime64B, prime64C, prime64D, prime32B, prime64E, prime32A]

/-- Adds a stripe of 64 bytes to the lanes. -/
def addStripe (d : ByteArray) (i s : Nat) (lanes : Lanes) : Lanes :=
  (List.range 8).foldl
    (fun acc k =>
      let value := word64 d (i + 8 * k)
      let key := value ^^^ word64 secret (s + 8 * k)
      let other := if k % 2 = 0 then k + 1 else k - 1
      let acc := acc.modify other fun a => a + value
      acc.modify k fun a => a + (key &&& (0xFFFFFFFF : UInt64)) * (key >>> (32 : UInt64))) lanes

def scramble (lanes : Lanes) : Lanes :=
  (List.range 8).foldl
    (fun acc k =>
      acc.modify k fun a => ((a ^^^ (a >>> 47)) ^^^ word64 secret (128 + 8 * k)) * prime32A) lanes

/-- Adds `count` stripes from byte `i` on. -/
def addStripes (d : ByteArray) (i count : Nat) (lanes : Lanes) : Lanes :=
  (List.range count).foldl (fun acc k => addStripe d (i + 64 * k) (8 * k) acc) lanes

def long (d : ByteArray) : UInt64 :=
  let n := d.size
  let blocks := (n - 1) / 1024
  let lanes := (List.range blocks).foldl
    (fun acc b => scramble (addStripes d (1024 * b) 16 acc)) initialLanes
  let lanes := addStripes d (1024 * blocks) ((n - 1 - 1024 * blocks) / 64) lanes
  let lanes := addStripe d (n - 64) 121 lanes
  avalanche ((List.range 4).foldl
    (fun acc k =>
      acc + foldedProduct (lanes.getD (2 * k) 0 ^^^ word64 secret (11 + 16 * k))
        (lanes.getD (2 * k + 1) 0 ^^^ word64 secret (19 + 16 * k)))
    (n.toUInt64 * prime64A))

/-- The digest of bytes. -/
def ofBytes (d : ByteArray) : UInt64 :=
  if d.size ≤ 16 then upTo16 d
  else if d.size ≤ 128 then upTo128 d
  else if d.size ≤ 240 then upTo240 d
  else long d

/-- The digest of the UTF-8 form of a text. -/
def ofText (text : String) : UInt64 :=
  ofBytes text.toUTF8

end Digest
end LiteralPatch
