import KoServer.Lib.Feistel
import KoServer.Spec.NpcTrade

/-! The two layers of a ChaosExpansion `.tbl` file, from `ko-tbl-import/src/decrypt.rs`. An
index out of range panics in the source; where the code could run into one the model is
`none`. -/

namespace KoServer.Tbl

set_option maxRecDepth 10000 in
def KEY : Vector UInt8 768 := #v[
  0, 0, 1, 1, 1, 0, 0, 0, 1, 1, 0, 1, 1, 1, 0, 1, 1, 1, 1, 1, 1, 0, 0, 0, 0, 1, 0, 1, 0, 1, 1, 1, 1,
  0, 0, 0, 0, 0, 1, 1, 0, 0, 0, 0, 1, 1, 1, 1, 1, 1, 0, 1, 0, 1, 1, 1, 1, 1, 1, 1, 1, 0, 0, 0, 1, 0,
  0, 1, 0, 0, 0, 0, 0, 0, 1, 0, 0, 1, 0, 0, 1, 0, 0, 0, 0, 1, 1, 1, 1, 0, 0, 1, 1, 1, 1, 0, 0, 0, 0,
  1, 1, 1, 1, 0, 1, 0, 1, 0, 1, 1, 1, 1, 1, 1, 1, 1, 0, 1, 1, 0, 0, 1, 0, 1, 1, 1, 0, 1, 0, 0, 1, 1,
  0, 1, 0, 0, 1, 1, 0, 0, 0, 1, 1, 1, 1, 1, 1, 1, 1, 1, 1, 0, 0, 1, 1, 1, 0, 1, 0, 0, 0, 0, 0, 0, 1,
  1, 1, 1, 0, 1, 1, 0, 1, 1, 1, 0, 1, 1, 0, 0, 0, 0, 0, 0, 1, 1, 1, 0, 1, 0, 0, 1, 0, 1, 1, 0, 1, 0,
  1, 1, 1, 0, 0, 0, 0, 1, 1, 1, 0, 1, 1, 0, 1, 1, 0, 0, 0, 0, 0, 0, 0, 0, 1, 0, 1, 1, 1, 1, 1, 1, 0,
  1, 0, 1, 0, 0, 1, 1, 1, 1, 1, 1, 0, 0, 1, 0, 0, 0, 1, 1, 0, 1, 1, 0, 0, 0, 1, 0, 1, 1, 1, 1, 1, 1,
  1, 0, 1, 0, 1, 1, 1, 0, 1, 0, 0, 1, 0, 1, 0, 1, 1, 0, 1, 1, 0, 0, 0, 0, 1, 0, 1, 1, 0, 1, 0, 1, 1,
  0, 1, 0, 1, 0, 1, 1, 0, 1, 1, 1, 1, 0, 1, 0, 1, 1, 0, 0, 1, 0, 0, 1, 0, 1, 0, 0, 1, 1, 1, 1, 0, 1,
  1, 0, 0, 0, 1, 1, 1, 0, 1, 0, 0, 1, 1, 0, 0, 1, 1, 1, 1, 1, 1, 0, 1, 0, 1, 0, 0, 0, 1, 1, 0, 1, 0,
  1, 1, 1, 1, 0, 1, 1, 0, 0, 1, 0, 1, 0, 0, 0, 0, 1, 1, 0, 0, 0, 0, 0, 1, 1, 1, 1, 0, 0, 1, 0, 1, 1,
  0, 0, 1, 1, 0, 1, 0, 0, 0, 1, 1, 1, 1, 0, 0, 1, 0, 0, 0, 0, 1, 0, 0, 0, 1, 1, 0, 0, 0, 1, 1, 1, 1,
  1, 1, 0, 0, 0, 1, 0, 0, 0, 1, 1, 0, 1, 0, 1, 1, 1, 0, 0, 0, 1, 1, 1, 1, 1, 1, 1, 1, 1, 0, 0, 1, 1,
  0, 1, 1, 0, 0, 1, 1, 1, 1, 0, 1, 0, 0, 1, 0, 1, 0, 0, 1, 1, 1, 0, 1, 1, 0, 1, 0, 1, 1, 0, 0, 0, 0,
  1, 1, 1, 1, 1, 0, 1, 0, 0, 0, 0, 0, 1, 1, 0, 0, 1, 0, 1, 1, 0, 0, 1, 1, 0, 1, 1, 1, 1, 1, 0, 0, 1,
  1, 0, 0, 1, 0, 1, 1, 0, 1, 1, 0, 0, 1, 1, 1, 1, 1, 0, 1, 1, 1, 0, 0, 1, 0, 0, 1, 1, 1, 0, 1, 1, 1,
  1, 0, 1, 1, 0, 0, 0, 0, 0, 0, 0, 0, 1, 0, 1, 1, 1, 0, 1, 1, 1, 1, 1, 0, 0, 1, 1, 0, 0, 1, 1, 0, 0,
  1, 1, 0, 0, 1, 1, 1, 0, 0, 0, 0, 0, 1, 0, 0, 1, 1, 0, 0, 1, 0, 1, 1, 0, 1, 1, 0, 1, 1, 0, 1, 0, 1,
  0, 1, 1, 1, 1, 1, 0, 0, 1, 1, 1, 1, 0, 1, 1, 0, 0, 1, 1, 0, 1, 1, 0, 1, 0, 1, 1, 0, 1, 0, 0, 1, 0,
  1, 0, 1, 1, 1, 0, 0, 0, 0, 1, 0, 1, 0, 1, 0, 1, 1, 0, 1, 1, 0, 1, 1, 1, 0, 0, 1, 0, 1, 1, 0, 0, 1,
  1, 1, 0, 1, 1, 1, 1, 0, 0, 1, 0, 0, 1, 0, 0, 0, 0, 1, 0, 1, 1, 0, 1, 0, 0, 1, 1, 0, 1, 1, 1, 0, 1,
  0, 1, 0, 0, 0, 0, 1, 1, 1, 0, 1, 1, 1, 1, 1, 1, 0, 1, 1, 1, 1, 1, 0, 0, 1, 1, 1, 0, 1, 0, 1, 0, 0,
  1, 0, 1, 0, 0, 0, 1, 1, 0]

def EXPANSION_MATRIX : Vector ℕ 48 := #v[
  32, 1, 2, 3, 4, 5, 4, 5, 6, 7, 8, 9, 8, 9, 10, 11, 12, 13, 12, 13, 14, 15, 16, 17, 16, 17, 18,
  19, 20, 21, 20, 21, 22, 23, 24, 25, 24, 25, 26, 27, 28, 29, 28, 29, 30, 31, 32, 1]

def PERMUTATION : Vector ℕ 32 := #v[
  16, 7, 20, 21, 29, 12, 28, 17, 1, 15, 23, 26, 5, 18, 31, 10, 2, 8, 24, 14, 32, 27, 3, 9, 19, 13,
  30, 6, 22, 11, 4, 25]

def SBOX_0 : Vector UInt32 64 := #v[
  0x10101, 0x100, 0x1000101, 0x1000000, 0x10000, 0x1010101, 0x1010001, 1, 0x1010000, 0x10001,
  0x10100, 0x101, 0x1000100, 0x1000001, 0, 0x1010100, 0, 0x1010101, 0x1010100, 0x100, 0x10101,
  0x10000, 0x1000101, 0x1000000, 0x10001, 0x10100, 0x101, 0x1010001, 0x1000001, 0x1000100,
  0x1010000, 1, 0x100, 0x1000000, 0x10101, 1, 0x1000101, 0x10100, 0x10000, 0x1010001, 0x1010101,
  0x101, 0x1000001, 0x1010100, 0x1010000, 0x10001, 0x1000100, 0, 0x1010101, 0x101, 1, 0x10000,
  0x100, 0x1000001, 0x1000000, 0x1010100, 0x1000100, 0x1010001, 0x1010000, 0x10101, 0x10001, 0,
  0x10100, 0x1000101]

def SBOX_1 : Vector UInt32 64 := #v[
  0x1010101, 0x1000000, 1, 0x10101, 0x10100, 0x1010001, 0x1010000, 0x100, 0x1000001, 0x1010100,
  0x10000, 0x1000101, 0x101, 0, 0x1000100, 0x10001, 0x1010000, 0x1000101, 0x100, 0x1010100,
  0x1010101, 0x10000, 1, 0x10101, 0x101, 0, 0x1000000, 0x10001, 0x10100, 0x1000001, 0x1010001,
  0x1000100, 0, 0x10101, 0x1010100, 0x1010001, 0x10001, 0x100, 0x1000101, 0x1000000, 0x1000100, 1,
  0x101, 0x10100, 0x1000001, 0x1010000, 0x10000, 0x1010101, 0x1000101, 1, 0x10001, 0x1000000,
  0x1010000, 0x1010101, 0x100, 0x10000, 0x1010001, 0x10100, 0x1010100, 0x101, 0, 0x1000100,
  0x10101, 0x1000001]

def SBOX_2 : Vector UInt32 64 := #v[
  0x10001, 0, 0x1000001, 0x10101, 0x10100, 0x1010000, 0x1010101, 0x1000100, 0x1000000, 0x1000101,
  0x101, 0x1010100, 0x1010001, 0x100, 0x10000, 1, 0x1000101, 0x1010100, 0, 0x1000001, 0x1010000,
  0x100, 0x10100, 0x10001, 0x10000, 1, 0x1000100, 0x10101, 0x101, 0x1010001, 0x1010101, 0x1000000,
  0x1000101, 0x10100, 0x100, 0x1000001, 1, 0x1010101, 0x1010000, 0, 0x1010001, 0x1000000, 0x10000,
  0x101, 0x1000100, 0x10001, 0x10101, 0x1010100, 0x1000000, 0x10001, 0x1000101, 0, 0x10100,
  0x1000001, 1, 0x1010100, 0x100, 0x1010101, 0x10101, 0x1010000, 0x1010001, 0x1000100, 0x10000,
  0x101]

def SBOX_3 : Vector UInt32 64 := #v[
  0x1010100, 0x1000101, 0x10101, 0x1010000, 0, 0x10100, 0x1000001, 0x10001, 0x1000000, 0x10000, 1,
  0x1000100, 0x1010001, 0x101, 0x100, 0x1010101, 0x1000101, 1, 0x1010001, 0x1000100, 0x10100,
  0x1010101, 0, 0x1010000, 0x100, 0x1010100, 0x10000, 0x101, 0x1000000, 0x10001, 0x10101,
  0x1000001, 0x10001, 0x10100, 0x1000001, 0, 0x101, 0x1010001, 0x1010100, 0x1000101, 0x1010101,
  0x1000000, 0x1010000, 0x10101, 0x1000100, 0x10000, 1, 0x100, 0x1010000, 0x1010101, 0, 0x10100,
  0x10001, 0x1000000, 0x1000101, 1, 0x1000001, 0x100, 0x1000100, 0x1010001, 0x101, 0x1010100,
  0x10000, 0x10101]

def SBOX_4 : Vector UInt32 64 := #v[
  0x10000, 0x101, 0x100, 0x1000000, 0x1010100, 0x10001, 0x1010001, 0x10100, 1, 0x1000100,
  0x1010000, 0x1010101, 0x1000101, 0, 0x10101, 0x1000001, 0x10101, 0x1010001, 0x10000, 0x101,
  0x100, 0x1010100, 0x1000101, 0x1000000, 0x1000100, 0, 0x1010101, 0x10001, 0x1010000, 0x1000001,
  1, 0x10100, 0x100, 0x10000, 0x1000000, 0x1010001, 0x10001, 0x1000101, 0x1010100, 1, 0x1010101,
  0x1000001, 0x101, 0x1000100, 0x10100, 0x1010000, 0, 0x10101, 0x1010001, 1, 0x101, 0x1010100,
  0x1000000, 0x10101, 0x10000, 0x1000101, 0x10100, 0x1010101, 0, 0x1000001, 0x10001, 0x100,
  0x1000100, 0x1010000]

def SBOX_5 : Vector UInt32 64 := #v[
  0x101, 0x1000000, 0x10001, 0x1010101, 0x1000001, 0x10000, 0x10100, 1, 0, 0x1000101, 0x1010000,
  0x100, 0x10101, 0x1010100, 0x1000100, 0x1010001, 0x10001, 0x1010101, 0x100, 0x10000, 0x1010100,
  0x101, 0x1000001, 0x1000100, 0x10100, 0x1000000, 0x1000101, 0x10101, 0, 0x1010001, 0x1010000, 1,
  0x1000001, 0x10101, 0x1010101, 0x1000100, 0x10000, 1, 0x101, 0x1010000, 0x1010100, 0, 0x100,
  0x10001, 0x1000000, 0x1000101, 0x1010001, 0x10100, 0x100, 0x1010000, 0x10000, 0x101, 0x1000001,
  0x1000100, 0x1010101, 0x10001, 0x1010001, 0x10101, 0x1000000, 0x1010100, 0x10100, 0, 1,
  0x1000101]

def SBOX_6 : Vector UInt32 64 := #v[
  0x100, 0x1010001, 0x10000, 0x10101, 0x1010101, 0, 1, 0x1000101, 0x1010000, 0x101, 0x1000001,
  0x1010100, 0x1000100, 0x10001, 0x10100, 0x1000000, 0x1000101, 0, 0x1010001, 0x1010100, 0x100,
  0x1000001, 0x1000000, 0x10001, 0x10101, 0x1010000, 0x1000100, 0x101, 0x10000, 0x1010101, 1,
  0x10100, 0x1000000, 0x100, 0x1010001, 0x1000101, 0x101, 0x1010000, 0x1010100, 0x10101, 0x10001,
  0x1010101, 0x10100, 1, 0, 0x1000100, 0x1000001, 0x10000, 0x10100, 0x1010001, 0x1000101, 1,
  0x1000000, 0x100, 0x10001, 0x1010100, 0x1000001, 0x1000100, 0, 0x1010101, 0x10101, 0x10000,
  0x1010000, 0x101]

def SBOX_7 : Vector UInt32 64 := #v[
  0x1000101, 0x10000, 1, 0x100, 0x10100, 0x1010101, 0x1010001, 0x1000000, 0x10001, 0x1000001,
  0x1010000, 0x10101, 0x1000100, 0, 0x101, 0x1010100, 0x1000000, 0x1010101, 0x1000101, 1, 0x10001,
  0x1010000, 0x1010100, 0x100, 0x101, 0x1000100, 0x10100, 0x1010001, 0, 0x10101, 0x1000001,
  0x10000, 0x1010100, 0x1010001, 0x100, 0x1000000, 0x1000001, 0x101, 0x10101, 0x10000, 0, 0x10100,
  0x10001, 0x1000101, 0x1010101, 0x1010000, 0x1000100, 1, 0x10000, 0x1000000, 0x10101, 0x1010100,
  0x100, 0x10001, 1, 0x1000101, 0x1010101, 0x101, 0x1000001, 0, 0x1010000, 0x1000100, 0x10100,
  0x1010001]

def SBOXES : Vector (Vector UInt32 64) 8 :=
  #v[SBOX_0, SBOX_1, SBOX_2, SBOX_3, SBOX_4, SBOX_5, SBOX_6, SBOX_7]

/-- Half of `p1`, one bit in each byte. -/
abbrev Half := Vector UInt8 32

/-- `p1`: its entries below 32 and the others. -/
abbrev Block := Half × Half

def xorHalf (a b : Half) : Half := Vector.zipWith (· ^^^ ·) a b

/-- The forty-eight key bits of one round. -/
def keyRow (p0 : Vector UInt8 768) (num4 : ℕ) : Vector UInt8 48 :=
  Vector.ofFn fun index => p0[48 * num4 + index]?.getD 0

/-- An entry of `EXPANSION_MATRIX` plus 31 points into the second half. -/
def expand (row : Vector UInt8 48) (right : Half) : Vector UInt8 48 :=
  Vector.ofFn fun index => row.get index ^^^ right[EXPANSION_MATRIX.get index - 1]?.getD 0

/-- The outer bits of a group of six lead. -/
def sboxIndex (buffer : Vector UInt8 48) (s : ℕ) : ℕ :=
  let bit (i : ℕ) : ℕ := (buffer[s * 6 + i]?.getD 0).toNat
  bit 4 ||| (2 * (bit 3 ||| (2 * (bit 2 ||| (2 * (bit 1 ||| (2 * (bit 5 ||| (2 * bit 0)))))))))

def sboxLookups (buffer : Vector UInt8 48) : Option (Vector UInt32 8) :=
  if h : ∀ s : Fin 8, sboxIndex buffer s < 64 then
    some (Vector.ofFn fun s => (SBOXES.get s).get ⟨sboxIndex buffer s, h s⟩)
  else none

/-- Each word's four bytes, lowest first. -/
def destination (numArray : Vector UInt32 8) : Half :=
  Vector.ofFn fun i => ((numArray[i.val / 4]?.getD 0) >>> UInt32.ofNat (8 * (i % 4))).toUInt8

def roundImage (row : Vector UInt8 48) (right : Half) : Option Half :=
  (sboxLookups (expand row right)).map fun numArray =>
    Vector.ofFn fun num7 => (destination numArray)[PERMUTATION.get num7 - 1]?.getD 0

/-- The rounds from `num2` down and `num` up; the round at `num2 = 0` is the last. -/
def initialDecodeSubLoop (p0 : Vector UInt8 768) (p2 : ℤ) : ℕ → ℕ → Block → Option Block
  | 0, num, p1 =>
    let num4 := if p2 = 0 then 0 else num
    (roundImage (keyRow p0 num4) p1.2).map fun dest => (xorHalf p1.1 dest, p1.2)
  | num2 + 1, num, p1 =>
    let num4 := if p2 = 0 then num2 + 1 else num
    (roundImage (keyRow p0 num4) p1.2).bind fun dest =>
      initialDecodeSubLoop p0 p2 num2 (num + 1) (p1.2, xorHalf p1.1 dest)

def initialDecodeSub (p0 : Vector UInt8 768) (p1 : Block) (p2 : ℤ) : Option Block :=
  initialDecodeSubLoop p0 p2 15 0 p1

/-- The bits of four bytes, each byte's highest first. -/
def separateBits (bytes : List UInt8) : Half :=
  Vector.ofFn fun i => ((bytes.getD (i / 8) 0) >>> UInt8.ofNat (7 - i % 8)) &&& 1

def mergeByte (bit : ℕ → UInt8) : UInt8 :=
  bit 7 ||| (2 * (bit 6 ||| (2 * (bit 5 ||| (2 * (bit 4 ||| (2 * (bit 3 ||| (2 * (bit 2 |||
    (2 * (bit 1 ||| (2 * bit 0)))))))))))))

def mergeBits (half : Half) : List UInt8 :=
  (List.range 4).map fun j => mergeByte fun k => half[j * 8 + k]?.getD 0

/-- One block through `initial_decode_sub`: `p2` is 0 to decrypt and 1 to encrypt. -/
def cipherBlock (key : Vector UInt8 768) (p2 : ℤ) (bytes : List UInt8) : Option (List UInt8) :=
  (initialDecodeSub key (separateBits (bytes.take 4), separateBits (bytes.drop 4)) p2).map
    fun p1 => mergeBits p1.1 ++ mergeBits p1.2

/-- The first block is read before the counter is looked at. -/
def decodeLayer1 (key : Vector UInt8 768) (input : List UInt8) : Option (List UInt8) :=
  let output := input.drop 20
  Feistel.mapBlocks 8 (cipherBlock key 0) (max 1 ((output.length + 7) / 8)) output

def encodeLayer1 (key : Vector UInt8 768) (input : List UInt8) : Option (List UInt8) :=
  let paddedLen := (input.length + 7) / 8 * 8
  let data := input ++ List.replicate (paddedLen - input.length) 0
  Feistel.mapBlocks 8 (cipherBlock key 1) (paddedLen / 8) data

def volatileMask (volatileKey : UInt16) (byte : UInt8) : UInt8 :=
  ((volatileKey &&& 0xff00) >>> 8).toUInt8 ^^^ byte

/-- The stream's next key, from the byte that stands in the file. -/
def nextKey (factor step volatileKey : UInt16) (rawByte : UInt8) : UInt16 :=
  (rawByte.toUInt16 + volatileKey) * factor + step

def decodeLayer2 (data : List UInt8) : List UInt8 :=
  Feistel.decodeStream volatileMask (nextKey 0x8041 0x1804) 0x0418 data

def encodeLayer2 (data : List UInt8) : List UInt8 :=
  Feistel.encodeStream volatileMask (nextKey 0x8041 0x1804) 0x0418 data

def decodeStandart (data : List UInt8) : List UInt8 :=
  Feistel.decodeStream volatileMask (nextKey 0x6081 0x1608) 0x0816 data

def CHAOS_HEADER : List UInt8 :=
  [0x4C, 0x26, 0x43, 0x7F, 0x80, 0xF1, 0x57, 0x98, 0x79, 0xFC, 0xAF, 0x26, 0x86, 0xD6, 0x20, 0x8E]

inductive EncryptionType
  | chaosExpansion
  | standart
  | none
  deriving DecidableEq

/-- `i32::from_le_bytes` of the first four bytes. -/
def firstI32 (data : List UInt8) : ℤ := asI32 (Bytes.value (data.take 4))

/-- The check on the first four bytes that stands in for a look at the table. -/
def looksLikeTable (data : List UInt8) : Bool :=
  4 ≤ data.length && 0 < firstI32 data && firstI32 data < 500

def detectEncryption (data : List UInt8) : EncryptionType :=
  if 20 ≤ data.length ∧ data.take 16 = CHAOS_HEADER then .chaosExpansion
  else if looksLikeTable (decodeStandart data) then .standart
  else if looksLikeTable data then .none
  else .standart

def getRealLength (buf : List UInt8) (offset : ℕ) : ℤ :=
  asI32 (Bytes.value ((buf.drop offset).take 4).reverse)

def putRealLength (value : ℤ) : List UInt8 := (Bytes.le 4 (value % 2 ^ 32).toNat).reverse

def decryptTbl (data : List UInt8) : Option (List UInt8 × Bool) :=
  match detectEncryption data with
  | .chaosExpansion =>
    let realLen := asU64 (getRealLength data 16)
    (decodeLayer1 KEY data).map fun layer1 =>
      let output := decodeLayer2 layer1
      (if realLen ≤ output.length then output.take realLen else output, true)
  | .standart => some (decodeStandart data, false)
  | .none => some (data, false)

def encryptTbl (plaintext : List UInt8) : Option (List UInt8) :=
  let realLen := plaintext.length
  (encodeLayer1 KEY (encodeLayer2 plaintext)).map fun encryptedBody =>
    CHAOS_HEADER ++ putRealLength (asI32 realLen) ++ encryptedBody

end KoServer.Tbl
