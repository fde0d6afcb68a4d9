import KoServer.Lib.Bytes

/-! The session cipher of `ko-protocol/src/crypto.rs`: a three-layer xor stream
with a CRC32 trailer under the same stream. The trailer is the raw register, with
start value `0xFFFFFFFF` and no final inversion. -/

namespace KoServer

def PRIVATE_KEY : UInt64 := 0x1207500120128966
def INITIAL_RKEY : UInt32 := 2157
def RKEY_MULTIPLIER : UInt32 := 2171
def LKEY_MULTIPLIER : UInt8 := 157
def CRC32_POLY : UInt32 := 0xEDB88320

/-- The inner loop of the table generator: `n` shifts of one entry. -/
def crc32Shift : ℕ → UInt32 → UInt32
  | 0, crc => crc
  | n + 1, crc => crc32Shift n (if crc &&& 1 ≠ 0 then (crc >>> 1) ^^^ CRC32_POLY else crc >>> 1)

def CRC32_TABLE : Array UInt32 := (Array.range 256).map fun i => crc32Shift 8 (UInt32.ofNat i)

def crc32Step (crc : UInt32) (byte : UInt8) : UInt32 :=
  CRC32_TABLE.getD ((crc ^^^ byte.toUInt32) &&& 0xFF).toNat 0 ^^^ (crc >>> 8)

def crc32WithStart (data : List UInt8) (startVal : UInt32) : UInt32 :=
  data.foldl crc32Step startVal

def crc32 (data : List UInt8) : UInt32 := crc32WithStart data 0xFFFFFFFF

structure JvCryption where
  publicKey : UInt64
  tkey : UInt64
  enabled : Bool

namespace JvCryption

def new : JvCryption := ⟨0, 0, false⟩

def setPublicKey (c : JvCryption) (key : UInt64) : JvCryption := { c with publicKey := key }

def init (c : JvCryption) : JvCryption :=
  { c with tkey := c.publicKey ^^^ PRIVATE_KEY, enabled := true }

/-- The loop body from byte `i` on, with the rotation key it has reached. -/
def transformFrom (pkey : List UInt8) (lkey : UInt8) : ℕ → UInt32 → List UInt8 → List UInt8
  | _, _, [] => []
  | i, rkey, byte :: rest =>
    let rsk := ((rkey >>> 8) &&& 0xFF).toUInt8
    (((byte ^^^ rsk) ^^^ pkey.getD (i % 8) 0) ^^^ lkey) ::
      transformFrom pkey lkey (i + 1) (rkey * RKEY_MULTIPLIER) rest

/-- The length key is taken from the length's low byte, trailer included. -/
def transform (c : JvCryption) (data : List UInt8) : List UInt8 :=
  transformFrom (Bytes.le 8 c.tkey.toNat) (UInt8.ofNat data.length * LKEY_MULTIPLIER) 0
    INITIAL_RKEY data

def encrypt (c : JvCryption) (data : List UInt8) : List UInt8 := c.transform data

def decrypt (c : JvCryption) (data : List UInt8) : List UInt8 := c.transform data

def encryptWithCrc32 (c : JvCryption) (data : List UInt8) : List UInt8 :=
  c.encrypt (data ++ Bytes.le 4 (crc32 data).toNat)

/-- The buffer is decrypted in place, also when the checksum then fails, so it is
returned next to the payload length. -/
def decryptWithCrc32 (c : JvCryption) (data : List UInt8) : List UInt8 × Option ℕ :=
  if data.length < 4 then (data, none) else
  let data := c.decrypt data
  let payloadLen := data.length - 4
  let computed := crc32 (data.take payloadLen)
  let stored := UInt32.ofNat (Bytes.value ((data.drop payloadLen).take 4))
  (data, if computed = stored then some payloadLen else none)

end JvCryption

end KoServer
