import KoServer.Lib.Bytes

/-! Packets and their string fields, from `ko-protocol/src/packet.rs`. A Rust `String`
is its list of characters, and `as_bytes` their UTF-8 encoding. -/

namespace KoServer

def HEADER_INCOMING : List UInt8 := [0xAA, 0x55]
def FOOTER_INCOMING : List UInt8 := [0x55, 0xAA]
def HEADER_OUTGOING : List UInt8 := [0xAA, 0x55]
def FOOTER_OUTGOING : List UInt8 := [0x55, 0xAA]
def OUTGOING_CRYPTO_MAGIC : ℕ := 0x1EFC
def MAX_PACKET_SIZE : ℕ := 65536
def MAX_STRING_LEN : ℕ := 16384

structure Packet where
  opcode : UInt8
  data : List UInt8
  plaintext : Bool
  deriving DecidableEq

namespace Packet

def new (opcode : UInt8) : Packet := ⟨opcode, [], false⟩

def withData (opcode : UInt8) (data : List UInt8) : Packet := ⟨opcode, data, false⟩

def newPlaintext (opcode : UInt8) : Packet := ⟨opcode, [], true⟩

end Packet

/-- `str::as_bytes`. -/
def asBytes (s : List Char) : List UInt8 := s.flatMap String.utf8EncodeChar

/-- `str::from_utf8`. -/
def strFromUtf8 (bytes : List UInt8) : Option (List Char) :=
  bytes.toByteArray.utf8Decode?.map Array.toList

def win1254ToUnicode (b : UInt8) : Char :=
  match b.toNat with
  | 0x80 => '€' | 0x82 => '‚' | 0x83 => 'ƒ' | 0x84 => '„' | 0x85 => '…' | 0x86 => '†'
  | 0x87 => '‡' | 0x88 => 'ˆ' | 0x89 => '‰' | 0x8A => 'Š' | 0x8B => '‹' | 0x8C => 'Œ'
  | 0x91 => '\u2018' | 0x92 => '\u2019' | 0x93 => '\u201C' | 0x94 => '\u201D'
  | 0x95 => '•' | 0x96 => '–' | 0x97 => '—' | 0x98 => '˜' | 0x99 => '™' | 0x9A => 'š'
  | 0x9B => '›' | 0x9C => 'œ' | 0x9F => 'Ÿ'
  | 0xD0 => 'Ğ' | 0xDD => 'İ' | 0xDE => 'Ş' | 0xF0 => 'ğ' | 0xFD => 'ı' | 0xFE => 'ş'
  | 0x81 | 0x8D | 0x8E | 0x8F | 0x90 | 0x9D | 0x9E => '\uFFFD'
  | n => Char.ofNat n

/-- The six letters that Windows-1254 has in place of the Icelandic ones come first;
what they replaced has no byte. -/
def unicodeToWin1254 (c : Char) : Option UInt8 :=
  let cp := c.toNat
  if cp ≤ 0x7F then some (UInt8.ofNat cp) else
  match cp with
  | 0x011E => some 0xD0 | 0x011F => some 0xF0 | 0x0130 => some 0xDD
  | 0x0131 => some 0xFD | 0x015E => some 0xDE | 0x015F => some 0xFE
  | 0x20AC => some 0x80 | 0x201A => some 0x82 | 0x0192 => some 0x83 | 0x201E => some 0x84
  | 0x2026 => some 0x85 | 0x2020 => some 0x86 | 0x2021 => some 0x87 | 0x02C6 => some 0x88
  | 0x2030 => some 0x89 | 0x0160 => some 0x8A | 0x2039 => some 0x8B | 0x0152 => some 0x8C
  | 0x2018 => some 0x91 | 0x2019 => some 0x92 | 0x201C => some 0x93 | 0x201D => some 0x94
  | 0x2022 => some 0x95 | 0x2013 => some 0x96 | 0x2014 => some 0x97 | 0x02DC => some 0x98
  | 0x2122 => some 0x99 | 0x0161 => some 0x9A | 0x203A => some 0x9B | 0x0153 => some 0x9C
  | 0x0178 => some 0x9F
  | 0x00D0 | 0x00DD | 0x00DE | 0x00F0 | 0x00FD | 0x00FE => none
  | n => if 0xA0 ≤ n ∧ n ≤ 0xFF then some (UInt8.ofNat n) else none

def decodeWin1254 (bytes : List UInt8) : List Char :=
  match strFromUtf8 bytes with
  | some valid => valid
  | none => bytes.map win1254ToUnicode

def isAscii (s : List Char) : Bool := s.all fun c => c.toNat ≤ 0x7F

/-- A single unmappable character sends the whole string to UTF-8. -/
def encodeStringBytes (s : List Char) : List UInt8 :=
  if isAscii s then asBytes s else
  match s.mapM unicodeToWin1254 with
  | some result => result
  | none => asBytes s

def Packet.writeU8 (p : Packet) (val : ℕ) : Packet := { p with data := p.data ++ Bytes.le 1 val }

def Packet.writeU16 (p : Packet) (val : ℕ) : Packet := { p with data := p.data ++ Bytes.le 2 val }

def Packet.writeBytes (p : Packet) (bytes : List UInt8) : Packet :=
  { p with data := p.data ++ bytes }

def Packet.writeString (p : Packet) (s : List Char) : Packet :=
  let bytes := encodeStringBytes s
  (p.writeU16 bytes.length).writeBytes bytes

def Packet.writeSbyteString (p : Packet) (s : List Char) : Packet :=
  let bytes := encodeStringBytes s
  (p.writeU8 bytes.length).writeBytes bytes

/-- A cursor over a payload. -/
structure PacketReader where
  data : List UInt8
  pos : ℕ
  deriving DecidableEq

namespace PacketReader

def new (data : List UInt8) : PacketReader := ⟨data, 0⟩

/-- What `read_remaining` would return. -/
def unread (r : PacketReader) : List UInt8 := r.data.drop r.pos

def readU8 (r : PacketReader) : Option (ℕ × PacketReader) :=
  if r.pos < r.data.length then
    some (Bytes.value ((r.data.drop r.pos).take 1), { r with pos := r.pos + 1 })
  else none

def readU16 (r : PacketReader) : Option (ℕ × PacketReader) :=
  if r.pos + 2 ≤ r.data.length then
    some (Bytes.value ((r.data.drop r.pos).take 2), { r with pos := r.pos + 2 })
  else none

def readU32 (r : PacketReader) : Option (ℕ × PacketReader) :=
  if r.pos + 4 ≤ r.data.length then
    some (Bytes.value ((r.data.drop r.pos).take 4), { r with pos := r.pos + 4 })
  else none

/-- `read_u8().unwrap_or(0)`: a failed read does not move the cursor. -/
def readU8D (r : PacketReader) : ℕ × PacketReader := r.readU8.getD (0, r)

def readU16D (r : PacketReader) : ℕ × PacketReader := r.readU16.getD (0, r)

def readU32D (r : PacketReader) : ℕ × PacketReader := r.readU32.getD (0, r)

def readString (r : PacketReader) : Option (List Char × PacketReader) :=
  match r.readU16 with
  | none => none
  | some (len, r) =>
    if len > MAX_STRING_LEN ∨ r.pos + len > r.data.length then none else
    some (decodeWin1254 ((r.data.drop r.pos).take len), { r with pos := r.pos + len })

def readSbyteString (r : PacketReader) : Option (List Char × PacketReader) :=
  match r.readU8 with
  | none => none
  | some (len, r) =>
    if r.pos + len ≤ r.data.length then
      some (decodeWin1254 ((r.data.drop r.pos).take len), { r with pos := r.pos + len })
    else none

end PacketReader

end KoServer
