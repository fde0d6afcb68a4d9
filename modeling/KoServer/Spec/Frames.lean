import KoServer.Spec.Crypto
import KoServer.Spec.Packet

/-! Frames on the wire: `aes_crypt.rs`, the writer task of `writer.rs` and the readers of
`packet_io.rs`. The block cipher itself is a crate and a parameter here. -/

namespace KoServer

def AES_FLAG : UInt8 := 0x01

def AES_IV : List UInt8 :=
  [0x32, 0x4E, 0xAA, 0x58, 0xBC, 0xB3, 0xAE, 0xE3, 0x6B, 0xC7, 0x4C, 0x56, 0x36, 0x47, 0x34, 0xF2]

/-- `Encryptor<Aes128>::encrypt_padded_mut` and its inverse. `None` is the padding error. -/
structure CbcCrate where
  encryptPaddedMut : (key iv buf : List UInt8) → (msgLen : ℕ) → Option (List UInt8)
  decryptPaddedMut : (key iv buf : List UInt8) → Option (List UInt8)

/-- What the crate promises of a buffer with room for the padding: the ciphertext fills
the buffer, and decrypting it gives the message back. -/
structure CbcCrate.Pkcs7 (cbc : CbcCrate) : Prop where
  encrypt : ∀ key iv msg pad : List UInt8, key.length = 16 → iv.length = 16 →
    pad.length = 16 - msg.length % 16 →
    ∃ ct, cbc.encryptPaddedMut key iv (msg ++ pad) msg.length = some ct ∧
      ct.length = msg.length + pad.length ∧ cbc.decryptPaddedMut key iv ct = some msg

structure AesCryption where
  key : List UInt8
  enabled : Bool
  key_length : key.length = 16

namespace AesCryption

def new : AesCryption := ⟨List.replicate 16 0, false, by simp⟩

variable (cbc : CbcCrate)

def encrypt (aes : AesCryption) (plaintext : List UInt8) : List UInt8 :=
  let padLen := 16 - plaintext.length % 16
  match cbc.encryptPaddedMut aes.key AES_IV (plaintext ++ List.replicate padLen 0)
      plaintext.length with
  | some ct => ct
  | none => []

def decrypt (aes : AesCryption) (ciphertext : List UInt8) : Option (List UInt8) :=
  cbc.decryptPaddedMut aes.key AES_IV ciphertext

end AesCryption

inductive FrameError
  | payloadTooLarge (bytes : ℕ)
  | aesTooLarge (bytes : ℕ)
  | plaintextTooLarge (bytes : ℕ)
  deriving DecidableEq

def U16_MAX : ℕ := 65535

def FrameError.message : FrameError → String
  | payloadTooLarge bytes => s!"Packet payload too large ({bytes} bytes, max {U16_MAX})"
  | aesTooLarge bytes => s!"AES packet payload too large ({bytes} bytes, max {U16_MAX})"
  | plaintextTooLarge bytes => s!"Plaintext packet too large ({bytes} bytes)"

/-- The outcome and the buffer it leaves. -/
abbrev Built := Except FrameError Unit × List UInt8

def buildFramePlaintext (packet : Packet) (buf : List UInt8) : Built :=
  let payloadLen := 1 + packet.data.length
  if payloadLen > U16_MAX then (.error (.plaintextTooLarge payloadLen), buf) else
  (.ok (), buf ++ HEADER_OUTGOING ++ Bytes.le 2 payloadLen ++ [packet.opcode] ++ packet.data ++
    FOOTER_OUTGOING)

def buildFrameAes (cbc : CbcCrate) (aes : AesCryption) (packet : Packet) (buf : List UInt8) :
    Built :=
  let plaintext := packet.opcode :: packet.data
  let ciphertext := aes.encrypt cbc plaintext
  let payloadLen := 1 + ciphertext.length
  if payloadLen > U16_MAX then (.error (.aesTooLarge payloadLen), buf) else
  (.ok (), buf ++ HEADER_OUTGOING ++ Bytes.le 2 payloadLen ++ [AES_FLAG] ++ ciphertext ++
    FOOTER_OUTGOING)

/-- Outside AES mode the frame grows in place behind a length placeholder, and the size is
checked only then. -/
def buildFrame (cbc : CbcCrate) (crypto : JvCryption) (sequence : UInt32) (packet : Packet)
    (buf : List UInt8) (aes : AesCryption) : Built :=
  if packet.plaintext then buildFramePlaintext packet buf else
  if aes.enabled then buildFrameAes cbc aes packet buf else
  let frameStart := buf.length
  let buf := buf ++ HEADER_OUTGOING ++ [0, 0]
  let payloadStart := frameStart + 4
  let buf :=
    if crypto.enabled then
      let buf := buf ++ Bytes.le 2 OUTGOING_CRYPTO_MAGIC ++ Bytes.le 2 sequence.toNat ++ [0x00] ++
        [packet.opcode] ++ packet.data
      buf.take payloadStart ++ crypto.encrypt (buf.drop payloadStart)
    else buf ++ [packet.opcode] ++ packet.data
  let payloadLen := buf.length - payloadStart
  if payloadLen > U16_MAX then (.error (.payloadTooLarge payloadLen), buf) else
  let buf := buf.take (frameStart + 2) ++ Bytes.le 2 payloadLen ++ buf.drop (frameStart + 4)
  (.ok (), buf ++ FOOTER_OUTGOING)

/-- A packet of the channel, with what the writer meets when it comes to it: the sequence
it loads, and whether `try_recv` already sees the packet while a batch is drained. -/
structure Queued where
  packet : Packet
  sequence : UInt32
  ready : Bool

def blocked (packet : Packet) : Bool := packet.opcode = 0xE9 || packet.opcode = 0xC7

/-- The calls of `build_frame`, in order. -/
abbrev BuildLog := List (Queued × Except FrameError Unit)

section Writer

variable (cbc : CbcCrate) (crypto : JvCryption) (aes : AesCryption)

/-- The `try_recv` loop: what is left of the channel, the buffer, and the calls made. -/
def drain : List Queued → List UInt8 → List Queued × List UInt8 × BuildLog
  | [], buf => ([], buf, [])
  | q :: rest, buf =>
    if !q.ready then (q :: rest, buf, []) else
    if blocked q.packet then drain rest buf else
    match buildFrame cbc crypto q.sequence q.packet buf aes with
    | (.error e, buf) => (rest, buf, [(q, .error e)])
    | (.ok (), buf) =>
      let (rest, buf, log) := drain rest buf
      (rest, buf, (q, .ok ()) :: log)

theorem drain_length (queue : List Queued) (buf : List UInt8) :
    (drain cbc crypto aes queue buf).1.length ≤ queue.length := by
  induction queue generalizing buf with
  | nil => simp [drain]
  | cons q rest ih =>
    simp only [drain]
    split
    · simp
    · split
      · exact (ih buf).trans (Nat.le_succ _)
      · split
        · simp
        · exact (ih _).trans (Nat.le_succ _)

/-- The bytes handed to `write_all`, which the socket takes, and the calls made. -/
def writerLoop : List Queued → List UInt8 × BuildLog
  | [] => ([], [])
  | q :: rest =>
    if blocked q.packet then writerLoop rest else
    match buildFrame cbc crypto q.sequence q.packet [] aes with
    | (.error e, _) => ([], [(q, .error e)])
    | (.ok (), buf) =>
      let batch := drain cbc crypto aes rest buf
      let tail := writerLoop batch.1
      (batch.2.1 ++ tail.1, (q, .ok ()) :: (batch.2.2 ++ tail.2))
  termination_by queue => queue.length
  decreasing_by
    · simp
    · exact Nat.lt_succ_of_le (drain_length cbc crypto aes rest buf)

end Writer

inductive ReadError
  | eof
  | invalidHeader (header : List UInt8)
  | invalidLength (payloadLen : ℕ)
  | invalidFooter (footer : List UInt8)
  | aesFailed (len : ℕ)
  | empty
  | tooShort (len : ℕ)
  deriving DecidableEq

/-- `read_exact` on the bytes that are still to come. -/
def readExact (n : ℕ) (stream : List UInt8) : Except ReadError (List UInt8 × List UInt8) :=
  if n ≤ stream.length then .ok (stream.take n, stream.drop n) else .error .eof

def readPacketAesInner (cbc : CbcCrate) (aes : AesCryption) (stripSeq : Bool)
    (stream : List UInt8) : Except ReadError (Packet × List UInt8) := do
  let (header, stream) ← readExact 2 stream
  if header ≠ HEADER_INCOMING then throw (.invalidHeader header)
  let (lenBuf, stream) ← readExact 2 stream
  let payloadLen := Bytes.value lenBuf
  if ¬ (2 ≤ payloadLen ∧ payloadLen ≤ MAX_PACKET_SIZE) then throw (.invalidLength payloadLen)
  let (payload, stream) ← readExact payloadLen stream
  let (footer, stream) ← readExact 2 stream
  if footer ≠ FOOTER_INCOMING then throw (.invalidFooter footer)
  if payload.head? ≠ some AES_FLAG then
    return (Packet.withData (payload.headD 0) payload.tail, stream)
  let ciphertext := payload.tail
  match aes.decrypt cbc ciphertext with
  | none => throw (.aesFailed ciphertext.length)
  | some [] => throw .empty
  | some (first :: rest) =>
    if stripSeq then
      match rest with
      | [] => throw (.tooShort 1)
      | opcode :: data => return (Packet.withData opcode data, stream)
    else return (Packet.withData first rest, stream)

def readPacketAes (cbc : CbcCrate) (aes : AesCryption) := readPacketAesInner cbc aes true

def readPacketAesNoSeq (cbc : CbcCrate) (aes : AesCryption) := readPacketAesInner cbc aes false

end KoServer
