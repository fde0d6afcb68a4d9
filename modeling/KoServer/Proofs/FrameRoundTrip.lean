import KoServer.Proofs.Frames

/-! Reading back what the writer framed. The reader takes a payload for ciphertext by its
first byte alone and wants two bytes at least, so the plaintext branch round-trips for
the packets it is used for: data, and an opcode other than the flag. -/

namespace KoServer

def buildFrames (cbc : CbcCrate) (crypto : JvCryption) (aes : AesCryption) :
    List (UInt32 × Packet) → List UInt8 → Except FrameError (List UInt8)
  | [], buf => .ok buf
  | (sequence, packet) :: rest, buf =>
    match buildFrame cbc crypto sequence packet buf aes with
    | (.error e, _) => .error e
    | (.ok (), buf) => buildFrames cbc crypto aes rest buf

def readPackets (cbc : CbcCrate) (aes : AesCryption) :
    ℕ → List UInt8 → Except ReadError (List Packet × List UInt8)
  | 0, stream => .ok ([], stream)
  | n + 1, stream => do
    let (packet, stream) ← readPacketAesNoSeq cbc aes stream
    let (packets, stream) ← readPackets cbc aes n stream
    return (packet :: packets, stream)

theorem readExact_append {n : ℕ} {bytes rest : List UInt8} (h : bytes.length = n) :
    readExact n (bytes ++ rest) = .ok (bytes, rest) := by
  simp [readExact, ← h]

/-- A reader at a frame gets through to the payload, and stands behind the frame then. -/
theorem readPacketAesInner_frame {cbc : CbcCrate} {aes : AesCryption} {payload rest : List UInt8}
    (stripSeq : Bool) (h2 : 2 ≤ payload.length) (hmax : payload.length ≤ U16_MAX) :
    readPacketAesInner cbc aes stripSeq (frameOf payload ++ rest) =
      if payload.head? ≠ some AES_FLAG then
        .ok (Packet.withData (payload.headD 0) payload.tail, rest)
      else match aes.decrypt cbc payload.tail with
        | none => .error (.aesFailed payload.tail.length)
        | some [] => .error .empty
        | some (first :: data) =>
          if stripSeq then
            match data with
            | [] => .error (.tooShort 1)
            | opcode :: data => .ok (Packet.withData opcode data, rest)
          else .ok (Packet.withData first data, rest) := by
  have hmax' : U16_MAX = 65535 := rfl
  have hvalue : Bytes.value (Bytes.le 2 payload.length) = payload.length :=
    Bytes.value_le_of_lt 2 _ (by omega)
  have hlen : 2 ≤ payload.length ∧ payload.length ≤ MAX_PACKET_SIZE :=
    ⟨h2, by rw [MAX_PACKET_SIZE]; omega⟩
  have hheader (rest : List UInt8) :
      readExact 2 (HEADER_OUTGOING ++ rest) = .ok (HEADER_INCOMING, rest) := readExact_append rfl
  have hlenBuf (rest : List UInt8) : readExact 2 (Bytes.le 2 payload.length ++ rest) =
      .ok (Bytes.le 2 payload.length, rest) := readExact_append (by simp)
  have hpayload (rest : List UInt8) :
      readExact payload.length (payload ++ rest) = .ok (payload, rest) := readExact_append rfl
  have hfooter (rest : List UInt8) :
      readExact 2 (FOOTER_OUTGOING ++ rest) = .ok (FOOTER_INCOMING, rest) := readExact_append rfl
  unfold readPacketAesInner frameOf
  rcases hplain : aes.decrypt cbc payload.tail with _ | _ | ⟨first, _ | ⟨opcode, data⟩⟩
  all_goals
    simp only [List.append_assoc, hheader, hlenBuf, hpayload, hfooter, hvalue, bind, Except.bind,
      ne_eq, not_true, if_false, hlen, and_self, pure, Except.pure, throw, throwThe,
      MonadExceptOf.throw, hplain]

theorem readPacketAesNoSeq_frame {cbc : CbcCrate} {aes : AesCryption} {payload rest : List UInt8}
    (h2 : 2 ≤ payload.length) (hmax : payload.length ≤ U16_MAX) :
    readPacketAesNoSeq cbc aes (frameOf payload ++ rest) =
      if payload.head? ≠ some AES_FLAG then
        .ok (Packet.withData (payload.headD 0) payload.tail, rest)
      else match aes.decrypt cbc payload.tail with
        | none => .error (.aesFailed payload.tail.length)
        | some [] => .error .empty
        | some (first :: data) => .ok (Packet.withData first data, rest) :=
  readPacketAesInner_frame false h2 hmax

variable {cbc : CbcCrate} {crypto : JvCryption} {aes : AesCryption}

/-- The ciphertext of a packet, and what the padding makes of its length. -/
theorem encrypt_spec (hcbc : cbc.Pkcs7) (aes : AesCryption) (plaintext : List UInt8) :
    plaintext.length < (aes.encrypt cbc plaintext).length ∧
      aes.decrypt cbc (aes.encrypt cbc plaintext) = some plaintext := by
  obtain ⟨ct, henc, hlen, hdec⟩ := hcbc.encrypt aes.key AES_IV plaintext
    (List.replicate (16 - plaintext.length % 16) 0) aes.key_length rfl (by simp)
  have hct : aes.encrypt cbc plaintext = ct := by simp [AesCryption.encrypt, henc]
  rw [hct]
  refine ⟨?_, hdec⟩
  rw [hlen, List.length_replicate]
  omega

/-- The packets of the plaintext branch that the reader can tell apart. -/
def legible (packet : Packet) : Prop :=
  packet.plaintext = true → packet.opcode ≠ AES_FLAG ∧ packet.data ≠ []

theorem readPacketAesNoSeq_built (hcbc : cbc.Pkcs7) (haes : aes.enabled = true)
    {sequence : UInt32} {packet : Packet} (hfits : fits cbc crypto aes sequence packet)
    (hlegible : legible packet) (rest : List UInt8) :
    readPacketAesNoSeq cbc aes (frameOf (wirePayload cbc crypto aes sequence packet) ++ rest) =
      .ok (Packet.withData packet.opcode packet.data, rest) := by
  by_cases hp : packet.plaintext = true
  · obtain ⟨hopcode, hdata⟩ := hlegible hp
    have hpayload : wirePayload cbc crypto aes sequence packet = packet.opcode :: packet.data := by
      simp [wirePayload, hp]
    have h2 : 2 ≤ (packet.opcode :: packet.data).length :=
      Nat.succ_le_succ (List.length_pos_iff.mpr hdata)
    rw [fits, hpayload] at hfits
    rw [hpayload, readPacketAesNoSeq_frame h2 hfits, if_pos (by simpa using hopcode)]
    rfl
  · have hpayload : wirePayload cbc crypto aes sequence packet =
        AES_FLAG :: aes.encrypt cbc (packet.opcode :: packet.data) := by
      simp [wirePayload, hp, haes]
    obtain ⟨hlen, hdec⟩ := encrypt_spec hcbc aes (packet.opcode :: packet.data)
    rw [List.length_cons] at hlen
    rw [fits, hpayload] at hfits
    rw [hpayload, readPacketAesNoSeq_frame (by rw [List.length_cons]; omega) hfits,
      if_neg (by simp), List.tail_cons, hdec]

/-- A client's frame: in front of the opcode stands a sequence byte, which the reader drops. -/
theorem readPacketAes_sent (hcbc : cbc.Pkcs7) (aes : AesCryption) (sequence opcode : UInt8)
    (data rest : List UInt8)
    (hfits : (aes.encrypt cbc (sequence :: opcode :: data)).length + 1 ≤ U16_MAX) :
    readPacketAes cbc aes
        (frameOf (AES_FLAG :: aes.encrypt cbc (sequence :: opcode :: data)) ++ rest) =
      .ok (Packet.withData opcode data, rest) := by
  obtain ⟨hlen, hdec⟩ := encrypt_spec hcbc aes (sequence :: opcode :: data)
  rw [List.length_cons] at hlen
  have hpayload : (AES_FLAG :: aes.encrypt cbc (sequence :: opcode :: data)).length ≤ U16_MAX := hfits
  rw [readPacketAes, readPacketAesInner_frame true (by rw [List.length_cons]; omega) hpayload,
    if_neg (by simp), List.tail_cons, hdec]
  rfl

/-- Built frames are read off a stream one by one, whatever is in the buffer before them
and comes after them. -/
theorem readPackets_buildFrames (hcbc : cbc.Pkcs7) (haes : aes.enabled = true)
    (packets : List (UInt32 × Packet)) (hfits : ∀ q ∈ packets, fits cbc crypto aes q.1 q.2)
    (hlegible : ∀ q ∈ packets, legible q.2) (buf rest : List UInt8) :
    ∃ stream, buildFrames cbc crypto aes packets buf = .ok (buf ++ stream) ∧
      readPackets cbc aes packets.length (stream ++ rest) =
        .ok (packets.map fun q => Packet.withData q.2.opcode q.2.data, rest) := by
  induction packets generalizing buf with
  | nil => exact ⟨[], by simp [buildFrames], rfl⟩
  | cons q packets ih =>
    obtain ⟨sequence, packet⟩ := q
    obtain ⟨hfit, hfits⟩ := List.forall_mem_cons.mp hfits
    obtain ⟨hleg, hlegible⟩ := List.forall_mem_cons.mp hlegible
    obtain ⟨stream, hbuild, hread⟩ := ih hfits hlegible
      (buf ++ frameOf (wirePayload cbc crypto aes sequence packet))
    refine ⟨frameOf (wirePayload cbc crypto aes sequence packet) ++ stream, ?_, ?_⟩
    · rw [buildFrames, buildFrame_ok cbc crypto aes hfit]
      rw [← List.append_assoc]
      exact hbuild
    · have hone := readPacketAesNoSeq_built hcbc haes hfit hleg (stream ++ rest)
      rw [← List.append_assoc] at hone
      simp only [List.length_cons, readPackets, hone, hread, bind, Except.bind, pure, Except.pure,
        List.map_cons]

/-- Pads, and masks every block alike. The mask is chosen so that on `cipherMessage` under
`cipherKey` the result is the one of AES-128-CBC. -/
def blockMask : List UInt8 :=
  [0x5A, 0x31, 0xB5, 0x62, 0x7B, 0x26, 0xD3, 0x03, 0x8E, 0x9F, 0x8E, 0x04, 0x95, 0x4C, 0x67, 0x97]

def maskBlocks (bytes : List UInt8) : List UInt8 :=
  bytes.mapIdx fun i b => b ^^^ blockMask.getD (i % 16) 0

theorem maskBlocks_maskBlocks (bytes : List UInt8) : maskBlocks (maskBlocks bytes) = bytes := by
  refine List.ext_getElem (by simp [maskBlocks]) ?_
  intro i _ _
  simp only [maskBlocks, List.getElem_mapIdx, UInt8.xor_assoc, UInt8.xor_self, UInt8.xor_zero]

def maskCrate : CbcCrate where
  encryptPaddedMut _ _ buf msgLen :=
    let padLen := 16 - msgLen % 16
    if msgLen + padLen ≤ buf.length then
      some (maskBlocks (buf.take msgLen ++ List.replicate padLen (UInt8.ofNat padLen)))
    else none
  decryptPaddedMut _ _ buf :=
    let padded := maskBlocks buf
    let padLen := (padded.getLastD 0).toNat
    if 1 ≤ padLen ∧ padLen ≤ 16 ∧
        padded.drop (padded.length - padLen) = List.replicate padLen (UInt8.ofNat padLen) then
      some (padded.take (padded.length - padLen))
    else none

theorem maskCrate_pkcs7 : maskCrate.Pkcs7 where
  encrypt key iv msg pad _ _ hpad := by
    obtain ⟨k, hk⟩ : ∃ k, pad.length = k + 1 := ⟨pad.length - 1, by omega⟩
    have hk16 : k + 1 ≤ 16 := by omega
    have hbyte : (UInt8.ofNat (k + 1)).toNat = k + 1 := by
      rw [UInt8.toNat_ofNat']
      omega
    have hlast : (msg ++ List.replicate (k + 1) (UInt8.ofNat (k + 1))).getLastD 0 =
        UInt8.ofNat (k + 1) := by
      rw [List.replicate_succ', ← List.append_assoc, List.getLastD_concat]
    refine ⟨maskBlocks (msg ++ List.replicate (k + 1) (UInt8.ofNat (k + 1))), ?_, ?_, ?_⟩
    · simp [maskCrate, ← hpad, hk]
    · simp [maskBlocks, hk]
    · simp only [maskCrate, maskBlocks_maskBlocks, hlast, hbyte, List.length_append,
        List.length_replicate, Nat.add_sub_cancel, List.drop_left, List.take_left]
      rw [if_pos ⟨Nat.succ_pos k, hk16, trivial⟩]

def cipherKey : AesCryption where
  key := [0x57, 0x4E, 0x59, 0x32, 0x45, 0x58, 0x46, 0x44, 0x57, 0x30, 0x58, 0x51, 0x45, 0x50, 0x42,
    0x34]
  enabled := true
  key_length := rfl

def cipherMessage : Packet := Packet.withData 0x6B [0x01, 0x02, 0x03]

example : cipherKey.encrypt maskCrate [0x6B, 0x01, 0x02, 0x03] =
    [0x31, 0x30, 0xB7, 0x61, 0x77, 0x2A, 0xDF, 0x0F, 0x82, 0x93, 0x82, 0x08, 0x99, 0x40, 0x6B, 0x9B]
  := by decide

/-- In AES mode every list of packets that fit, with the plaintext branch used only for
data under an opcode other than the flag, is read back whole. -/
theorem frames_round_trip (hcbc : cbc.Pkcs7) (haes : aes.enabled = true)
    (packets : List (UInt32 × Packet)) (hfits : ∀ q ∈ packets, fits cbc crypto aes q.1 q.2)
    (hplain : ∀ q ∈ packets, q.2.plaintext = true → q.2.opcode ≠ AES_FLAG ∧ q.2.data ≠ []) :
    ∃ stream, buildFrames cbc crypto aes packets [] = .ok stream ∧
      readPackets cbc aes packets.length stream =
        .ok (packets.map fun q => Packet.withData q.2.opcode q.2.data, []) := by
  simpa using readPackets_buildFrames hcbc haes packets hfits hplain [] []

/-- An encrypted packet, a probe in plaintext, the encrypted packet again. -/
theorem frames_round_trip_mixed :
    let packets := [(0, cipherMessage), (0, ⟨0x02, [0x00], true⟩), (0, cipherMessage)]
    ∃ stream, buildFrames maskCrate JvCryption.new cipherKey packets [] = .ok stream ∧
      readPackets maskCrate cipherKey 3 stream =
        .ok ([cipherMessage, Packet.withData 0x02 [0x00], cipherMessage], []) :=
  frames_round_trip maskCrate_pkcs7 rfl
    [(0, cipherMessage), (0, ⟨0x02, [0x00], true⟩), (0, cipherMessage)]
    (by decide) (by decide)

/-- A probe without data is framed, and refused by the reader for its length. -/
theorem empty_probe_not_read :
    ¬ ∀ (cbc : CbcCrate) (crypto : JvCryption) (aes : AesCryption)
        (packets : List (UInt32 × Packet)), cbc.Pkcs7 → aes.enabled = true →
      (∀ q ∈ packets, fits cbc crypto aes q.1 q.2) →
      ∃ stream, buildFrames cbc crypto aes packets [] = .ok stream ∧
        readPackets cbc aes packets.length stream =
          .ok (packets.map fun q => Packet.withData q.2.opcode q.2.data, []) := by
  intro h
  obtain ⟨stream, hbuild, hread⟩ := h maskCrate JvCryption.new cipherKey
    [(0, Packet.newPlaintext 0x02)] maskCrate_pkcs7 rfl (by decide)
  obtain rfl : frameOf [0x02] = stream := by
    simpa [buildFrames, buildFrame, buildFramePlaintext, Packet.newPlaintext, frameOf, U16_MAX]
      using hbuild
  have hrefused : readPackets maskCrate cipherKey 1 (frameOf [0x02]) =
      .error (.invalidLength 1) := by decide
  have hsame := hrefused.symm.trans hread
  cases hsame

end KoServer
