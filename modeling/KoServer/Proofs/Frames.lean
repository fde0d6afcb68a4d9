import KoServer.Spec.Frames
import KoServer.Proofs.Crypto

/-! The byte stream the writer task sends. `buildFrame` appends a whole frame when the
payload fits the length field; otherwise it leaves `wreck` behind, which is empty in the
two modes that check the size first. -/

namespace KoServer

/-- Header, length field, that many bytes, tail. -/
def frameOf (payload : List UInt8) : List UInt8 :=
  HEADER_OUTGOING ++ Bytes.le 2 payload.length ++ payload ++ FOOTER_OUTGOING

section Writer

variable (cbc : CbcCrate) (crypto : JvCryption) (aes : AesCryption)

/-- What a packet puts between the length field and the tail. -/
def wirePayload (sequence : UInt32) (packet : Packet) : List UInt8 :=
  if packet.plaintext then packet.opcode :: packet.data
  else if aes.enabled then AES_FLAG :: aes.encrypt cbc (packet.opcode :: packet.data)
  else if crypto.enabled then
    crypto.encrypt (Bytes.le 2 OUTGOING_CRYPTO_MAGIC ++ Bytes.le 2 sequence.toNat ++ [0x00] ++
      [packet.opcode] ++ packet.data)
  else packet.opcode :: packet.data

def fits (sequence : UInt32) (packet : Packet) : Prop :=
  (wirePayload cbc crypto aes sequence packet).length ≤ U16_MAX

instance (sequence : UInt32) (packet : Packet) : Decidable (fits cbc crypto aes sequence packet) :=
  inferInstanceAs (Decidable (_ ≤ _))

/-- The two modes whose size check comes before the first byte. -/
def checksFirst (packet : Packet) : Bool := packet.plaintext || aes.enabled

/-- What a failed call has appended. -/
def wreck (sequence : UInt32) (packet : Packet) : List UInt8 :=
  if checksFirst aes packet then []
  else HEADER_OUTGOING ++ [0, 0] ++ wirePayload cbc crypto aes sequence packet

theorem wirePayload_of_encrypted {sequence : UInt32} {packet : Packet}
    (h : checksFirst aes packet = false) :
    wirePayload cbc crypto aes sequence packet =
      if crypto.enabled then
        crypto.encrypt (Bytes.le 2 OUTGOING_CRYPTO_MAGIC ++ Bytes.le 2 sequence.toNat ++ [0x00] ++
          [packet.opcode] ++ packet.data)
      else packet.opcode :: packet.data := by
  obtain ⟨hp, ha⟩ := Bool.or_eq_false_iff.mp h
  simp [wirePayload, hp, ha]

theorem buildFrame_in_place {sequence : UInt32} {packet : Packet} {buf : List UInt8}
    (h : checksFirst aes packet = false) :
    buildFrame cbc crypto sequence packet buf aes =
      let payload := wirePayload cbc crypto aes sequence packet
      if payload.length > U16_MAX then
        (.error (.payloadTooLarge payload.length), buf ++ (HEADER_OUTGOING ++ [0, 0] ++ payload))
      else (.ok (), buf ++ frameOf payload) := by
  rw [wirePayload_of_encrypted cbc crypto aes h]
  obtain ⟨hp, ha⟩ := Bool.or_eq_false_iff.mp h
  have hhead : (buf ++ (HEADER_OUTGOING ++ [0, 0])).length = buf.length + 4 := by
    simp [HEADER_OUTGOING]
  have hfill (payload : List UInt8) :
      (buf ++ (HEADER_OUTGOING ++ [0, 0] ++ payload)).take (buf.length + 2) ++
        Bytes.le 2 payload.length ++
        (buf ++ (HEADER_OUTGOING ++ [0, 0] ++ payload)).drop (buf.length + 4) ++ FOOTER_OUTGOING =
      buf ++ frameOf payload := by
    have hdrop : buf.drop (buf.length + 4) = [] := List.drop_eq_nil_of_le (by omega)
    have htake : buf.take (buf.length + 2) = buf := List.take_of_length_le (by omega)
    simp [frameOf, HEADER_OUTGOING, List.take_append, List.drop_append, hdrop, htake]
  have hsize (payload : List UInt8) :
      (buf ++ (HEADER_OUTGOING ++ [0, 0] ++ payload)).length - (buf.length + 4) =
        payload.length := by
    simp only [List.length_append, HEADER_OUTGOING, List.length_cons, List.length_nil]
    omega
  have hsealed (body : List UInt8) :
      (buf ++ (HEADER_OUTGOING ++ [0, 0] ++ body)).take (buf.length + 4) ++
        crypto.encrypt ((buf ++ (HEADER_OUTGOING ++ [0, 0] ++ body)).drop (buf.length + 4)) =
      buf ++ (HEADER_OUTGOING ++ [0, 0] ++ crypto.encrypt body) := by
    rw [← List.append_assoc, List.take_left' hhead, List.drop_left' hhead, List.append_assoc]
  unfold buildFrame
  simp only [hp, ha, Bool.false_eq_true, if_false, List.append_assoc] at hfill hsize hsealed ⊢
  by_cases hc : crypto.enabled
  · simp only [hc, if_true, hsealed, hsize, hfill]
  · simp only [hc, Bool.false_eq_true, if_false, hsize, hfill]
    rfl

theorem buildFrame_checked (sequence : UInt32) {packet : Packet} (buf : List UInt8)
    (h : checksFirst aes packet = true) :
    ∃ e, buildFrame cbc crypto sequence packet buf aes =
      let payload := wirePayload cbc crypto aes sequence packet
      if payload.length > U16_MAX then (.error e, buf) else (.ok (), buf ++ frameOf payload) := by
  by_cases hp : packet.plaintext = true
  · refine ⟨.plaintextTooLarge (1 + packet.data.length), ?_⟩
    simp [buildFrame, wirePayload, buildFramePlaintext, frameOf, hp, Nat.add_comm]
  · have ha : aes.enabled = true := by simpa [checksFirst, hp] using h
    refine ⟨.aesTooLarge (1 + (aes.encrypt cbc (packet.opcode :: packet.data)).length), ?_⟩
    simp [buildFrame, wirePayload, buildFrameAes, frameOf, hp, ha, Nat.add_comm]

theorem buildFrame_ok {sequence : UInt32} {packet : Packet} {buf : List UInt8}
    (h : fits cbc crypto aes sequence packet) :
    buildFrame cbc crypto sequence packet buf aes =
      (.ok (), buf ++ frameOf (wirePayload cbc crypto aes sequence packet)) := by
  by_cases hcheck : checksFirst aes packet = true
  · obtain ⟨e, he⟩ := buildFrame_checked cbc crypto aes sequence buf hcheck
    rw [he]
    exact if_neg (not_lt.mpr h)
  · rw [buildFrame_in_place cbc crypto aes (by simpa using hcheck)]
    exact if_neg (not_lt.mpr h)

theorem buildFrame_error {sequence : UInt32} {packet : Packet} (buf : List UInt8)
    (h : ¬ fits cbc crypto aes sequence packet) :
    ∃ e, buildFrame cbc crypto sequence packet buf aes =
      (.error e, buf ++ wreck cbc crypto aes sequence packet) := by
  by_cases hcheck : checksFirst aes packet = true
  · obtain ⟨e, he⟩ := buildFrame_checked cbc crypto aes sequence buf hcheck
    refine ⟨e, ?_⟩
    rw [he, wreck, if_pos hcheck, List.append_nil]
    exact if_pos (not_le.mp h)
  · refine ⟨.payloadTooLarge (wirePayload cbc crypto aes sequence packet).length, ?_⟩
    rw [buildFrame_in_place cbc crypto aes (by simpa using hcheck), wreck, if_neg hcheck]
    exact if_pos (not_le.mp h)

theorem wreck_eq_nil {sequence : UInt32} {packet : Packet} :
    wreck cbc crypto aes sequence packet = [] ↔ checksFirst aes packet = true := by
  unfold wreck
  split <;> simp_all [HEADER_OUTGOING]

def framesOf (log : BuildLog) : List UInt8 :=
  log.flatMap fun (q, result) =>
    match result with
    | .ok () => frameOf (wirePayload cbc crypto aes q.sequence q.packet)
    | .error _ => []

/-- Whether a packet that grows in place and does not fit comes up while a batch is open.
A batch opens with a packet that fits, and closes at a packet `try_recv` does not see yet
or at one that does not fit; one that does not fit outside a batch ends the task. -/
def wrecksBatch : (batchOpen : Bool) → List Queued → Bool
  | _, [] => false
  | batchOpen, q :: rest =>
    if blocked q.packet then wrecksBatch (batchOpen && q.ready) rest
    else if fits cbc crypto aes q.sequence q.packet then wrecksBatch true rest
    else if batchOpen && q.ready then !checksFirst aes q.packet || wrecksBatch false rest
    else false

/-- The batch is the frames of its calls and the wreck of a last one that failed in place. -/
theorem drain_spec (queue : List Queued) (buf : List UInt8) :
    ∃ trash, (drain cbc crypto aes queue buf).2.1 =
        buf ++ framesOf cbc crypto aes (drain cbc crypto aes queue buf).2.2 ++ trash ∧
      (wrecksBatch cbc crypto aes true queue = true ↔
        trash ≠ [] ∨ wrecksBatch cbc crypto aes false (drain cbc crypto aes queue buf).1 = true) := by
  induction queue generalizing buf with
  | nil => exact ⟨[], by simp [drain, framesOf], by simp [drain, wrecksBatch]⟩
  | cons q rest ih =>
    unfold drain
    cases hready : q.ready with
    | false =>
      refine ⟨[], by simp [framesOf], ?_⟩
      simp [wrecksBatch, hready]
    | true =>
      cases hblocked : blocked q.packet with
      | true =>
        obtain ⟨trash, hbuf, hwreck⟩ := ih buf
        exact ⟨trash, by simpa using hbuf, by simpa [wrecksBatch, hblocked, hready] using hwreck⟩
      | false =>
        by_cases hfits : fits cbc crypto aes q.sequence q.packet
        · obtain ⟨trash, hbuf, hwreck⟩ :=
            ih (buf ++ frameOf (wirePayload cbc crypto aes q.sequence q.packet))
          refine ⟨trash, ?_, ?_⟩
          · simp [buildFrame_ok cbc crypto aes hfits, hbuf, framesOf]
          · simpa [buildFrame_ok cbc crypto aes hfits, wrecksBatch, hblocked, hfits] using hwreck
        · obtain ⟨e, he⟩ := buildFrame_error cbc crypto aes buf hfits
          refine ⟨wreck cbc crypto aes q.sequence q.packet, ?_, ?_⟩
          · simp [he, framesOf]
          · simp [he, wrecksBatch, hblocked, hfits, hready, wreck_eq_nil]

theorem drain_order (queue : List Queued) (buf : List UInt8) :
    (drain cbc crypto aes queue buf).2.2.map Prod.fst ++
        (drain cbc crypto aes queue buf).1.filter (!blocked ·.packet) =
      queue.filter (!blocked ·.packet) := by
  induction queue generalizing buf with
  | nil => rfl
  | cons q rest ih =>
    unfold drain
    cases hready : q.ready with
    | false => simp
    | true =>
      cases hblocked : blocked q.packet with
      | true => simpa [hblocked] using ih buf
      | false =>
        simp only [Bool.not_true, Bool.false_eq_true, if_false, List.filter_cons, hblocked,
          Bool.not_false, if_true]
        split
        · simp
        · simp [ih]

/-- The log has the packets that pass the opcode filter, in queue order, unless a failed
call ended the task. -/
theorem writerLoop_order (queue : List Queued) :
    ∃ unsent, (writerLoop cbc crypto aes queue).2.map Prod.fst ++ unsent =
        queue.filter (!blocked ·.packet) ∧
      (unsent = [] ∨ ∃ q e, (writerLoop cbc crypto aes queue).2.getLast? = some (q, .error e)) := by
  fun_induction writerLoop with
  | case1 => exact ⟨[], rfl, Or.inl rfl⟩
  | case2 q rest hblocked ih => simpa [hblocked] using ih
  | case3 q rest hblocked e buf he =>
    exact ⟨rest.filter (!blocked ·.packet), by simp [hblocked], Or.inr ⟨q, e, rfl⟩⟩
  | case4 q rest hblocked buf he batch tail ih =>
    obtain ⟨unsent, horder, hend⟩ := ih
    refine ⟨unsent, ?_, hend.imp_right ?_⟩
    · have hbatch := drain_order cbc crypto aes rest buf
      rw [List.filter_cons_of_pos (by simpa using hblocked), ← hbatch, ← horder]
      simp [batch, tail]
    · rintro ⟨last, e, hlast⟩
      exact ⟨last, e, by simp [tail, List.getLast?_cons, List.getLast?_append, hlast]⟩

theorem framesOf_append (log log' : BuildLog) :
    framesOf cbc crypto aes (log ++ log') =
      framesOf cbc crypto aes log ++ framesOf cbc crypto aes log' :=
  List.flatMap_append

/-- No frame is lost, and nothing else is sent unless a batch is wrecked. -/
theorem writerLoop_flushed (queue : List Queued) :
    (framesOf cbc crypto aes (writerLoop cbc crypto aes queue).2).length ≤
        (writerLoop cbc crypto aes queue).1.length ∧
      ((writerLoop cbc crypto aes queue).1 =
          framesOf cbc crypto aes (writerLoop cbc crypto aes queue).2 ↔
        wrecksBatch cbc crypto aes false queue = false) := by
  fun_induction writerLoop with
  | case1 => simp [framesOf, wrecksBatch]
  | case2 q rest hblocked ih => simpa [wrecksBatch, hblocked] using ih
  | case3 q rest hblocked e buf he =>
    have hfits : ¬ fits cbc crypto aes q.sequence q.packet := by
      intro h
      rw [buildFrame_ok cbc crypto aes h] at he
      cases he
    simp [framesOf, wrecksBatch, hblocked, hfits]
  | case4 q rest hblocked buf he batch tail ih =>
    have hfits : fits cbc crypto aes q.sequence q.packet := by
      by_contra h
      obtain ⟨e, h⟩ := buildFrame_error cbc crypto aes [] h
      rw [h] at he
      cases he
    obtain rfl : frameOf (wirePayload cbc crypto aes q.sequence q.packet) = buf := by
      rw [buildFrame_ok cbc crypto aes hfits] at he
      simpa using congrArg Prod.snd he
    obtain ⟨trash, hbuf, hwreck⟩ : ∃ trash,
        batch.2.1 = frameOf (wirePayload cbc crypto aes q.sequence q.packet) ++
          framesOf cbc crypto aes batch.2.2 ++ trash ∧
        (wrecksBatch cbc crypto aes true rest = true ↔
          trash ≠ [] ∨ wrecksBatch cbc crypto aes false batch.1 = true) :=
      drain_spec cbc crypto aes rest _
    obtain ⟨hle, hiff⟩ : (framesOf cbc crypto aes tail.2).length ≤ tail.1.length ∧
        (tail.1 = framesOf cbc crypto aes tail.2 ↔
          wrecksBatch cbc crypto aes false batch.1 = false) := ih
    have hopen : wrecksBatch cbc crypto aes false (q :: rest) =
        wrecksBatch cbc crypto aes true rest := by simp [wrecksBatch, hblocked, hfits]
    have hlog : framesOf cbc crypto aes ((q, .ok ()) :: (batch.2.2 ++ tail.2)) =
        frameOf (wirePayload cbc crypto aes q.sequence q.packet) ++
          framesOf cbc crypto aes batch.2.2 ++ framesOf cbc crypto aes tail.2 := by
      rw [← List.singleton_append, framesOf_append, framesOf_append, List.append_assoc]
      simp [framesOf]
    rw [hopen, hlog, hbuf]
    constructor
    · simp only [List.length_append]
      omega
    · rw [List.append_assoc _ trash, List.append_cancel_left_eq, ← Bool.not_eq_true, hwreck,
        not_or, not_not, Bool.not_eq_true, ← hiff]
      constructor
      · intro h
        -- the trash would have to be made up for by missing frames
        have htrash : trash = [] := by
          have hlen := congrArg List.length h
          rw [List.length_append] at hlen
          exact List.length_eq_zero_iff.mp (by omega)
        exact ⟨htrash, by simpa [htrash] using h⟩
      · rintro ⟨rfl, h⟩
        exact h

theorem buildFrame_error_keeps_iff (sequence : UInt32) (packet : Packet) (buf : List UInt8) :
    (∀ e, (buildFrame cbc crypto sequence packet buf aes).1 = .error e →
        (buildFrame cbc crypto sequence packet buf aes).2 = buf) ↔
      checksFirst aes packet = true ∨ fits cbc crypto aes sequence packet := by
  by_cases hfits : fits cbc crypto aes sequence packet
  · simp [buildFrame_ok cbc crypto aes hfits, hfits]
  · obtain ⟨e, he⟩ := buildFrame_error cbc crypto aes buf hfits
    simp [he, hfits, wreck_eq_nil]

/-- Outside AES mode the payload is the packet and the prefix of the session cipher. -/
theorem fits_iff {sequence : UInt32} {packet : Packet} (h : checksFirst aes packet = false) :
    fits cbc crypto aes sequence packet ↔
      (if crypto.enabled then 6 else 1) + packet.data.length ≤ U16_MAX := by
  unfold fits
  rw [wirePayload_of_encrypted cbc crypto aes h]
  split
  · simp [JvCryption.encrypt, JvCryption.transform_length]
    omega
  · simp [Nat.add_comm]

/-- A failed call leaves the buffer alone exactly when the size is checked first or there
was no failure, and the bytes flushed for a queue are one frame for each packet built
exactly when no open batch meets a packet that grows in place past the length field. -/
theorem writer_complete_frames_iff :
    (∀ sequence packet buf,
      (∀ e, (buildFrame cbc crypto sequence packet buf aes).1 = .error e →
          (buildFrame cbc crypto sequence packet buf aes).2 = buf) ↔
        packet.plaintext = true ∨ aes.enabled = true ∨
          (if crypto.enabled then 6 else 1) + packet.data.length ≤ U16_MAX) ∧
    (∀ queue,
      (∃ unsent, (writerLoop cbc crypto aes queue).2.map Prod.fst ++ unsent =
          queue.filter (!blocked ·.packet) ∧
        (unsent = [] ∨
          ∃ q e, (writerLoop cbc crypto aes queue).2.getLast? = some (q, .error e))) ∧
      ((writerLoop cbc crypto aes queue).1 =
          framesOf cbc crypto aes (writerLoop cbc crypto aes queue).2 ↔
        wrecksBatch cbc crypto aes false queue = false)) := by
  constructor
  · intro sequence packet buf
    rw [buildFrame_error_keeps_iff, ← or_assoc, ← Bool.or_eq_true]
    cases h : checksFirst aes packet with
    | true => simp [show (packet.plaintext || aes.enabled) = true from h]
    | false => rw [fits_iff cbc crypto aes h, show (packet.plaintext || aes.enabled) = false from h]
  · exact fun queue => ⟨writerLoop_order cbc crypto aes queue,
      (writerLoop_flushed cbc crypto aes queue).2⟩

end Writer

/-- Before the key exchange: a packet that fits, then one whose payload has 65536 bytes. -/
def oversizeQueue : List Queued :=
  [⟨Packet.new 0x10, 0, false⟩, ⟨Packet.withData 0x11 (List.replicate 65535 0), 0, true⟩]

theorem oversizeQueue_wrecks (cbc : CbcCrate) :
    wrecksBatch cbc JvCryption.new AesCryption.new false oversizeQueue = true := by
  have hsmall : fits cbc JvCryption.new AesCryption.new 0 (Packet.new 0x10) := by
    rw [fits_iff _ _ _ rfl]
    decide
  have hlarge : ¬ fits cbc JvCryption.new AesCryption.new 0
      (Packet.withData 0x11 (List.replicate 65535 0)) := by
    rw [fits_iff _ _ _ rfl]
    simp [JvCryption.new, Packet.withData, U16_MAX, -List.reduceReplicate]
  have hopcode : blocked (Packet.withData 0x11 (List.replicate 65535 0)) = false := rfl
  have hfirst : blocked (Packet.new 0x10) = false := rfl
  unfold oversizeQueue
  simp only [wrecksBatch, hsmall, hlarge, hopcode, hfirst, if_true, if_false, Bool.false_eq_true]
  rfl

/-- The head of the second packet is sent behind the frame of the first. -/
theorem partial_frame_flushed :
    let cbc : CbcCrate := ⟨fun _ _ _ _ => none, fun _ _ _ => none⟩
    let (flushed, log) := writerLoop cbc JvCryption.new AesCryption.new oversizeQueue
    flushed ≠ framesOf cbc JvCryption.new AesCryption.new log := by
  intro cbc
  have hwreck := oversizeQueue_wrecks cbc
  intro h
  rw [(writerLoop_flushed cbc _ _ oversizeQueue).2.mp h] at hwreck
  cases hwreck

end KoServer
