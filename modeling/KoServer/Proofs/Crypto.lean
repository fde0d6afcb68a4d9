import KoServer.Lib.Crc
import KoServer.Spec.Crypto

/-! The cipher inverts itself, its framed form round-trips, and its trailer catches
every burst of up to four bytes. The stream depends on the key and the length only,
so an error in the ciphertext is the same error in the plaintext, and the trailer
then meets it with the burst property of the polynomial. -/

namespace KoServer

theorem low_bit_ne_zero (crc : UInt32) : crc &&& 1 ≠ 0 ↔ crc.toBitVec.getLsbD 0 = true := by
  have h : (crc &&& 1).toBitVec = BitVec.setWidth 32 (BitVec.ofBool (crc.toBitVec.getLsbD 0)) := by
    rw [UInt32.toBitVec_and]
    exact BitVec.and_one_eq_setWidth_ofBool_getLsbD
  rw [ne_eq, ← UInt32.toBitVec_inj, h]
  cases crc.toBitVec.getLsbD 0 <;> decide

theorem crc32Shift_toBitVec (n : ℕ) (crc : UInt32) :
    (crc32Shift n crc).toBitVec = Crc.clock CRC32_POLY.toBitVec n crc.toBitVec := by
  induction n generalizing crc with
  | zero => rfl
  | succ n ih =>
    rw [crc32Shift, ih, Crc.clock_succ]
    congr 1
    by_cases h : crc &&& 1 ≠ 0
    · simp [h, Crc.bitStep, (low_bit_ne_zero crc).mp h]
    · have h0 : crc.toBitVec.getLsbD 0 = false := by
        simpa using mt (low_bit_ne_zero crc).mpr h
      rw [if_neg h, Crc.bitStep_even _ _ h0]
      simp

theorem crc32Table_getD (i : UInt32) (hi : i.toNat < 256) :
    CRC32_TABLE.getD i.toNat 0 = crc32Shift 8 i := by
  simp [CRC32_TABLE, Array.getD_eq_getD_getElem?, hi]

theorem crc32Step_toBitVec (crc : UInt32) (byte : UInt8) :
    (crc32Step crc byte).toBitVec =
      Crc.byteStep CRC32_POLY.toBitVec crc.toBitVec byte := by
  have hlow : ((crc ^^^ byte.toUInt32) &&& 0xFF).toNat < 256 := by
    have := Nat.and_le_right (n := (crc ^^^ byte.toUInt32).toNat) (m := 255)
    simpa using Nat.lt_succ_of_le this
  have hreg : crc.toBitVec ^^^ Crc.ofByte byte = (crc ^^^ byte.toUInt32).toBitVec := by
    simp [Crc.ofByte]
  have hshift : (crc ^^^ byte.toUInt32).toBitVec >>> 8 = (crc >>> 8).toBitVec := by
    ext i hi
    simp
  rw [crc32Step, crc32Table_getD _ hlow, UInt32.toBitVec_xor, crc32Shift_toBitVec, Crc.byteStep,
    hreg, Crc.clock_split _ (crc ^^^ byte.toUInt32).toBitVec 8, hshift]
  simp

theorem crc32WithStart_toBitVec (data : List UInt8) (startVal : UInt32) :
    (crc32WithStart data startVal).toBitVec =
      Crc.feed CRC32_POLY.toBitVec startVal.toBitVec data := by
  induction data generalizing startVal with
  | nil => rfl
  | cons b data ih =>
    rw [Crc.feed_cons, ← crc32Step_toBitVec, ← ih, crc32WithStart, List.foldl_cons,
      crc32WithStart]

example : crc32 [49, 50, 51, 52, 53, 54, 55, 56, 57] = 0x340BC6D9 := by
  rw [← UInt32.toBitVec_inj, crc32, crc32WithStart_toBitVec]
  decide +kernel

theorem crc32_poly_msb : CRC32_POLY.toBitVec.msb = true := by decide

namespace JvCryption

theorem transformFrom_length (pkey : List UInt8) (lkey : UInt8) (i : ℕ) (rkey : UInt32)
    (data : List UInt8) : (transformFrom pkey lkey i rkey data).length = data.length := by
  induction data generalizing i rkey with
  | nil => rfl
  | cons b data ih => simp [transformFrom, ih]

/-- Xoring an error into the input xors it into the output. -/
theorem transformFrom_xor (pkey : List UInt8) (lkey : UInt8) (i : ℕ) (rkey : UInt32)
    (data err : List UInt8) (h : data.length = err.length) :
    transformFrom pkey lkey i rkey (List.zipWith (· ^^^ ·) data err) =
      List.zipWith (· ^^^ ·) (transformFrom pkey lkey i rkey data) err := by
  induction data generalizing i rkey err with
  | nil => simp [transformFrom]
  | cons b data ih =>
    cases err with
    | nil => simp at h
    | cons e err =>
      have hrest := ih (i + 1) (rkey * RKEY_MULTIPLIER) err (by simpa using h)
      simp only [List.zipWith_cons_cons, transformFrom, hrest]
      congr 1
      ac_rfl

theorem transformFrom_transformFrom (pkey : List UInt8) (lkey : UInt8) (i : ℕ) (rkey : UInt32)
    (data : List UInt8) :
    transformFrom pkey lkey i rkey (transformFrom pkey lkey i rkey data) = data := by
  induction data generalizing i rkey with
  | nil => rfl
  | cons b data ih =>
    simp only [transformFrom, ih, List.cons.injEq, and_true]
    generalize ((rkey >>> 8) &&& 0xFF).toUInt8 = r
    generalize pkey.getD (i % 8) 0 = p
    calc (b ^^^ r ^^^ p ^^^ lkey) ^^^ r ^^^ p ^^^ lkey
        = b ^^^ (r ^^^ r) ^^^ (p ^^^ p) ^^^ (lkey ^^^ lkey) := by ac_rfl
      _ = b := by simp

@[simp] theorem transform_length (c : JvCryption) (data : List UInt8) :
    (c.transform data).length = data.length := transformFrom_length _ _ _ _ data

theorem transform_transform (c : JvCryption) (data : List UInt8) :
    c.transform (c.transform data) = data := by
  unfold transform
  rw [transformFrom_length, transformFrom_transformFrom]

theorem transform_xor (c : JvCryption) (data err : List UInt8) (h : data.length = err.length) :
    c.transform (List.zipWith (· ^^^ ·) data err) =
      List.zipWith (· ^^^ ·) (c.transform data) err := by
  have hlen : (List.zipWith (· ^^^ ·) data err).length = data.length := by simp [h]
  unfold transform
  rw [hlen, transformFrom_xor _ _ _ _ _ _ h]

/-- The plaintext of a framed packet: the payload followed by its checksum. -/
def trailed (data : List UInt8) : List UInt8 := data ++ Bytes.le 4 (crc32 data).toNat

theorem trailed_length (data : List UInt8) : (trailed data).length = data.length + 4 := by
  simp [trailed]

/-- The decrypter accepts a plaintext exactly when feeding all of it, trailer
included, clears the checksum register. -/
theorem decryptWithCrc32_of_length (c : JvCryption) (data : List UInt8) (h : 4 ≤ data.length) :
    c.decryptWithCrc32 data = (c.transform data,
      if Crc.feed CRC32_POLY.toBitVec (0xFFFFFFFF : UInt32).toBitVec (c.transform data) = 0#32
      then some (data.length - 4) else none) := by
  have hlen : (c.transform data).length = data.length := c.transform_length data
  set plain := c.transform data with hplain
  set n := data.length - 4
  have htrailer : (plain.drop n).length = 4 := by simp [hlen, n]; omega
  have hcheck : crc32 (plain.take n) = UInt32.ofNat (Bytes.value ((plain.drop n).take 4)) ↔
      Crc.feed CRC32_POLY.toBitVec (0xFFFFFFFF : UInt32).toBitVec plain = 0#32 := by
    have hsplit : Crc.feed CRC32_POLY.toBitVec (0xFFFFFFFF : UInt32).toBitVec plain =
        Crc.feed CRC32_POLY.toBitVec (crc32 (plain.take n)).toBitVec (plain.drop n) := by
      rw [crc32, crc32WithStart_toBitVec, ← Crc.feed_append, List.take_append_drop]
    rw [hsplit, Crc.feed_trailer _ _ crc32_poly_msb _ (by omega), Crc.word_eq_value,
      List.take_of_length_le (le_of_eq htrailer), ← UInt32.toBitVec_inj]
    simp [UInt32.toBitVec_ofNat']
  have hnot : ¬ data.length < 4 := by omega
  simp only [decryptWithCrc32, hnot, if_false, decrypt, ← hplain, hlen]
  exact congrArg (Prod.mk plain) (if_congr hcheck rfl rfl)

theorem feed_trailed (data : List UInt8) :
    Crc.feed CRC32_POLY.toBitVec (0xFFFFFFFF : UInt32).toBitVec (trailed data) = 0#32 := by
  have hlt : (crc32 data).toNat < 256 ^ 4 := (crc32 data).toNat_lt
  have hreg : Crc.feed CRC32_POLY.toBitVec (0xFFFFFFFF : UInt32).toBitVec data =
      (crc32 data).toBitVec := (crc32WithStart_toBitVec data _).symm
  rw [trailed, Crc.feed_append, hreg, Crc.feed_trailer _ _ crc32_poly_msb _ (by simp),
    Crc.word_eq_value, Bytes.value_le_of_lt _ _ hlt]
  simp

/-- Framing then unframing gives the payload back, and the stream is an involution. -/
theorem decrypt_encrypt_with_crc32 (c : JvCryption) (data : List UInt8) :
    (c.encryptWithCrc32 data).length = data.length + 4 ∧
    (c.decryptWithCrc32 (c.encryptWithCrc32 data)).2 = some data.length ∧
    (c.decryptWithCrc32 (c.encryptWithCrc32 data)).1.take data.length = data ∧
    ∀ bytes, c.transform (c.transform bytes) = bytes := by
  have hlen : (c.encryptWithCrc32 data).length = data.length + 4 := by
    simp [encryptWithCrc32, encrypt]
  have hplain : c.transform (c.encryptWithCrc32 data) = trailed data :=
    c.transform_transform (trailed data)
  refine ⟨hlen, ?_, ?_, c.transform_transform⟩
  · rw [decryptWithCrc32_of_length c _ (by omega), hplain, hlen, feed_trailed]
    simp
  · rw [decryptWithCrc32_of_length c _ (by omega), hplain, trailed]
    simp

/-- A non-zero error confined to four neighbouring bytes of the ciphertext, anywhere
in it, is rejected. -/
theorem burst_rejected (c : JvCryption) (data err : List UInt8) (i : ℕ)
    (hlen : err.length = (c.encryptWithCrc32 data).length)
    (hwindow : ∀ j, err.getD j 0 ≠ 0 → i ≤ j ∧ j < i + 4) (hne : ∃ b ∈ err, b ≠ 0) :
    (c.decryptWithCrc32 (List.zipWith (· ^^^ ·) (c.encryptWithCrc32 data) err)).2 = none := by
  have hct : (c.encryptWithCrc32 data).length = data.length + 4 :=
    (c.decrypt_encrypt_with_crc32 data).1
  have hplain : c.transform (List.zipWith (· ^^^ ·) (c.encryptWithCrc32 data) err) =
      List.zipWith (· ^^^ ·) (trailed data) err := by
    rw [transform_xor c _ _ hlen.symm]
    exact congrArg (List.zipWith _ · err) (c.transform_transform (trailed data))
  have hfeed : Crc.feed CRC32_POLY.toBitVec (0xFFFFFFFF : UInt32).toBitVec
      (List.zipWith (· ^^^ ·) (trailed data) err) ≠ 0#32 := by
    have hsame : (trailed data).length = err.length := by rw [trailed_length, hlen, hct]
    have hx := Crc.feed_xor CRC32_POLY.toBitVec (0xFFFFFFFF : UInt32).toBitVec 0#32 _ _ hsame
    rw [BitVec.xor_zero, feed_trailed, BitVec.zero_xor] at hx
    rw [hx]
    exact Crc.feed_window_ne_zero _ crc32_poly_msb err i 4 (by decide) hwindow hne
  rw [decryptWithCrc32_of_length c _ (by simp [hlen, hct]), hplain, if_neg hfeed]

theorem burst_rejected_straddling :
    let c := (JvCryption.new.setPublicKey 0xAAAABBBBCCCCDDDD).init
    (c.decryptWithCrc32 (List.zipWith (· ^^^ ·) (c.encryptWithCrc32 [0x10, 0x20, 0x30])
      [0, 0, 0xFF, 0, 0, 0x01, 0])).2 = none :=
  burst_rejected _ [0x10, 0x20, 0x30] [0, 0, 0xFF, 0, 0, 0x01, 0] 2 (by decide)
    (by
      intro j hj
      rcases j with _ | _ | _ | _ | _ | _ | _ | j <;> simp_all)
    ⟨0xFF, by decide, by decide⟩

end JvCryption

end KoServer
