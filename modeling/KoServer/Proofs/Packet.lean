import KoServer.Spec.Packet

/-! String fields are lossless for the letters of the table above `0xBF`. The decoder
guesses UTF-8 first; a win1254 string without a byte in `0x80..0xBF` has no
continuation byte, so the guess can only succeed on pure ASCII, where both readings
agree. -/

namespace KoServer

set_option maxRecDepth 8192

theorem win1254_latin : ∀ n < 256, 0xA0 ≤ n → n ∉ [0xD0, 0xDD, 0xDE, 0xF0, 0xFD, 0xFE] →
    win1254ToUnicode (UInt8.ofNat n) = Char.ofNat n := by
  decide +kernel

theorem win1254_ascii : ∀ n < 0x80, win1254ToUnicode (UInt8.ofNat n) = Char.ofNat n := by
  decide +kernel

/-- Decoding a byte of the table undoes encoding it. -/
theorem win1254_left_inverse (c : Char) (b : UInt8) (h : unicodeToWin1254 c = some b) :
    win1254ToUnicode b = c := by
  have hc : Char.ofNat c.toNat = c := Char.ofNat_toNat c
  simp only [unicodeToWin1254] at h
  generalize c.toNat = n at h hc
  subst hc
  by_cases hn : n ≤ 0x7F
  · rw [if_pos hn] at h
    obtain rfl := Option.some.inj h
    exact win1254_ascii n (by omega)
  · rw [if_neg hn] at h
    split at h
    -- the literal rows, then the Latin-1 range
    all_goals try (cases h; done)
    all_goals try (cases h; rfl)
    split at h
    · next hr =>
      obtain rfl := Option.some.inj h
      refine win1254_latin n (by omega) hr.1 ?_
      simp only [List.mem_cons, List.not_mem_nil, or_false, not_or]
      refine ⟨?_, ?_, ?_, ?_, ?_, ?_⟩ <;> assumption
    · cases h

/-- What `str::from_utf8` accepts is the UTF-8 encoding of what it returns. -/
theorem strFromUtf8_eq_some {bytes : List UInt8} {s : List Char}
    (h : strFromUtf8 bytes = some s) : bytes = asBytes s := by
  obtain ⟨arr, harr, rfl⟩ := Option.map_eq_some_iff.mp h
  have henc : arr.toList.utf8Encode = bytes.toByteArray := by
    have hsome : bytes.toByteArray.utf8Decode?.isSome = true := by rw [harr]; rfl
    have hget := @ByteArray.utf8Encode_get_utf8Decode? bytes.toByteArray hsome
    simpa only [harr, Option.get_some] using hget
  have hdata := congrArg ByteArray.data henc
  rw [List.utf8Encode, List.data_toByteArray, List.data_toByteArray] at hdata
  simpa [asBytes] using hdata.symm

theorem strFromUtf8_asBytes (s : List Char) : strFromUtf8 (asBytes s) = some s := by
  have h : (asBytes s).toByteArray.utf8Decode? = some s.toArray := List.utf8Decode?_utf8Encode
  simp [strFromUtf8, h]

/-- Every character past ASCII is encoded with a continuation byte. -/
theorem utf8EncodeChar_continuation (c : Char) (h : 0x7F < c.toNat) :
    ∃ x ∈ String.utf8EncodeChar c, 0x80 ≤ x.toNat ∧ x.toNat < 0xC0 := by
  refine ⟨UInt8.ofNat (c.toNat % 0x40 + 0x80), ?_, ?_⟩
  · have h1 : ¬ c.val.toNat ≤ 0x7F := not_le.mpr h
    unfold String.utf8EncodeChar
    rw [if_neg h1]
    split_ifs <;> simp
  · simp
    omega

theorem utf8EncodeChar_ascii (c : Char) (h : c.toNat ≤ 0x7F) :
    String.utf8EncodeChar c = [UInt8.ofNat c.toNat] := by
  have h1 : c.val.toNat ≤ 0x7F := h
  unfold String.utf8EncodeChar
  rw [if_pos h1]
  rfl

/-- Without continuation bytes the guess succeeds on ASCII only. -/
theorem strFromUtf8_eq_none {bytes : List UInt8}
    (hcont : ∀ b ∈ bytes, b.toNat < 0x80 ∨ 0xC0 ≤ b.toNat)
    (hhigh : ∃ b ∈ bytes, 0xC0 ≤ b.toNat) : strFromUtf8 bytes = none := by
  cases hs : strFromUtf8 bytes with
  | none => rfl
  | some s =>
    exfalso
    obtain rfl := strFromUtf8_eq_some hs
    have hascii : ∀ c ∈ s, c.toNat ≤ 0x7F := by
      intro c hc
      by_contra hn
      obtain ⟨x, hx, hx1, hx2⟩ := utf8EncodeChar_continuation c (by omega)
      rcases hcont x (List.mem_flatMap.mpr ⟨c, hc, hx⟩) with h | h <;> omega
    obtain ⟨b, hb, hb1⟩ := hhigh
    obtain ⟨c, hc, hbc⟩ := List.mem_flatMap.mp hb
    rw [utf8EncodeChar_ascii c (hascii c hc), List.mem_singleton] at hbc
    have := hascii c hc
    simp [hbc] at hb1
    omega

/-- ASCII, or a character whose byte in the table is a letter position `0xC0..0xFF`. -/
def TableLetter (c : Char) : Prop :=
  c.toNat ≤ 0x7F ∨ ∃ b, unicodeToWin1254 c = some b ∧ 0xC0 ≤ b.toNat

theorem unicodeToWin1254_ascii (c : Char) (h : c.toNat ≤ 0x7F) :
    unicodeToWin1254 c = some (UInt8.ofNat c.toNat) := by
  simp [unicodeToWin1254, h]

theorem mapM_win1254 (s : List Char) (hs : ∀ c ∈ s, TableLetter c) :
    ∃ bytes, s.mapM unicodeToWin1254 = some bytes ∧ bytes.map win1254ToUnicode = s ∧
      (∀ b ∈ bytes, b.toNat < 0x80 ∨ 0xC0 ≤ b.toNat) ∧
      (isAscii s = false → ∃ b ∈ bytes, 0xC0 ≤ b.toNat) := by
  induction s with
  | nil => exact ⟨[], rfl, rfl, by simp, by simp [isAscii]⟩
  | cons c s ih =>
    obtain ⟨bytes, hmap, hinv, hrange, hhigh⟩ := ih fun d hd => hs d (List.mem_cons_of_mem _ hd)
    rcases hs c List.mem_cons_self with hc | ⟨b, hb, hb1⟩
    · have hbyte := unicodeToWin1254_ascii c hc
      refine ⟨UInt8.ofNat c.toNat :: bytes, by simp [hbyte, hmap], ?_, ?_, ?_⟩
      · simp [hinv, win1254_left_inverse c _ hbyte]
      · intro b hb
        rcases List.mem_cons.mp hb with rfl | hb
        · left
          simp
          omega
        · exact hrange b hb
      · intro h
        obtain ⟨b, hb, hb1⟩ := hhigh (by simpa [isAscii, hc] using h)
        exact ⟨b, List.mem_cons_of_mem _ hb, hb1⟩
    · refine ⟨b :: bytes, by simp [hb, hmap], ?_, ?_, fun _ => ⟨b, List.mem_cons_self, hb1⟩⟩
      · simp [hinv, win1254_left_inverse c b hb]
      · intro x hx
        rcases List.mem_cons.mp hx with rfl | hx
        · exact Or.inr hb1
        · exact hrange x hx

theorem decode_encode (s : List Char) (hs : ∀ c ∈ s, TableLetter c) :
    decodeWin1254 (encodeStringBytes s) = s := by
  cases ha : isAscii s with
  | true => simp [encodeStringBytes, ha, decodeWin1254, strFromUtf8_asBytes]
  | false =>
    obtain ⟨bytes, hmap, hinv, hrange, hhigh⟩ := mapM_win1254 s hs
    simp [encodeStringBytes, ha, hmap, decodeWin1254, strFromUtf8_eq_none hrange (hhigh ha), hinv]

/-- The letters of the Turkish alphabet past ASCII, circumflexed vowels included. -/
def turkishLetters : List Char :=
  ['Ç', 'ç', 'Ğ', 'ğ', 'İ', 'ı', 'Ö', 'ö', 'Ş', 'ş', 'Ü', 'ü', 'Â', 'â', 'Î', 'î', 'Û', 'û']

theorem tableLetter_turkish : ∀ c ∈ turkishLetters,
    ∃ b, unicodeToWin1254 c = some b ∧ 0xC0 ≤ b.toNat := by
  simp only [turkishLetters, List.forall_mem_cons, List.not_mem_nil, false_implies,
    implies_true, and_true]
  refine ⟨?_, ?_, ?_, ?_, ?_, ?_, ?_, ?_, ?_, ?_, ?_, ?_, ?_, ?_, ?_, ?_, ?_, ?_⟩ <;>
    exact ⟨_, rfl, by decide⟩

namespace PacketReader

theorem take_le (front rest : List UInt8) (k n : ℕ) :
    ((front ++ Bytes.le k n ++ rest).drop front.length).take k = Bytes.le k n := by
  rw [List.append_assoc, List.drop_left, List.take_left' (Bytes.le_length k n)]

theorem readU16_written (front rest : List UInt8) (n : ℕ) (hn : n < 2 ^ 16) :
    readU16 ⟨front ++ Bytes.le 2 n ++ rest, front.length⟩ =
      some (n, ⟨front ++ Bytes.le 2 n ++ rest, front.length + 2⟩) := by
  have hfits : front.length + 2 ≤ (front ++ Bytes.le 2 n ++ rest).length := by simp
  simp only [readU16, if_pos hfits, take_le, Bytes.value_le_of_lt 2 n (by omega)]

theorem readU8_written (front rest : List UInt8) (n : ℕ) (hn : n < 2 ^ 8) :
    readU8 ⟨front ++ Bytes.le 1 n ++ rest, front.length⟩ =
      some (n, ⟨front ++ Bytes.le 1 n ++ rest, front.length + 1⟩) := by
  have hfits : front.length < (front ++ Bytes.le 1 n ++ rest).length := by simp
  simp only [readU8, if_pos hfits, take_le, Bytes.value_le_of_lt 1 n (by omega)]

theorem readU32_written (front rest : List UInt8) (n : ℕ) (hn : n < 2 ^ 32) :
    readU32 ⟨front ++ Bytes.le 4 n ++ rest, front.length⟩ =
      some (n, ⟨front ++ Bytes.le 4 n ++ rest, front.length + 4⟩) := by
  have hfits : front.length + 4 ≤ (front ++ Bytes.le 4 n ++ rest).length := by simp
  simp only [readU32, if_pos hfits, take_le, Bytes.value_le_of_lt 4 n (by omega)]

theorem readU32D_lt (r : PacketReader) : r.readU32D.1 < 2 ^ 32 := by
  unfold readU32D readU32
  split_ifs
  · have hlt := Bytes.value_lt ((r.data.drop r.pos).take 4)
    have hlen := List.length_take_le 4 (r.data.drop r.pos)
    exact hlt.trans_le (Nat.pow_le_pow_right (by decide) hlen)
  · exact Nat.two_pow_pos 32

theorem take_field (front field suffix : List UInt8) (k : ℕ) (hk : front.length = k) :
    ((front ++ field ++ suffix).drop k).take field.length = field := by
  rw [List.append_assoc, List.drop_left' hk, List.take_left]

theorem readString_written (p : Packet) (s : List Char) (suffix : List UInt8)
    (hs : ∀ c ∈ s, TableLetter c) (hlen : (encodeStringBytes s).length ≤ MAX_STRING_LEN) :
    readString ⟨(p.writeString s).data ++ suffix, p.data.length⟩ =
      some (s, ⟨(p.writeString s).data ++ suffix, (p.writeString s).data.length⟩) := by
  have hmax : MAX_STRING_LEN = 16384 := rfl
  have hu16 := readU16_written p.data (encodeStringBytes s ++ suffix)
    (encodeStringBytes s).length (by omega)
  have hfield := take_field (p.data ++ Bytes.le 2 (encodeStringBytes s).length)
    (encodeStringBytes s) suffix (p.data.length + 2) (by simp)
  have hdata : (p.writeString s).data ++ suffix =
      p.data ++ Bytes.le 2 (encodeStringBytes s).length ++ (encodeStringBytes s ++ suffix) := by
    simp [Packet.writeString, Packet.writeU16, Packet.writeBytes]
  rw [hdata, readString, hu16]
  rw [List.append_assoc] at hfield
  simp only [hfield, decode_encode s hs]
  rw [if_neg (by simp; omega)]
  simp [Packet.writeString, Packet.writeU16, Packet.writeBytes, Nat.add_assoc]

theorem readSbyteString_written (p : Packet) (s : List Char) (suffix : List UInt8)
    (hs : ∀ c ∈ s, TableLetter c) (hlen : (encodeStringBytes s).length < 256) :
    readSbyteString ⟨(p.writeSbyteString s).data ++ suffix, p.data.length⟩ =
      some (s, ⟨(p.writeSbyteString s).data ++ suffix, (p.writeSbyteString s).data.length⟩) := by
  have hu8 := readU8_written p.data (encodeStringBytes s ++ suffix)
    (encodeStringBytes s).length hlen
  have hfield := take_field (p.data ++ Bytes.le 1 (encodeStringBytes s).length)
    (encodeStringBytes s) suffix (p.data.length + 1) (by simp)
  have hdata : (p.writeSbyteString s).data ++ suffix =
      p.data ++ Bytes.le 1 (encodeStringBytes s).length ++ (encodeStringBytes s ++ suffix) := by
    simp [Packet.writeSbyteString, Packet.writeU8, Packet.writeBytes]
  rw [hdata, readSbyteString, hu8]
  rw [List.append_assoc] at hfield
  simp only [hfield, decode_encode s hs]
  rw [if_pos (by simp; omega)]
  simp [Packet.writeSbyteString, Packet.writeU8, Packet.writeBytes, Nat.add_assoc]

/-- A string of ASCII and Turkish letters is read back as it was written, whatever comes
before the field and after it, and the reader stops at the suffix. -/
theorem string_fields_lossless (p : Packet) (s : List Char) (suffix : List UInt8)
    (hs : ∀ c ∈ s, c.toNat ≤ 0x7F ∨ c ∈ turkishLetters) :
    ((encodeStringBytes s).length ≤ MAX_STRING_LEN →
      ∃ r, readString ⟨(p.writeString s).data ++ suffix, p.data.length⟩ = some (s, r) ∧
        r.unread = suffix) ∧
    ((encodeStringBytes s).length < 256 →
      ∃ r, readSbyteString ⟨(p.writeSbyteString s).data ++ suffix, p.data.length⟩ = some (s, r) ∧
        r.unread = suffix) := by
  have hletters : ∀ c ∈ s, TableLetter c := fun c hc => (hs c hc).imp_right (tableLetter_turkish c)
  refine ⟨fun hlen => ⟨_, readString_written p s suffix hletters hlen, ?_⟩,
    fun hlen => ⟨_, readSbyteString_written p s suffix hletters hlen, ?_⟩⟩
  · exact List.drop_left
  · exact List.drop_left

/-- `Şığ` is three bytes of the table; between two other fields it comes back. -/
theorem string_fields_lossless_word :
    (∃ r, readString ⟨((Packet.withData 0x1B [0x07]).writeString ['Ş', 'ı', 'ğ']).data ++
        [0x11, 0x22], 1⟩ = some (['Ş', 'ı', 'ğ'], r) ∧ r.unread = [0x11, 0x22]) ∧
    (∃ r, readSbyteString ⟨((Packet.withData 0x1B [0x07]).writeSbyteString ['Ş', 'ı', 'ğ']).data ++
        [0x11, 0x22], 1⟩ = some (['Ş', 'ı', 'ğ'], r) ∧ r.unread = [0x11, 0x22]) := by
  have h := string_fields_lossless (Packet.withData 0x1B [0x07]) ['Ş', 'ı', 'ğ'] [0x11, 0x22]
    (by simp [turkishLetters])
  exact ⟨h.1 (by decide +kernel), h.2 (by decide +kernel)⟩

end PacketReader

end KoServer
