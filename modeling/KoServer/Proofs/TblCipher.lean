import KoServer.Spec.TblCipher
import Mathlib.Tactic.IntervalCases

/-! Every `.tbl` file the encoder writes is read back, and the decoder panics on no file but a
ChaosExpansion one whose body is empty or cut inside a block. Both layers are taken apart
separately: `initial_decode_sub` is a Feistel network whose key rows the two directions take in
opposite order, and it never leaves the values 0 and 1, so that no S-box is read outside. -/

namespace KoServer.Tbl

theorem xorHalf_xorHalf (a y : Half) : xorHalf (xorHalf a y) y = a := by
  apply Vector.ext
  intro i hi
  simp only [xorHalf, Vector.getElem_zipWith, UInt8.xor_assoc, UInt8.xor_self, UInt8.xor_zero]

theorem initialDecodeSubLoop_down (p0 : Vector UInt8 768) (num2 num : ℕ) (p1 : Block) :
    initialDecodeSubLoop p0 0 num2 num p1 =
      Feistel.run xorHalf roundImage ((List.range (num2 + 1)).map (keyRow p0)).reverse p1 := by
  induction num2 generalizing num p1 with
  | zero => simp [initialDecodeSubLoop, Feistel.run, Feistel.lastRound]
  | succ num2 ih =>
    have hkeys : ((List.range (num2 + 1 + 1)).map (keyRow p0)).reverse =
        keyRow p0 (num2 + 1) :: ((List.range (num2 + 1)).map (keyRow p0)).reverse := by
      simp [List.range_succ]
    have hhead : ((List.range (num2 + 1)).map (keyRow p0)).reverse =
        keyRow p0 num2 :: ((List.range num2).map (keyRow p0)).reverse := by
      simp [List.range_succ]
    simp only [initialDecodeSubLoop, if_pos, ih]
    rw [hkeys, hhead]
    simp only [Feistel.run, Feistel.round, Option.bind_map]
    rfl

theorem initialDecodeSubLoop_up {p2 : ℤ} (hp2 : p2 ≠ 0) (p0 : Vector UInt8 768) (num2 num : ℕ)
    (p1 : Block) :
    initialDecodeSubLoop p0 p2 num2 num p1 =
      Feistel.run xorHalf roundImage ((List.range' num (num2 + 1)).map (keyRow p0)) p1 := by
  induction num2 generalizing num p1 with
  | zero => simp [initialDecodeSubLoop, Feistel.run, Feistel.lastRound, hp2]
  | succ num2 ih =>
    simp only [initialDecodeSubLoop, if_neg hp2, ih, List.range'_succ, List.map_cons, Feistel.run,
      Feistel.round, Option.bind_map]
    rfl

theorem initialDecodeSub_decode (p0 : Vector UInt8 768) (p1 : Block) :
    initialDecodeSub p0 p1 0 =
      Feistel.run xorHalf roundImage ((List.range 16).map (keyRow p0)).reverse p1 :=
  initialDecodeSubLoop_down p0 15 0 p1

theorem initialDecodeSub_encode (p0 : Vector UInt8 768) (p1 : Block) :
    initialDecodeSub p0 p1 1 =
      Feistel.run xorHalf roundImage ((List.range 16).map (keyRow p0)) p1 := by
  rw [List.range_eq_range']
  exact initialDecodeSubLoop_up (by decide) p0 15 0 p1

theorem initialDecodeSub_inverse {p0 : Vector UInt8 768} {p1 p1' : Block}
    (h : initialDecodeSub p0 p1 1 = some p1') : initialDecodeSub p0 p1' 0 = some p1 := by
  rw [initialDecodeSub_encode] at h
  rw [initialDecodeSub_decode]
  exact Feistel.run_reverse xorHalf_xorHalf h

def IsBit (b : UInt8) : Prop := b = 0 ∨ b = 1

theorem IsBit.xor {a b : UInt8} (ha : IsBit a) (hb : IsBit b) : IsBit (a ^^^ b) := by
  unfold IsBit
  rcases ha with rfl | rfl <;> rcases hb with rfl | rfl <;> simp

theorem IsBit.toNat_le {b : UInt8} (hb : IsBit b) : b.toNat ≤ 1 := by
  rcases hb with rfl | rfl <;> simp

def AllBits {m : ℕ} (v : Vector UInt8 m) : Prop := ∀ n : ℕ, IsBit (v[n]?.getD 0)

theorem allBits_of_getElem {m : ℕ} {v : Vector UInt8 m} (h : ∀ (n : ℕ) (hn : n < m), IsBit v[n]) :
    AllBits v := by
  intro n
  by_cases hn : n < m
  · rw [Vector.getElem?_eq_getElem hn]
    exact h n hn
  · rw [Vector.getElem?_eq_none (by omega)]
    exact Or.inl rfl

theorem AllBits.get {m : ℕ} {v : Vector UInt8 m} (h : AllBits v) (i : Fin m) :
    IsBit (v.get i) := by
  have := h i
  rwa [Vector.getElem?_eq_getElem i.isLt] at this

theorem allBits_ofFn {m : ℕ} {f : Fin m → UInt8} (h : ∀ i, IsBit (f i)) :
    AllBits (Vector.ofFn f) := by
  apply allBits_of_getElem
  intro n hn
  simpa using h ⟨n, hn⟩

theorem allBits_KEY : AllBits KEY := by
  have hkey : ∀ b ∈ KEY.toList, b = 0 ∨ b = 1 := by decide +kernel
  apply allBits_of_getElem
  intro n hn
  exact hkey _ (Vector.mem_toList_iff.mpr (Vector.getElem_mem hn))

theorem AllBits.keyRow {p0 : Vector UInt8 768} (h : AllBits p0) (num4 : ℕ) :
    AllBits (keyRow p0 num4) :=
  allBits_ofFn fun _ => h _

theorem AllBits.xorHalf {a b : Half} (ha : AllBits a) (hb : AllBits b) :
    AllBits (xorHalf a b) := by
  apply allBits_of_getElem
  intro n hn
  have hbits : IsBit (a[n] ^^^ b[n]) := (ha.get ⟨n, hn⟩).xor (hb.get ⟨n, hn⟩)
  simpa [Tbl.xorHalf] using hbits

theorem AllBits.expand {row : Vector UInt8 48} {right : Half} (hrow : AllBits row)
    (hright : AllBits right) : AllBits (expand row right) :=
  allBits_ofFn fun i => (hrow.get i).xor (hright _)

theorem lor_two_mul_lt {b n k : ℕ} (hb : b ≤ 1) (hn : n < 2 ^ k) : b ||| (2 * n) < 2 ^ (k + 1) :=
  Nat.or_lt_two_pow (by rw [pow_succ]; have := Nat.one_le_two_pow (n := k); omega)
    (by rw [pow_succ]; omega)

/-- Six bits name one of sixty-four entries. -/
theorem sboxIndex_lt {buffer : Vector UInt8 48} (h : AllBits buffer) (s : ℕ) :
    sboxIndex buffer s < 64 := by
  have bit : ∀ n : ℕ, (buffer[n]?.getD 0).toNat ≤ 1 := fun n => (h n).toNat_le
  have h0 : (buffer[s * 6 + 0]?.getD 0).toNat < 2 ^ 1 := Nat.lt_succ_of_le (bit _)
  exact lor_two_mul_lt (bit _) (lor_two_mul_lt (bit _) (lor_two_mul_lt (bit _)
    (lor_two_mul_lt (bit _) (lor_two_mul_lt (bit _) h0))))

/-- Every byte of every S-box word is 0 or 1. -/
theorem sbox_bits : ∀ (s : Fin 8) (i : Fin 64) (j : Fin 4),
    IsBit (((SBOXES.get s).get i >>> UInt32.ofNat (8 * j)).toUInt8) := by
  unfold IsBit
  decide +kernel

/-- A round on bits finds its eight S-box words, and mixes in bits. -/
theorem roundImage_bits {row : Vector UInt8 48} {right : Half} (hrow : AllBits row)
    (hright : AllBits right) : ∃ dest, roundImage row right = some dest ∧ AllBits dest := by
  have hindex : ∀ s : Fin 8, sboxIndex (expand row right) s < 64 :=
    fun s => sboxIndex_lt (hrow.expand hright) s
  simp only [roundImage, sboxLookups, dif_pos hindex, Option.map_some, Option.some.injEq]
  refine ⟨_, rfl, allBits_ofFn fun num7 => ?_⟩
  refine allBits_ofFn (f := fun i => _) (fun i => ?_) _
  have hword : i.val / 4 < 8 := by omega
  rw [Vector.getElem?_eq_getElem hword]
  simpa using sbox_bits ⟨i / 4, hword⟩ ⟨_, hindex ⟨i / 4, hword⟩⟩ ⟨i % 4, Nat.mod_lt _ (by decide)⟩

theorem initialDecodeSub_bits {p0 : Vector UInt8 768} (hkey : AllBits p0) {left right : Half}
    (hl : AllBits left) (hr : AllBits right) (p2 : ℤ) :
    ∃ p1', initialDecodeSub p0 (left, right) p2 = some p1' ∧ AllBits p1'.1 ∧ AllBits p1'.2 := by
  have hrun : ∀ rows : List ℕ, ∃ p1', Feistel.run xorHalf roundImage (rows.map (keyRow p0))
      (left, right) = some p1' ∧ AllBits p1'.1 ∧ AllBits p1'.2 := by
    intro rows
    refine Feistel.run_keeps AllBits (fun a y ha hy => ha.xorHalf hy) ?_ hl hr
    intro row hrow right hright
    obtain ⟨num4, -, rfl⟩ := List.mem_map.mp hrow
    exact roundImage_bits (hkey.keyRow num4) hright
  by_cases hp2 : p2 = 0
  · rw [hp2, initialDecodeSub_decode, ← List.map_reverse]
    exact hrun _
  · rw [initialDecodeSub, initialDecodeSubLoop_up hp2]
    exact hrun _

def bitOf (b : UInt8) (k : ℕ) : UInt8 := (b >>> UInt8.ofNat (7 - k)) &&& 1

theorem bitOf_isBit (b : UInt8) (k : ℕ) : IsBit (bitOf b k) := by
  have hle : (bitOf b k).toNat ≤ 1 := by
    simpa [bitOf] using Nat.and_le_right (n := (b >>> UInt8.ofNat (7 - k)).toNat) (m := 1)
  rcases Nat.le_one_iff_eq_zero_or_eq_one.mp hle with h | h
  · exact Or.inl (UInt8.toNat_inj.mp h)
  · exact Or.inr (UInt8.toNat_inj.mp h)

theorem mergeByte_congr {f g : ℕ → UInt8} (h : ∀ k < 8, f k = g k) :
    mergeByte f = mergeByte g := by
  simp [mergeByte, h]

theorem mergeByte_bitOf (b : UInt8) : mergeByte (bitOf b) = b := by
  have hall : ∀ n : Fin 256, mergeByte (bitOf (UInt8.ofFin n)) = UInt8.ofFin n := by
    decide +kernel
  exact hall b.toFin

theorem bitOf_mergeByte {f : ℕ → UInt8} (hf : ∀ k < 8, IsBit (f k)) {k : ℕ} (hk : k < 8) :
    bitOf (mergeByte f) k = f k := by
  have hall : ∀ b0 b1 b2 b3 b4 b5 b6 b7 : Bool, ∀ k : Fin 8,
      bitOf (mergeByte fun n => ([b0, b1, b2, b3, b4, b5, b6, b7].getD n false).toUInt8) k =
        ([b0, b1, b2, b3, b4, b5, b6, b7].getD k false).toUInt8 := by
    decide +kernel
  have hbool : ∀ n < 8, f n = ([f 0 == 1, f 1 == 1, f 2 == 1, f 3 == 1, f 4 == 1, f 5 == 1,
      f 6 == 1, f 7 == 1].getD n false).toUInt8 := by
    intro n hn
    interval_cases n <;> rcases hf _ hn with h | h <;> simp [h, Bool.toUInt8]
  rw [mergeByte_congr hbool, hall _ _ _ _ _ _ _ _ ⟨k, hk⟩, ← hbool k hk]

theorem separateBits_getElem (bytes : List UInt8) {i : ℕ} (hi : i < 32) :
    (separateBits bytes)[i] = bitOf (bytes.getD (i / 8) 0) (i % 8) := by
  simp [separateBits, bitOf]

theorem separateBits_bits (bytes : List UInt8) : AllBits (separateBits bytes) := by
  apply allBits_of_getElem
  intro n hn
  rw [separateBits_getElem bytes hn]
  exact bitOf_isBit _ _

@[simp] theorem mergeBits_length (half : Half) : (mergeBits half).length = 4 := by
  simp [mergeBits]

theorem mergeBits_separateBits {bytes : List UInt8} (h : bytes.length = 4) :
    mergeBits (separateBits bytes) = bytes := by
  apply List.ext_getElem (by simp [h])
  intro j hj hj'
  simp only [mergeBits, List.getElem_map, List.getElem_range]
  have hbits : ∀ k < 8, (separateBits bytes)[j * 8 + k]?.getD 0 = bitOf bytes[j] k := by
    intro k hk
    have hi : j * 8 + k < 32 := by omega
    have hbyte : (j * 8 + k) / 8 = j := by omega
    have hbit : (j * 8 + k) % 8 = k := by omega
    rw [Vector.getElem?_eq_getElem hi, Option.getD_some, separateBits_getElem bytes hi, hbyte, hbit,
      List.getD_eq_getElem _ _ hj']
  rw [mergeByte_congr hbits, mergeByte_bitOf]

theorem separateBits_mergeBits {half : Half} (h : AllBits half) :
    separateBits (mergeBits half) = half := by
  apply Vector.ext
  intro i hi
  have hbyte : i / 8 < 4 := by omega
  have hsplit : i / 8 * 8 + i % 8 = i := by omega
  rw [separateBits_getElem _ hi, List.getD_eq_getElem _ _ (by simpa using hbyte)]
  simp only [mergeBits, List.getElem_map, List.getElem_range]
  rw [bitOf_mergeByte (fun k _ => h _) (Nat.mod_lt i (by decide)), hsplit,
    Vector.getElem?_eq_getElem hi, Option.getD_some]

theorem cipherBlock_length {key : Vector UInt8 768} {p2 : ℤ} {bytes out : List UInt8}
    (h : cipherBlock key p2 bytes = some out) : out.length = 8 := by
  obtain ⟨p1, -, rfl⟩ := Option.map_eq_some_iff.mp h
  simp

theorem cipherBlock_isSome {key : Vector UInt8 768} (hkey : AllBits key) (p2 : ℤ)
    (bytes : List UInt8) : (cipherBlock key p2 bytes).isSome := by
  obtain ⟨p1, hp1, -⟩ := initialDecodeSub_bits hkey (separateBits_bits (bytes.take 4))
    (separateBits_bits (bytes.drop 4)) p2
  simp [cipherBlock, hp1]

/-- A block that was encrypted is decrypted to itself. -/
theorem cipherBlock_inverse {key : Vector UInt8 768} (hkey : AllBits key) {bytes out : List UInt8}
    (hlen : bytes.length = 8) (h : cipherBlock key 1 bytes = some out) :
    cipherBlock key 0 out = some bytes := by
  obtain ⟨p1, hp1, rfl⟩ := Option.map_eq_some_iff.mp h
  obtain ⟨p1', hp1', hl, hr⟩ := initialDecodeSub_bits hkey (separateBits_bits (bytes.take 4))
    (separateBits_bits (bytes.drop 4)) 1
  obtain rfl : p1 = p1' := by simpa [hp1] using hp1'
  have htake : (mergeBits p1.1 ++ mergeBits p1.2).take 4 = mergeBits p1.1 :=
    List.take_left' (mergeBits_length _)
  have hdrop : (mergeBits p1.1 ++ mergeBits p1.2).drop 4 = mergeBits p1.2 :=
    List.drop_left' (mergeBits_length _)
  rw [cipherBlock, htake, hdrop, separateBits_mergeBits hl, separateBits_mergeBits hr,
    initialDecodeSub_inverse hp1, Option.map_some,
    mergeBits_separateBits (by simp [hlen]), mergeBits_separateBits (by simp [hlen]),
    List.take_append_drop]

/-- The blocks of `encode_layer1` are its input, filled up with zeros. -/
theorem encodeLayer1_spec {key : Vector UInt8 768} (hkey : AllBits key) (input : List UInt8) :
    ∃ body, encodeLayer1 key input = some body ∧ body.length = (input.length + 7) / 8 * 8 ∧
      (input ≠ [] → ∀ header : List UInt8, header.length = 20 →
        decodeLayer1 key (header ++ body) =
          some (input ++ List.replicate ((input.length + 7) / 8 * 8 - input.length) 0)) := by
  have hcount : (input.length + 7) / 8 * 8 / 8 = (input.length + 7) / 8 := by omega
  have hlen : (input ++ List.replicate ((input.length + 7) / 8 * 8 - input.length) 0).length =
      8 * ((input.length + 7) / 8) := by
    simp
    omega
  obtain ⟨body, hbody⟩ := Option.isSome_iff_exists.mp
    ((Feistel.mapBlocks_isSome_iff (fun b _ => cipherBlock_isSome hkey 1 b)
      ((input.length + 7) / 8) _).mpr hlen.ge)
  obtain ⟨hbodyLen, hback⟩ := Feistel.mapBlocks_inverse
    (fun b c hb hc => ⟨cipherBlock_length hc, cipherBlock_inverse hkey hb hc⟩) hlen hbody
  refine ⟨body, ?_, by omega, ?_⟩
  · simp only [encodeLayer1, hcount]
    exact hbody
  intro hne header hheader
  have hpos : 0 < input.length := List.length_pos_iff.mpr hne
  have hdrop : (header ++ body).drop 20 = body := by simp [← hheader]
  have hblocks : max 1 ((body.length + 7) / 8) = (input.length + 7) / 8 := by omega
  simp only [decodeLayer1, hdrop, hblocks]
  exact hback

/-- `decode_layer1` gets through exactly the bodies of one or more whole blocks. -/
theorem decodeLayer1_isSome_iff {key : Vector UInt8 768} (hkey : AllBits key)
    (input : List UInt8) : (decodeLayer1 key input).isSome ↔
      20 < input.length ∧ 8 ∣ input.length - 20 := by
  simp only [decodeLayer1]
  rw [Feistel.mapBlocks_isSome_iff (fun b _ => cipherBlock_isSome hkey 0 b), List.length_drop]
  omega

theorem volatileMask_volatileMask (volatileKey : UInt16) (byte : UInt8) :
    volatileMask volatileKey (volatileMask volatileKey byte) = byte := by
  rw [volatileMask, volatileMask, ← UInt8.xor_assoc, UInt8.xor_self, UInt8.zero_xor]

theorem decodeLayer2_encodeLayer2 (data : List UInt8) : decodeLayer2 (encodeLayer2 data) = data :=
  Feistel.decodeStream_encodeStream volatileMask_volatileMask _ _

@[simp] theorem encodeLayer2_length (data : List UInt8) :
    (encodeLayer2 data).length = data.length :=
  Feistel.encodeStream_length _ _ _ _

/-- The stream does not look ahead, so that cutting the padding off may come last. -/
theorem decodeLayer2_padded (data padding : List UInt8) :
    (decodeLayer2 (encodeLayer2 data ++ padding)).take data.length = data := by
  rw [decodeLayer2, Feistel.decodeStream_take, ← encodeLayer2_length data, List.take_left']
  · exact decodeLayer2_encodeLayer2 data
  · rfl

@[simp] theorem putRealLength_length (value : ℤ) : (putRealLength value).length = 4 := by
  simp [putRealLength]

theorem getRealLength_put {header : List UInt8} (hheader : header.length = 16) {value : ℤ}
    (h : InI32 value) (rest : List UInt8) :
    getRealLength (header ++ putRealLength value ++ rest) 16 = value := by
  have hbytes : ((header ++ putRealLength value ++ rest).drop 16).take 4 = putRealLength value := by
    rw [List.append_assoc, ← hheader, List.drop_left, ← putRealLength_length value, List.take_left]
  have hlt : (value % 2 ^ 32).toNat < 256 ^ 4 := by omega
  have hmod : (((value % 2 ^ 32).toNat : ℕ) : ℤ) = value % 2 ^ 32 := by omega
  rw [getRealLength, hbytes, putRealLength, List.reverse_reverse, Bytes.value_le_of_lt _ _ hlt, hmod]
  obtain ⟨hlow, hhigh⟩ := h
  rw [asI32_eq]
  omega

theorem detectEncryption_header {data : List UInt8} (hlen : 20 ≤ data.length)
    (h : data.take 16 = CHAOS_HEADER) : detectEncryption data = .chaosExpansion :=
  if_pos ⟨hlen, h⟩

/-- What the header and the length say of an encrypted file. -/
theorem decryptTbl_framed {realLen : ℕ} (hlen : realLen < 2 ^ 31) (body : List UInt8) :
    decryptTbl (CHAOS_HEADER ++ putRealLength realLen ++ body) =
      (decodeLayer1 KEY (CHAOS_HEADER ++ putRealLength realLen ++ body)).map fun layer1 =>
        ((decodeLayer2 layer1).take realLen, true) := by
  have hreal : getRealLength (CHAOS_HEADER ++ putRealLength realLen ++ body) 16 = realLen :=
    getRealLength_put (by rfl) ⟨by omega, by omega⟩ body
  have hdetect : detectEncryption (CHAOS_HEADER ++ putRealLength realLen ++ body) =
      .chaosExpansion := by
    apply detectEncryption_header
    · simp [CHAOS_HEADER]
    · rw [List.append_assoc]
      exact List.take_left' rfl
  have hu64 : asU64 (realLen : ℤ) = realLen := by
    unfold asU64
    omega
  simp only [decryptTbl, hdetect, hreal, hu64]
  apply Option.map_congr
  intro layer1 _
  by_cases hle : realLen ≤ (decodeLayer2 layer1).length
  · rw [if_pos hle]
  · rw [if_neg hle, List.take_of_length_le (by omega)]

/-- A file `encrypt_tbl` wrote holds its table, or no block at all. -/
theorem encryptTbl_spec {plaintext : List UInt8} (hlen : plaintext.length < 2 ^ 31) :
    ∃ file, encryptTbl plaintext = some file ∧
      (plaintext ≠ [] → decryptTbl file = some (plaintext, true)) ∧
      (plaintext = [] → decryptTbl file = none) := by
  obtain ⟨body, hbody, hbodyLen, hback⟩ := encodeLayer1_spec allBits_KEY (encodeLayer2 plaintext)
  have hi32 : asI32 (plaintext.length : ℤ) = plaintext.length :=
    asI32_of_range ⟨by omega, by omega⟩
  have hframe : (CHAOS_HEADER ++ putRealLength plaintext.length).length = 20 := by
    simp [CHAOS_HEADER]
  refine ⟨CHAOS_HEADER ++ putRealLength plaintext.length ++ body, ?_, ?_, ?_⟩
  · simp only [encryptTbl, hbody, Option.map_some, hi32]
  · intro hne
    have hne' : encodeLayer2 plaintext ≠ [] := by
      rwa [← List.length_pos_iff, encodeLayer2_length, List.length_pos_iff]
    rw [decryptTbl_framed hlen, hback hne' _ hframe, Option.map_some, decodeLayer2_padded]
  · rintro rfl
    obtain rfl : body = [] := by simpa using hbodyLen
    rw [decryptTbl_framed hlen, Option.map_eq_none_iff, ← Option.not_isSome_iff_eq_none,
      decodeLayer1_isSome_iff allBits_KEY]
    simp [CHAOS_HEADER]

/-- Whatever is encrypted is read back, but for the empty table, whose file has no block. -/
theorem encryptTbl_decryptTbl {plaintext : List UInt8} (hlen : plaintext.length < 2 ^ 31) :
    (encryptTbl plaintext).bind decryptTbl = some (plaintext, true) ↔ plaintext ≠ [] := by
  obtain ⟨file, hfile, hback, hpanic⟩ := encryptTbl_spec hlen
  rw [hfile, Option.bind_some]
  constructor
  · rintro h rfl
    simp [hpanic rfl] at h
  · exact hback

theorem one_byte_is_read_back : (encryptTbl [1]).bind decryptTbl = some ([1], true) :=
  (encryptTbl_decryptTbl (by decide)).mpr (by decide)

/-- No file makes the decoder panic but one that shows the header and whose body is empty or
not a whole number of blocks. -/
theorem decryptTbl_eq_none_iff (data : List UInt8) :
    decryptTbl data = none ↔
      20 ≤ data.length ∧ data.take 16 = CHAOS_HEADER ∧
        (data.length = 20 ∨ ¬ 8 ∣ data.length - 20) := by
  by_cases hchaos : 20 ≤ data.length ∧ data.take 16 = CHAOS_HEADER
  · have hlayer1 := decodeLayer1_isSome_iff allBits_KEY data
    have hdecrypt : decryptTbl data = none ↔ decodeLayer1 KEY data = none := by
      simp [decryptTbl, detectEncryption_header hchaos.1 hchaos.2]
    rw [hdecrypt, ← Option.not_isSome_iff_eq_none, hlayer1]
    obtain ⟨hlen, hheader⟩ := hchaos
    simp only [hlen, hheader, true_and]
    omega
  · have hsome : decryptTbl data ≠ none := by
      unfold decryptTbl detectEncryption
      rw [if_neg hchaos]
      split_ifs <;> simp
    constructor
    · intro h
      exact absurd h hsome
    · intro h
      exact absurd ⟨h.1, h.2.1⟩ hchaos

end KoServer.Tbl
