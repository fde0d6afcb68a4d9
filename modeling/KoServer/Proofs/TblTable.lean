import KoServer.Spec.TblTable

/-! The importer's tables: what `parse_tbl` makes of what `serialize_tbl` wrote, and what any
table it accepts looks like. Numbers are kept whatever they are; a text is kept exactly when
its Korean bytes are few enough and decode to it again, which they need not do, because
`parse_tbl` tries two other encodings first. -/

namespace KoServer.Tbl

open Wire

theorem reads_number (name : String) (width n : ℕ) :
    Reads (readNumber name width) (Bytes.le width n) (n % 256 ^ width) := by
  have hread := (reads_readExact (e := [FILL]) (Bytes.le width n)).map Bytes.value
  rw [Bytes.le_length, Bytes.value_le] at hread
  exact hread.onError _

theorem accepts_number (name : String) (width : ℕ) :
    Accepts .any (readNumber name width) fun n bytes =>
      bytes = Bytes.le width n ∧ n < 256 ^ width := by
  refine (((accepts_readExact [FILL] width).map Bytes.value).onError _).mono ?_
  rintro n bytes ⟨_, rfl, rfl, rfl⟩
  exact ⟨(Bytes.le_value _).symm, Bytes.value_lt _⟩

def CellValue.columnType : CellValue → ColumnType
  | .i8 _ => .signedByte
  | .u8 _ => .unsignedByte
  | .i16 _ => .signedShort
  | .u16 _ => .unsignedShort
  | .i32 _ => .signedInt
  | .u32 _ => .unsignedInt
  | .str _ => .string
  | .f32 _ => .float
  | .f64 _ => .double
  | .i64 _ => .signedLong
  | .u64 _ => .unsignedLong

/-- The bytes a cell's text takes in a file. -/
def CellValue.textBytes (enc : Encodings) : CellValue → List UInt8
  | .str s => enc.eucKrEncode s
  | _ => []

/-- The cell as it is read back. -/
def CellValue.reread (enc : Encodings) : CellValue → CellValue
  | .str s => .str (decodeText enc (enc.eucKrEncode s))
  | v => v

def CellValue.Fits (enc : Encodings) (v : CellValue) : Prop := (v.textBytes enc).length ≤ 65536

theorem decodeText_nil (enc : Encodings) : decodeText enc [] = [] := by
  have : strFromUtf8 [] = some [] := by decide +kernel
  simp [decodeText, this]

theorem reads_i32 {n : ℕ} (hn : n < 2 ^ 31) :
    ∃ v : Int32, v.toInt = n ∧ Reads readI32 (Bytes.le 4 n) v := by
  refine ⟨_, ?_, (reads_number "i32" 4 n).map _⟩
  have hmod : n % 256 ^ 4 = n := by omega
  have hbmod : (n : ℤ).bmod (2 ^ 32) = n := by
    rw [Int.bmod_def]
    split <;> omega
  rw [hmod, UInt32.toInt32_ofNat', Int32.toInt_ofNat']
  exact hbmod

/-- A text is read as the two sides of the length check say. -/
theorem readsIf_str (enc : Encodings) (r c : ℕ) {s : List Char}
    (hlen : (enc.eucKrEncode s).length < 2 ^ 31) :
    ReadsIf (readStr enc r c) (writeCell enc (.str s)) ((enc.eucKrEncode s).length ≤ 65536)
      (decodeText enc (enc.eucKrEncode s)) := by
  obtain ⟨v, hv, hread⟩ := reads_i32 hlen
  refine (hread.onError _).bind_readsIf ?_
  rw [hv]
  by_cases hempty : ((enc.eucKrEncode s).length : ℤ) ≤ 0
  · have hnil : enc.eucKrEncode s = [] := List.length_eq_zero_iff.mp (by omega)
    rw [if_pos hempty, hnil, decodeText_nil]
    exact (reads_pure []).readsIf (by simp)
  rw [if_neg hempty]
  by_cases hlong : (65536 : ℤ) < (enc.eucKrEncode s).length
  · rw [if_pos hlong]
    exact ⟨fun h => absurd h (by omega), fun _ => refuses_fail _ _⟩
  · rw [if_neg hlong, Int.toNat_natCast]
    exact (((reads_readExact _).onError _).map _).readsIf (by omega)

theorem reads_cell {α : Type} {mk : α → CellValue} {ofBytes : ℕ → α} {width n : ℕ} {v : α}
    (hlt : n < 256 ^ width) (hv : ofBytes n = v) (r c : ℕ) (what name : String) :
    Reads (mk <$> inCell r c what (ofBytes <$> readNumber name width)) (Bytes.le width n)
      (mk v) := by
  have hread := reads_number name width n
  rw [Nat.mod_eq_of_lt hlt] at hread
  rw [← hv]
  exact ((hread.map ofBytes).onError _).map mk

theorem readsIf_cell (enc : Encodings) (r c : ℕ) {v : CellValue}
    (hlen : (v.textBytes enc).length < 2 ^ 31) :
    ReadsIf (readCell enc r c v.columnType) (writeCell enc v) (v.Fits enc) (v.reread enc) := by
  have hfits : (0 : ℕ) ≤ 65536 := Nat.zero_le _
  cases v with
  | str s => exact (readsIf_str enc r c hlen).map CellValue.str
  | i8 v => exact (reads_cell v.toUInt8.toNat_lt (by simp) r c _ _).readsIf hfits
  | u8 v => exact (reads_cell v.toNat_lt (by simp) r c _ _).readsIf hfits
  | i16 v => exact (reads_cell v.toUInt16.toNat_lt (by simp) r c _ _).readsIf hfits
  | u16 v => exact (reads_cell v.toNat_lt (by simp) r c _ _).readsIf hfits
  | i32 v => exact (reads_cell v.toUInt32.toNat_lt (by simp) r c _ _).readsIf hfits
  | u32 v => exact (reads_cell v.toNat_lt (by simp) r c _ _).readsIf hfits
  | f32 v => exact (reads_cell v.toNat_lt (by simp) r c _ _).readsIf hfits
  | f64 v => exact (reads_cell v.toNat_lt (by simp) r c _ _).readsIf hfits
  | i64 v => exact (reads_cell v.toUInt64.toNat_lt (by simp) r c _ _).readsIf hfits
  | u64 v => exact (reads_cell v.toNat_lt (by simp) r c _ _).readsIf hfits

/-- What a table must be for its rows to be written under its columns. -/
structure TblTable.WellFormed (t : TblTable) : Prop where
  columns_pos : 0 < t.columns.length
  columns_le : t.columns.length ≤ 1000
  rows_le : t.rows.length ≤ 10000000
  typed : ∀ row ∈ t.rows, row.map CellValue.columnType = t.columns

def TblTable.reread (enc : Encodings) (t : TblTable) : TblTable :=
  { t with rows := t.rows.map (List.map (CellValue.reread enc)) }

theorem fromI32_typeId (col : ColumnType) : ColumnType.fromI32 col.typeId = .ok col := by
  cases col <;> rfl

theorem reads_column (i : ℕ) (col : ColumnType) :
    Reads (readColumn i) (Bytes.le 4 col.typeId) col := by
  have hlt : col.typeId < 2 ^ 31 := by cases col <;> decide
  obtain ⟨v, hv, hread⟩ := reads_i32 hlt
  have hcol : Reads (ofExcept ((ColumnType.fromI32 v.toInt).mapError (s!"column {i}" :: ·)) :
      Reader ErrorChain ColumnType) [] col := by
    rw [hv, fromI32_typeId]
    exact reads_ofExcept col
  rw [← List.append_nil (Bytes.le 4 col.typeId)]
  exact hread.bind hcol

theorem readsIf_row (enc : Encodings) (r : ℕ) {row : List CellValue}
    (hlen : ∀ v ∈ row, (v.textBytes enc).length < 2 ^ 31) :
    ReadsIf (readRow enc (row.map CellValue.columnType) r) (row.flatMap (writeCell enc))
      (∀ v ∈ row, v.Fits enc) (row.map (CellValue.reread enc)) := by
  apply readsIf_mapM
  refine List.forall₂_iff_get.mpr ⟨by simp, fun c hc hc' => ?_⟩
  simpa using readsIf_cell enc r c (hlen row[c] (List.getElem_mem hc'))

theorem reads_skipHeader (newStructure : Bool) :
    Reads (skipHeader newStructure) (if newStructure then Bytes.le 4 1 ++ [0] else []) () := by
  cases newStructure with
  | false => exact reads_pure ()
  | true =>
    obtain ⟨v, -, hread⟩ := reads_i32 (n := 1) (by decide)
    exact hread.bind ((reads_readExact [0]).bind (reads_pure ()))

theorem reads_count {n : ℕ} (hn : n < 2 ^ 31) :
    ∃ v : Int32, asU64 v.toInt = n ∧ Reads readI32 (Bytes.le 4 n) v := by
  obtain ⟨v, hv, hread⟩ := reads_i32 hn
  refine ⟨v, ?_, hread⟩
  rw [hv]
  unfold asU64
  omega

/-- `parse_tbl` on what `serialize_tbl` wrote: a text over 65536 bytes makes it fail, and
nothing else does. -/
theorem readsIf_table (enc : Encodings) {t : TblTable} (ht : t.WellFormed) (newStructure : Bool)
    (hlen : ∀ row ∈ t.rows, ∀ v ∈ row, (v.textBytes enc).length < 2 ^ 31) :
    ReadsIf (readTable enc newStructure) (serializeTbl enc t newStructure)
      (∀ row ∈ t.rows, ∀ v ∈ row, v.Fits enc) (t.reread enc) := by
  obtain ⟨hpos, hcols, hrows, htyped⟩ := ht
  obtain ⟨colCount, hcolCount, hreadCols⟩ := reads_count (n := t.columns.length) (by omega)
  obtain ⟨rowCount, hrowCount, hreadRows⟩ := reads_count (n := t.rows.length) (by omega)
  refine (reads_skipHeader newStructure).bind_readsIf (hreadCols.bind_readsIf ?_)
  rw [hcolCount]
  refine (reads_ensure ⟨hpos, hcols⟩ _).nil_bind_readsIf ?_
  have hcolumns : Reads ((List.range t.columns.length).mapM readColumn)
      (t.columns.flatMap fun col => Bytes.le 4 col.typeId) t.columns :=
    reads_mapM reads_column List.length_range
  refine hcolumns.bind_readsIf (hreadRows.bind_readsIf ?_)
  rw [hrowCount]
  refine Reads.nil_bind_readsIf (reads_ensure hrows _) ?_
  have hbody : ReadsIf ((List.range t.rows.length).mapM (readRow enc t.columns))
      (t.rows.flatMap fun row => row.flatMap (writeCell enc))
      (∀ row ∈ t.rows, ∀ v ∈ row, v.Fits enc) (t.rows.map (List.map (CellValue.reread enc))) := by
    apply readsIf_mapM
    refine List.forall₂_iff_get.mpr ⟨by simp, fun r hr hr' => ?_⟩
    have hmem : t.rows[r] ∈ t.rows := List.getElem_mem hr'
    have hrow := readsIf_row enc r (hlen _ hmem)
    rw [htyped _ hmem] at hrow
    simpa using hrow
  exact hbody.map (TblTable.mk t.columns)

/-- A cell that comes out of the file as it went in. -/
def CellValue.Kept (enc : Encodings) (v : CellValue) : Prop := v.Fits enc ∧ v.reread enc = v

theorem map_eq_self_iff {α : Type} {f : α → α} {l : List α} :
    l.map f = l ↔ ∀ a ∈ l, f a = a := by
  induction l with
  | nil => simp
  | cons a l ih => simp [ih]

theorem reread_eq_self_iff (enc : Encodings) (t : TblTable) :
    t.reread enc = t ↔ ∀ row ∈ t.rows, ∀ v ∈ row, v.reread enc = v := by
  cases t
  simp [TblTable.reread, map_eq_self_iff]

theorem parseTbl_eq_ok {enc : Encodings} {data : List UInt8} {newStructure : Bool} {t : TblTable} :
    parseTbl enc data newStructure = .ok t ↔
      ∃ rest, readTable enc newStructure data = .ok (t, rest) := by
  unfold parseTbl
  rcases readTable enc newStructure data with e | ⟨t', rest⟩ <;> simp [Except.map]

/-- A table comes back from its bytes, whatever stands behind them, exactly when each of its
texts does. -/
theorem parseTbl_serializeTbl (enc : Encodings) {t : TblTable} (ht : t.WellFormed)
    (hlen : ∀ row ∈ t.rows, ∀ v ∈ row, (v.textBytes enc).length < 2 ^ 31) (newStructure : Bool)
    (junk : List UInt8) :
    parseTbl enc (serializeTbl enc t newStructure ++ junk) newStructure = .ok t ↔
      ∀ row ∈ t.rows, ∀ v ∈ row, v.Kept enc := by
  have hread := readsIf_table enc ht newStructure hlen
  rw [parseTbl_eq_ok]
  by_cases hfits : ∀ row ∈ t.rows, ∀ v ∈ row, v.Fits enc
  · rw [hread.reads hfits junk]
    constructor
    · rintro ⟨rest, h⟩
      obtain ⟨hsame, -⟩ : t.reread enc = t ∧ junk = rest := by simpa using h
      intro row hrow v hv
      exact ⟨hfits row hrow v hv, (reread_eq_self_iff enc t).mp hsame row hrow v hv⟩
    · intro h
      have hsame := (reread_eq_self_iff enc t).mpr fun row hrow v hv => (h row hrow v hv).2
      exact ⟨junk, by rw [hsame]⟩
  · obtain ⟨e, he⟩ := hread.refuses hfits junk
    constructor
    · rintro ⟨rest, h⟩
      simp [he] at h
    · intro h
      exact absurd (fun row hrow v hv => (h row hrow v hv).1) hfits

def asciiEncodings : Encodings where
  windows1254Decode buf := (buf.map win1254ToUnicode, false)
  eucKrDecode buf := buf.map fun b => Char.ofNat b.toNat
  eucKrEncode s := asBytes s

/-- One row with an id and a text. -/
def greeting : TblTable := ⟨[.unsignedInt, .string], [[.u32 7, .str ['h', 'i']]]⟩

theorem greeting_wellFormed : greeting.WellFormed :=
  ⟨by decide, by decide, by decide, by decide⟩

theorem greeting_is_kept :
    parseTbl asciiEncodings (serializeTbl asciiEncodings greeting true ++ [0]) true =
      .ok greeting :=
  (parseTbl_serializeTbl asciiEncodings greeting_wellFormed (by decide +kernel) true [0]).mpr (by
    simp only [CellValue.Kept, CellValue.Fits]
    decide +kernel)

/-- The bytes a cell was read from: a count that is not positive stands for the empty text. -/
def CellBytes (enc : Encodings) (v : CellValue) (bytes : List UInt8) : Prop :=
  match v with
  | .str s => ∃ count buf, bytes = Bytes.le 4 count ++ buf ∧
      ((buf = [] ∧ s = []) ∨ (buf.length = count ∧ count ≤ 65536 ∧ s = decodeText enc buf))
  | v => bytes = writeCell enc v

theorem accepts_i32 : Accepts .any readI32 fun v bytes =>
    ∃ n : ℕ, n < 256 ^ 4 ∧ bytes = Bytes.le 4 n ∧ v.toInt = (n : ℤ).bmod (2 ^ 32) := by
  refine ((accepts_number "i32" 4).map _).mono ?_
  rintro v bytes ⟨n, rfl, rfl, hn⟩
  exact ⟨n, hn, rfl, by rw [UInt32.toInt32_ofNat', Int32.toInt_ofNat']; rfl⟩

theorem accepts_cell_number {α : Type} (mk : α → CellValue) (ofBytes : ℕ → α) (width : ℕ)
    (r c : ℕ) (what name : String) :
    Accepts .any (mk <$> inCell r c what (ofBytes <$> readNumber name width)) fun v bytes =>
      ∃ n, n < 256 ^ width ∧ v = mk (ofBytes n) ∧ bytes = Bytes.le width n := by
  refine ((((accepts_number name width).map ofBytes).onError _).map mk).mono ?_
  rintro v bytes ⟨_, rfl, n, rfl, rfl, hn⟩
  exact ⟨n, hn, rfl, rfl⟩

theorem accepts_str (enc : Encodings) (r c : ℕ) :
    Accepts .any (readStr enc r c) fun s bytes => CellBytes enc (.str s) bytes := by
  refine (accepts_i32.onError _ |>.bind (T := fun v s bytes =>
    (v.toInt ≤ 0 ∧ s = [] ∧ bytes = []) ∨ (0 < v.toInt ∧ v.toInt ≤ 65536 ∧
      bytes.length = v.toInt.toNat ∧ s = decodeText enc bytes)) fun v => ?_).mono ?_
  · split_ifs with hempty hlong
    · exact (accepts_pure []).mono fun s bytes h => Or.inl ⟨hempty, h⟩
    · exact accepts_fail _ _
    · refine (((accepts_readExact [FILL] _).onError _).map _).mono ?_
      rintro s bytes ⟨_, rfl, rfl, hlen⟩
      exact Or.inr ⟨by omega, by omega, hlen, rfl⟩
  · rintro s bytes ⟨v, b₁, b₂, rfl, ⟨n, hn, rfl, hv⟩, h⟩
    refine ⟨n, b₂, rfl, ?_⟩
    rcases h with ⟨-, rfl, rfl⟩ | ⟨hpos, hle, hlen, rfl⟩
    · exact Or.inl ⟨rfl, rfl⟩
    · rw [Int.bmod_def] at hv
      have hcount : v.toInt = n := by split at hv <;> omega
      exact Or.inr ⟨by omega, by omega, rfl⟩

theorem accepts_cell (enc : Encodings) (r c : ℕ) (col : ColumnType) :
    Accepts .any (readCell enc r c col) fun v bytes => v.columnType = col ∧ CellBytes enc v bytes := by
  cases col with
  | string =>
    refine ((accepts_str enc r c).map CellValue.str).mono ?_
    rintro v bytes ⟨s, rfl, h⟩
    exact ⟨rfl, h⟩
  | _ =>
    refine (accepts_cell_number _ _ _ r c _ _).mono ?_
    rintro v bytes ⟨n, hn, rfl, rfl⟩
    refine ⟨rfl, ?_⟩
    simp only [Nat.reducePow] at hn
    simp [CellBytes, writeCell, Nat.mod_eq_of_lt hn]

theorem accepts_column (i : ℕ) :
    Accepts .any (readColumn i) fun col bytes => bytes = Bytes.le 4 col.typeId := by
  have hcol : ∀ {v : ℤ} {col : ColumnType}, ColumnType.fromI32 v = .ok col → v = col.typeId := by
    intro v col h
    unfold ColumnType.fromI32 at h
    split at h
    all_goals first
      | (obtain rfl := Except.ok.inj h; rfl)
      | simp at h
  refine (accepts_i32.bind fun v => accepts_ofExcept _).mono ?_
  rintro col bytes ⟨v, b₁, b₂, rfl, ⟨n, hn, rfl, hv⟩, hok, rfl⟩
  have htype : v.toInt = col.typeId := by
    cases hfrom : ColumnType.fromI32 v.toInt with
    | error e => simp [hfrom, Except.mapError] at hok
    | ok col' =>
      obtain rfl : col' = col := by simpa [hfrom, Except.mapError] using hok
      exact hcol hfrom
  have hsmall : col.typeId < 2 ^ 31 := by cases col <;> decide
  rw [hv, Int.bmod_def] at htype
  have hn' : n = col.typeId := by split at htype <;> omega
  rw [List.append_nil, hn']

theorem cellBytes_eq {enc : Encodings} {v : CellValue} {bytes : List UInt8}
    (htext : v.columnType ≠ .string) (h : CellBytes enc v bytes) : bytes = writeCell enc v := by
  cases v with
  | str s => exact absurd rfl htext
  | _ => exact h

theorem accepts_row (enc : Encodings) (columns : List ColumnType) (r : ℕ) :
    Accepts .any (readRow enc columns r) fun row bytes => row.map CellValue.columnType = columns ∧
      (.string ∉ columns → bytes = row.flatMap (writeCell enc)) := by
  refine (accepts_mapM (fun p => accepts_cell enc r p.2 p.1) columns.zipIdx).mono ?_
  rintro row bytes ⟨pieces, rfl, rfl, hpieces⟩
  obtain ⟨hlen, hget⟩ := List.forall₂_iff_get.mp hpieces
  have htyped : (pieces.map Prod.fst).map CellValue.columnType = columns := by
    apply List.ext_getElem
    · simpa using hlen.symm
    · intro i hi hi'
      simpa using (hget i (by simpa using hi') (by simpa using hi)).1
  refine ⟨htyped, fun htext => ?_⟩
  rw [List.flatMap_map]
  apply List.flatMap_congr
  intro piece hpiece
  obtain ⟨i, hi, rfl⟩ := List.getElem_of_mem hpiece
  refine cellBytes_eq (fun hstr => htext ?_) (hget i (by omega) hi).2
  rw [← htyped, ← hstr]
  exact List.mem_map_of_mem (List.mem_map_of_mem hpiece)

theorem accepts_skipHeader (newStructure : Bool) :
    Accepts .any (skipHeader newStructure) fun _ bytes =>
      bytes.length = if newStructure then 5 else 0 := by
  cases newStructure with
  | false => exact (accepts_pure ()).mono fun _ _ h => by simp [h.2]
  | true =>
    refine (accepts_i32.bind fun _ => (accepts_readExact [FILL] 1).bind fun _ =>
      accepts_pure ()).mono ?_
    rintro _ bytes ⟨_, b₁, b₂, rfl, ⟨n, _, rfl, _⟩, _, b₃, b₄, rfl, ⟨_, hlen⟩, _, rfl⟩
    simp [hlen]

/-- A count within its limit is written as it was read. -/
theorem accepts_count (limit : ℕ) (hlimit : limit ≤ 2 ^ 31) {α : Type}
    {k : ℕ → Reader ErrorChain α} {S : ℕ → α → List UInt8 → Prop} (hk : ∀ n, Accepts .any (k n) (S n))
    (hle : ∀ n a bytes, S n a bytes → n < limit) :
    Accepts .any (readI32 >>= fun v => k (asU64 v.toInt)) fun a bytes =>
      ∃ n b₂, bytes = Bytes.le 4 n ++ b₂ ∧ S n a b₂ := by
  refine (accepts_i32.bind fun v => hk (asU64 v.toInt)).mono ?_
  rintro a bytes ⟨v, b₁, b₂, rfl, ⟨n, hn, rfl, hv⟩, hS⟩
  have hlt := hle _ _ _ hS
  have hsame : asU64 v.toInt = n := by
    rw [hv, Int.bmod_def, asU64] at hlt ⊢
    split at hlt <;> split <;> omega
  exact ⟨n, b₂, rfl, hsame ▸ hS⟩

theorem accepts_rows (enc : Encodings) (columns : List ColumnType) (rowCount : ℕ) :
    Accepts .any ((List.range rowCount).mapM (readRow enc columns)) fun rows bytes =>
      rows.length = rowCount ∧ (∀ row ∈ rows, row.map CellValue.columnType = columns) ∧
        (.string ∉ columns → bytes = rows.flatMap fun row => row.flatMap (writeCell enc)) := by
  refine (accepts_mapM (accepts_row enc columns) (List.range rowCount)).mono ?_
  rintro rows bytes ⟨pieces, rfl, rfl, hpieces⟩
  obtain ⟨hlen, hget⟩ := List.forall₂_iff_get.mp hpieces
  have hpiece : ∀ piece ∈ pieces, piece.1.map CellValue.columnType = columns ∧
      (.string ∉ columns → piece.2 = piece.1.flatMap (writeCell enc)) := by
    intro piece hmem
    obtain ⟨i, hi, rfl⟩ := List.getElem_of_mem hmem
    exact hget i (by omega) hi
  refine ⟨by simpa using hlen.symm, ?_, fun htext => ?_⟩
  · intro row hrow
    obtain ⟨piece, hmem, rfl⟩ := List.mem_map.mp hrow
    exact (hpiece piece hmem).1
  · rw [List.flatMap_map]
    exact List.flatMap_congr fun piece hmem => (hpiece piece hmem).2 htext

theorem accepts_columns (columnCount : ℕ) :
    Accepts .any ((List.range columnCount).mapM readColumn) fun columns bytes =>
      columns.length = columnCount ∧
        bytes = columns.flatMap fun col => Bytes.le 4 col.typeId := by
  refine (accepts_mapM accepts_column (List.range columnCount)).mono ?_
  rintro columns bytes ⟨pieces, rfl, rfl, hpieces⟩
  obtain ⟨hlen, hget⟩ := List.forall₂_iff_get.mp hpieces
  refine ⟨by simpa using hlen.symm, ?_⟩
  rw [List.flatMap_map]
  apply List.flatMap_congr
  intro piece hmem
  obtain ⟨i, hi, rfl⟩ := List.getElem_of_mem hmem
  exact hget i (by omega) hi

/-- Every accepted table is one `serialize_tbl` can write, and without texts its bytes, but
for the five of the header, are the ones `serialize_tbl` writes for it. -/
theorem accepts_table (enc : Encodings) (newStructure : Bool) :
    Accepts .any (readTable enc newStructure) fun t bytes => t.WellFormed ∧
      (.string ∉ t.columns → ∃ header : List UInt8,
        header.length = (if newStructure then 5 else 0) ∧
          bytes = header ++ serializeTbl enc t false) := by
  have hrows := fun columns : List ColumnType =>
    accepts_count 10000001 (by decide)
      (fun rowCount => (accepts_ensure (rowCount ≤ 10000000)
        [s!"Suspicious row count: {rowCount} (likely corrupt)"]).bind fun _ =>
          (accepts_rows enc columns rowCount).bind fun rows => accepts_pure (TblTable.mk columns rows))
      (by rintro n t bytes ⟨_, b₁, b₂, -, ⟨hle, -⟩, -⟩; omega)
  have hcolumns := accepts_count 1001 (by decide)
    (fun columnCount => (accepts_ensure (0 < columnCount ∧ columnCount ≤ 1000)
      [s!"Invalid column count: {columnCount} (likely wrong encryption or corrupt file)"]).bind
        fun _ => (accepts_columns columnCount).bind fun columns => hrows columns)
    (by rintro n t bytes ⟨_, b₁, b₂, -, ⟨hle, -⟩, -⟩; omega)
  refine ((accepts_skipHeader newStructure).bind fun _ => hcolumns).mono ?_
  rintro t bytes ⟨_, header, b₁, rfl, hheader, colCount, b₂, rfl, _, b₃, b₄, rfl, ⟨hcol, rfl⟩,
    columns, b₅, b₆, rfl, ⟨hcolLen, rfl⟩, rowCount, b₇, rfl, _, b₈, b₉, rfl, ⟨hrow, rfl⟩,
    rows, b₁₀, b₁₁, rfl, ⟨hrowLen, htyped, hbytes⟩, rfl, rfl⟩
  subst hcolLen hrowLen
  refine ⟨⟨hcol.1, hcol.2, hrow, htyped⟩, fun htext => ⟨header, hheader, ?_⟩⟩
  simp [serializeTbl, hbytes htext]

theorem parseTbl_wellFormed {enc : Encodings} {data : List UInt8} {newStructure : Bool}
    {t : TblTable} (h : parseTbl enc data newStructure = .ok t) : t.WellFormed := by
  obtain ⟨rest, hread⟩ := parseTbl_eq_ok.mp h
  obtain ⟨_, -, hwf, -⟩ := accepts_table enc newStructure data t rest hread trivial
  exact hwf

/-- No accepted file holds anything `serialize_tbl` could not have written: the limits hold,
every row is typed by the columns, and a table without texts gives its own bytes back. -/
theorem parseTbl_accepts {enc : Encodings} {data : List UInt8} {newStructure : Bool} {t : TblTable}
    (h : parseTbl enc data newStructure = .ok t) :
    t.WellFormed ∧ (.string ∉ t.columns → ∃ header rest : List UInt8,
      header.length = (if newStructure then 5 else 0) ∧
        data = header ++ serializeTbl enc t false ++ rest) := by
  obtain ⟨rest, hread⟩ := parseTbl_eq_ok.mp h
  obtain ⟨bytes, rfl, hwf, hbytes⟩ := accepts_table enc newStructure data t rest hread trivial
  refine ⟨hwf, fun htext => ?_⟩
  obtain ⟨header, hheader, rfl⟩ := hbytes htext
  exact ⟨header, rest, hheader, rfl⟩

/-- One unsigned byte in one row, and a byte behind the table. -/
theorem one_byte_table_accepted :
    ∃ header rest : List UInt8, header.length = 0 ∧
      [1, 0, 0, 0, 2, 0, 0, 0, 1, 0, 0, 0, 42, 9] =
        header ++ serializeTbl asciiEncodings ⟨[.unsignedByte], [[.u8 42]]⟩ false ++ rest := by
  have hparse : parseTbl asciiEncodings [1, 0, 0, 0, 2, 0, 0, 0, 1, 0, 0, 0, 42, 9] false =
      .ok ⟨[.unsignedByte], [[.u8 42]]⟩ := by rfl
  exact (parseTbl_accepts hparse).2 (by decide)

end KoServer.Tbl
