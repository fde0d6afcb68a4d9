import KoServer.Proofs.TblCipher
import KoServer.Proofs.TblTable
import KoServer.Spec.TblAppend
import KoServer.Lib.Sorting

/-! What `--append` leaves in the file it writes, as the next reader of it sees it: the rows
stand in the order of their ids, an id the table had keeps its rows in their order, and any
other id has the one row of its first entry. -/

namespace KoServer.Tbl

def entryRow (entry : Entry) : List CellValue := [.u32 entry.1, .str entry.2]

/-- The entries of a text file in their order. -/
def tsvEntries : List (List Char) → Except ErrorChain (List Entry)
  | [] => .ok []
  | line :: rest =>
    (lineEntry line).bind fun entry => (tsvEntries rest).map (entry.toList ++ ·)

def freshEntries (taken : List UInt32) : List Entry → List Entry
  | [] => []
  | entry :: entries =>
    if entry.1 ∈ taken then freshEntries taken entries
    else entry :: freshEntries (entry.1 :: taken) entries

theorem appendLines_eq (st : AppendState) (ls : List (List Char)) :
    appendLines st ls = (tsvEntries ls).map (List.foldl appendEntry st) := by
  induction ls generalizing st with
  | nil => rfl
  | cons line rest ih =>
    simp only [appendLines, tsvEntries]
    rcases lineEntry line with e | _ | entry
    · rfl
    · rw [ih]
      rcases tsvEntries rest with e | entries <;> rfl
    · change appendLines (appendEntry st entry) rest = _
      rw [ih]
      rcases tsvEntries rest with e | entries <;> rfl

theorem foldl_appendEntry_rows (st : AppendState) (entries : List Entry) :
    (entries.foldl appendEntry st).rows =
      st.rows ++ (freshEntries st.existingIds entries).map entryRow := by
  induction entries generalizing st with
  | nil => simp [freshEntries]
  | cons entry entries ih =>
    rw [List.foldl_cons, ih, freshEntries]
    by_cases htaken : entry.1 ∈ st.existingIds <;> simp [appendEntry, htaken, entryRow]

theorem freshEntries_filter (taken : List UInt32) (entries : List Entry) (id : UInt32) :
    (freshEntries taken entries).filter (·.1 = id) =
      if id ∈ taken then [] else (entries.find? (·.1 = id)).toList := by
  induction entries generalizing taken with
  | nil => simp [freshEntries]
  | cons entry entries ih =>
    rw [freshEntries]
    by_cases htaken : entry.1 ∈ taken
    · rw [if_pos htaken, ih]
      by_cases hid : id ∈ taken
      · simp [hid]
      · have hne : entry.1 ≠ id := fun h => hid (h ▸ htaken)
        simp [hid, hne]
    · rw [if_neg htaken, List.filter_cons, ih]
      by_cases hsame : entry.1 = id
      · subst hsame
        simp [htaken]
      · have hne : ¬ id = entry.1 := fun h => hsame h.symm
        simp [hsame, hne]

theorem rowId_entryRow (entry : Entry) : rowId (entryRow entry) = some entry.1 := rfl

def appendedTable (t : TblTable) (entries : List Entry) : TblTable :=
  { t with
    rows := sortRows
      (t.rows ++ (freshEntries (t.rows.filterMap rowId) entries).map entryRow) }

theorem rowId_reread (enc : Encodings) (row : List CellValue) :
    rowId (row.map (CellValue.reread enc)) = rowId row := by
  cases row with
  | nil => rfl
  | cons v row => cases v <;> rfl

theorem sortKey_reread (enc : Encodings) (row : List CellValue) :
    sortKey (row.map (CellValue.reread enc)) = sortKey row := by
  rw [sortKey, rowId_reread, sortKey]

theorem sortKey_trans (a b c : List CellValue) (hab : decide (sortKey a ≤ sortKey b) = true)
    (hbc : decide (sortKey b ≤ sortKey c) = true) : decide (sortKey a ≤ sortKey c) = true := by
  rw [decide_eq_true_eq] at *
  exact UInt32.le_trans hab hbc

theorem sortKey_total (a b : List CellValue) :
    (decide (sortKey a ≤ sortKey b) || decide (sortKey b ≤ sortKey a)) = true := by
  simpa using UInt32.le_total (sortKey a) (sortKey b)

theorem sortRows_sorted (rows : List (List CellValue)) :
    (sortRows rows).Pairwise fun a b => sortKey a ≤ sortKey b := by
  simpa [sortRows] using List.pairwise_mergeSort sortKey_trans sortKey_total rows

theorem sortRows_filter (rows : List (List CellValue)) (id : UInt32) :
    (sortRows rows).filter (rowId · = some id) = rows.filter (rowId · = some id) := by
  apply Sorting.filter_mergeSort sortKey_trans sortKey_total
  intro a b ha hb
  rw [decide_eq_true_eq] at *
  rw [sortKey, sortKey, ha, hb]
  exact UInt32.le_refl id

theorem appendedTable_filter (t : TblTable) (entries : List Entry) (id : UInt32) :
    (appendedTable t entries).rows.filter (rowId · = some id) =
      if some id ∈ t.rows.map rowId then t.rows.filter (rowId · = some id)
      else (entries.find? (·.1 = id)).toList.map entryRow := by
  have hfresh : ((freshEntries (t.rows.filterMap rowId) entries).map entryRow).filter
      (rowId · = some id) =
        ((freshEntries (t.rows.filterMap rowId) entries).filter (·.1 = id)).map entryRow := by
    simp [List.filter_map, Function.comp_def, rowId_entryRow]
  have htaken : id ∈ t.rows.filterMap rowId ↔ some id ∈ t.rows.map rowId := by simp
  rw [appendedTable, sortRows_filter, List.filter_append, hfresh, freshEntries_filter]
  simp only [htaken]
  split_ifs with hid
  · simp
  · have hnone : t.rows.filter (rowId · = some id) = [] := by
      rw [List.filter_eq_nil_iff]
      intro row hrow hrowId
      exact hid (List.mem_map.mpr ⟨row, hrow, by simpa using hrowId⟩)
    rw [hnone, List.nil_append]

theorem appendedTable_typed {t : TblTable} (ht : t.WellFormed)
    (hcols : t.columns = [.unsignedInt, .string]) (entries : List Entry) :
    ∀ row ∈ (appendedTable t entries).rows, row.map CellValue.columnType = t.columns := by
  intro row hrow
  have hmem : row ∈ t.rows ++ (freshEntries (t.rows.filterMap rowId) entries).map entryRow :=
    List.mem_mergeSort.mp hrow
  rcases List.mem_append.mp hmem with hold | hnew
  · exact ht.typed row hold
  · obtain ⟨entry, -, rfl⟩ := List.mem_map.mp hnew
    rw [hcols]
    rfl

theorem reread_file (enc : Encodings) {t : TblTable} (ht : t.WellFormed)
    (hsize : (serializeTbl enc t true).length < 2 ^ 31)
    (hfits : ∀ row ∈ t.rows, ∀ v ∈ row, v.Fits enc) :
    ∃ file, encryptTbl (serializeTbl enc t true) = some file ∧
      decryptTbl file = some (serializeTbl enc t true, true) ∧
      parseTbl enc (serializeTbl enc t true) true = .ok (t.reread enc) := by
  have hne : serializeTbl enc t true ≠ [] := by simp [serializeTbl, Bytes.le]
  obtain ⟨file, hfile, hback, -⟩ := encryptTbl_spec hsize
  have hread := (readsIf_table enc ht true
    (fun row hrow v hv => lt_of_le_of_lt (hfits row hrow v hv) (by decide))).reads hfits []
  rw [List.append_nil] at hread
  exact ⟨file, hfile, hback hne, parseTbl_eq_ok.mpr ⟨[], hread⟩⟩

/-- The run of `--append` on an encrypted table of ids and texts: the output file reads as a
table in the order of the ids, whose rows for an id are the old ones if there were any, and
else the first entry's. -/
theorem handleAppend_rereads (enc : Encodings) {rawData decrypted : List UInt8}
    {tsvContent : List Char} {t : TblTable} {entries : List Entry}
    (hdecrypt : decryptTbl rawData = some (decrypted, true))
    (hparse : parseTbl enc decrypted true = .ok t)
    (hcols : t.columns = [.unsignedInt, .string])
    (hentries : tsvEntries (lines tsvContent) = .ok entries)
    (hrows : (appendedTable t entries).rows.length ≤ 10000000)
    (hsize : (serializeTbl enc (appendedTable t entries) true).length < 2 ^ 31)
    (hfits : ∀ row ∈ (appendedTable t entries).rows, ∀ v ∈ row, v.Fits enc) :
    ∃ file rows, handleAppend enc rawData tsvContent = some ⟨some file, .ok ⟨t.columns, rows⟩⟩ ∧
      rows.Pairwise (fun a b => sortKey a ≤ sortKey b) ∧
      ∀ id, rows.filter (rowId · = some id) =
        (if some id ∈ t.rows.map rowId then t.rows.filter (rowId · = some id)
          else (entries.find? (·.1 = id)).toList.map entryRow).map
            (List.map (CellValue.reread enc)) := by
  have hwf := parseTbl_wellFormed hparse
  have hwritten : (appendedTable t entries).WellFormed :=
    ⟨hwf.columns_pos, hwf.columns_le, hrows, appendedTable_typed hwf hcols entries⟩
  obtain ⟨file, hencrypt, hback, hverify⟩ := reread_file enc hwritten hsize hfits
  refine ⟨file, ((appendedTable t entries).reread enc).rows, ?_, ?_, ?_⟩
  · have hlines := appendLines_eq ⟨t.rows, t.rows.filterMap rowId, 0, 0⟩ (lines tsvContent)
    rw [hentries] at hlines
    have htable : ({ t with rows := sortRows (entries.foldl appendEntry
        ⟨t.rows, t.rows.filterMap rowId, 0, 0⟩).rows } : TblTable) = appendedTable t entries := by
      rw [foldl_appendEntry_rows, appendedTable]
    simp only [handleAppend, hdecrypt, Option.bind_some, hparse, hlines, Except.map, htable,
      hencrypt, hback, Option.map_some, hverify]
    rfl
  · simp only [TblTable.reread, List.pairwise_map, sortKey_reread]
    exact sortRows_sorted _
  · intro id
    rw [← appendedTable_filter]
    simp [TblTable.reread, List.filter_map, Function.comp_def, rowId_reread]

theorem appendedTable_greeting : appendedTable greeting [(9, ['y', 'o'])] =
    ⟨greeting.columns, [[.u32 7, .str ['h', 'i']], [.u32 9, .str ['y', 'o']]]⟩ := by
  have hrows : greeting.rows ++ (freshEntries (greeting.rows.filterMap rowId)
      [(9, ['y', 'o'])]).map entryRow =
        [[.u32 7, .str ['h', 'i']], [.u32 9, .str ['y', 'o']]] := by decide
  rw [appendedTable, hrows, sortRows, List.mergeSort_of_pairwise (by decide)]

/-- A second row for `greeting`. -/
theorem greeting_grows : ∃ rawData file rows,
    handleAppend asciiEncodings rawData ['9', '\t', 'y', 'o'] =
      some ⟨some file, .ok ⟨greeting.columns, rows⟩⟩ ∧
    rows.filter (rowId · = some 9) = [[.u32 9, .str ['y', 'o']]] := by
  have hread := (readsIf_table asciiEncodings greeting_wellFormed true (by decide +kernel)).reads
    (by simp only [CellValue.Fits]; decide +kernel) []
  have hkept : greeting.reread asciiEncodings = greeting := by decide +kernel
  rw [List.append_nil, hkept] at hread
  obtain ⟨rawData, -, hback, -⟩ :=
    @encryptTbl_spec (serializeTbl asciiEncodings greeting true) (by decide +kernel)
  have hentries : tsvEntries (lines ['9', '\t', 'y', 'o']) = .ok [(9, ['y', 'o'])] := by
    rfl
  obtain ⟨file, rows, hrun, -, hfilter⟩ := handleAppend_rereads asciiEncodings
    (hback (by decide +kernel)) (parseTbl_eq_ok.mpr ⟨[], hread⟩) rfl hentries
    (by rw [appendedTable_greeting]; decide) (by rw [appendedTable_greeting]; decide +kernel)
    (by rw [appendedTable_greeting]; simp only [CellValue.Fits]; decide +kernel)
  refine ⟨rawData, file, rows, hrun, ?_⟩
  rw [hfilter 9]
  decide +kernel

end KoServer.Tbl
