import KoServer.Spec.TblCipher
import KoServer.Spec.TblTable

/-! `ko-tbl-import --append`, from `handle_append` in `ko-tbl-import/src/main.rs`: entries of a
text file are put into a `.tbl` file. A panic is `none`; the log lines are left out. -/

namespace KoServer.Tbl

/-- `char::is_whitespace`. -/
def isWhitespace (c : Char) : Bool :=
  let n := c.toNat
  (0x09 ≤ n && n ≤ 0x0D) || n = 0x20 || n = 0x85 || n = 0xA0 || n = 0x1680 ||
    (0x2000 ≤ n && n ≤ 0x200A) || n = 0x2028 || n = 0x2029 || n = 0x202F || n = 0x205F || n = 0x3000

def trim (s : List Char) : List Char :=
  ((s.dropWhile isWhitespace).reverse.dropWhile isWhitespace).reverse

def stripCr (line : List Char) : List Char :=
  if line.getLast? = some '\r' then line.dropLast else line

/-- `str::lines` with the characters of the current line so far. -/
def linesFrom (line : List Char) : List Char → List (List Char)
  | [] => if line = [] then [] else [line]
  | c :: cs => if c = '\n' then stripCr line :: linesFrom [] cs else linesFrom (line ++ [c]) cs

def lines (s : List Char) : List (List Char) := linesFrom [] s

def INVALID_DIGIT : String := "invalid digit found in string"

def parseDigits : List Char → ℕ → Except String UInt32
  | [], n => .ok (UInt32.ofNat n)
  | c :: cs, n =>
    if ¬ c.isDigit then .error INVALID_DIGIT else
    let n := n * 10 + (c.toNat - '0'.toNat)
    if n < 2 ^ 32 then parseDigits cs n
    else .error "number too large to fit in target type"

/-- `str::parse::<u32>`. -/
def parseU32 : List Char → Except String UInt32
  | [] => .error "cannot parse integer from empty string"
  | ['+'] => .error INVALID_DIGIT
  | '+' :: digits => parseDigits digits 0
  | digits => parseDigits digits 0

abbrev Entry := UInt32 × List Char

/-- One line of the text file; `none` is a line that is passed by. -/
def lineEntry (line : List Char) : Except ErrorChain (Option Entry) :=
  let line := trim line
  if line = [] ∨ line.head? = some '#' then .ok none else
  let first := line.takeWhile (· ≠ '\t')
  match line.dropWhile (· ≠ '\t') with
  | [] => .ok none
  | _ :: text =>
    match parseU32 (trim first) with
    | .error e =>
      let shown := String.ofList first
      .error [s!"Invalid ID '{shown}': {e}"]
    | .ok id => .ok (some (id, trim text))

def rowId (row : List CellValue) : Option UInt32 :=
  match row.head? with
  | some (.u32 id) => some id
  | _ => none

structure AppendState where
  rows : List (List CellValue)
  existingIds : List UInt32
  added : ℕ
  skipped : ℕ

def appendEntry (st : AppendState) (entry : Entry) : AppendState :=
  if entry.1 ∈ st.existingIds then { st with skipped := st.skipped + 1 } else
  { rows := st.rows ++ [[.u32 entry.1, .str entry.2]]
    existingIds := entry.1 :: st.existingIds
    added := st.added + 1
    skipped := st.skipped }

/-- The loop over the lines; the first bad id ends the run. -/
def appendLines : AppendState → List (List Char) → Except ErrorChain AppendState
  | st, [] => .ok st
  | st, line :: rest =>
    match lineEntry line with
    | .error e => .error e
    | .ok none => appendLines st rest
    | .ok (some entry) => appendLines (appendEntry st entry) rest

def sortKey (row : List CellValue) : UInt32 := (rowId row).getD 0

/-- `sort_by_key`, which is stable. -/
def sortRows (rows : List (List CellValue)) : List (List CellValue) :=
  rows.mergeSort fun a b => sortKey a ≤ sortKey b

/-- What is written to the output file, and what reading it again gives. -/
structure AppendRun where
  output : Option (List UInt8)
  verify : Except ErrorChain TblTable

def handleAppend (enc : Encodings) (rawData : List UInt8) (tsvContent : List Char) :
    Option AppendRun :=
  (decryptTbl rawData).bind fun decrypted =>
    match parseTbl enc decrypted.1 decrypted.2 with
    | .error e => some ⟨none, .error e⟩
    | .ok table =>
      let st : AppendState := ⟨table.rows, table.rows.filterMap rowId, 0, 0⟩
      match appendLines st (lines tsvContent) with
      | .error e => some ⟨none, .error e⟩
      | .ok st =>
        let table := { table with rows := sortRows st.rows }
        (encryptTbl (serializeTbl enc table decrypted.2)).bind fun encrypted =>
          (decryptTbl encrypted).map fun verifyDec =>
            ⟨some encrypted, parseTbl enc verifyDec.1 verifyDec.2⟩

end KoServer.Tbl
