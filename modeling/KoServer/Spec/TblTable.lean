import KoServer.Lib.Wire
import KoServer.Spec.NpcTrade

/-! The tables inside a `.tbl` file, from `ko-tbl-import/src/parser.rs`. A float is its bits. An
error is the chain of its contexts, outermost first. -/

namespace KoServer.Tbl

open Wire

inductive ColumnType
  | signedByte
  | unsignedByte
  | signedShort
  | unsignedShort
  | signedInt
  | unsignedInt
  | string
  | float
  | double
  | signedLong
  | unsignedLong
  deriving DecidableEq

abbrev ErrorChain := List String

def ColumnType.fromI32 (v : ℤ) : Except ErrorChain ColumnType :=
  match v with
  | 1 => .ok .signedByte
  | 2 => .ok .unsignedByte
  | 3 => .ok .signedShort
  | 4 => .ok .unsignedShort
  | 5 => .ok .signedInt
  | 6 => .ok .unsignedInt
  | 7 => .ok .string
  | 8 => .ok .float
  | 9 => .ok .double
  | 10 => .ok .signedLong
  | 11 => .ok .unsignedLong
  | _ => .error [s!"Unknown column type: {v}"]

inductive CellValue
  | i8 (v : Int8)
  | u8 (v : UInt8)
  | i16 (v : Int16)
  | u16 (v : UInt16)
  | i32 (v : Int32)
  | u32 (v : UInt32)
  | str (s : List Char)
  | f32 (bits : UInt32)
  | f64 (bits : UInt64)
  | i64 (v : Int64)
  | u64 (v : UInt64)
  deriving DecidableEq

structure TblTable where
  columns : List ColumnType
  rows : List (List CellValue)
  deriving DecidableEq

/-- What the importer uses of the `encoding_rs` crate; `windows1254Decode` also says whether
it had errors. -/
structure Encodings where
  windows1254Decode : List UInt8 → List Char × Bool
  eucKrDecode : List UInt8 → List Char
  eucKrEncode : List Char → List UInt8

/-- `read_exact` on a cursor that is too near its end. -/
def FILL : String := "failed to fill whole buffer"

/-- `read_{name}`: the bytes of one number, as the cursor reads them. -/
def readNumber (name : String) (width : ℕ) : Reader ErrorChain ℕ :=
  onError (s!"read {name}" :: ·) (Bytes.value <$> Wire.readExact [FILL] width)

def readI8 : Reader ErrorChain Int8 := (fun n => (UInt8.ofNat n).toInt8) <$> readNumber "i8" 1
def readU8 : Reader ErrorChain UInt8 := UInt8.ofNat <$> readNumber "u8" 1
def readI16 : Reader ErrorChain Int16 := (fun n => (UInt16.ofNat n).toInt16) <$> readNumber "i16" 2
def readU16 : Reader ErrorChain UInt16 := UInt16.ofNat <$> readNumber "u16" 2
def readI32 : Reader ErrorChain Int32 := (fun n => (UInt32.ofNat n).toInt32) <$> readNumber "i32" 4
def readU32 : Reader ErrorChain UInt32 := UInt32.ofNat <$> readNumber "u32" 4
def readI64 : Reader ErrorChain Int64 := (fun n => (UInt64.ofNat n).toInt64) <$> readNumber "i64" 8
def readU64 : Reader ErrorChain UInt64 := UInt64.ofNat <$> readNumber "u64" 8
def readF32 : Reader ErrorChain UInt32 := UInt32.ofNat <$> readNumber "f32" 4
def readF64 : Reader ErrorChain UInt64 := UInt64.ofNat <$> readNumber "f64" 8

/-- UTF-8 first, then Turkish, then Korean. -/
def decodeText (enc : Encodings) (buf : List UInt8) : List Char :=
  match strFromUtf8 buf with
  | some s => s
  | none =>
    let (decodedTr, hadErrorsTr) := enc.windows1254Decode buf
    if ¬ hadErrorsTr then decodedTr else enc.eucKrDecode buf

/-- The context of a failed cell. -/
def inCell {α : Type} (r c : ℕ) (what : String) (cell : Reader ErrorChain α) :
    Reader ErrorChain α :=
  onError (s!"row {r}, col {c} ({what})" :: ·) cell

def readStr (enc : Encodings) (r c : ℕ) : Reader ErrorChain (List Char) := do
  let strLen ← inCell r c "string len" readI32
  if strLen.toInt ≤ 0 then pure []
  else if 65536 < strLen.toInt then
    fail [s!"String too long at row {r}, col {c}: {strLen.toInt} bytes"]
  else decodeText enc <$> inCell r c "string data" (Wire.readExact [FILL] strLen.toInt.toNat)

def readCell (enc : Encodings) (r c : ℕ) : ColumnType → Reader ErrorChain CellValue
  | .signedByte => .i8 <$> inCell r c "i8" readI8
  | .unsignedByte => .u8 <$> inCell r c "u8" readU8
  | .signedShort => .i16 <$> inCell r c "i16" readI16
  | .unsignedShort => .u16 <$> inCell r c "u16" readU16
  | .signedInt => .i32 <$> inCell r c "i32" readI32
  | .unsignedInt => .u32 <$> inCell r c "u32" readU32
  | .string => .str <$> readStr enc r c
  | .float => .f32 <$> inCell r c "f32" readF32
  | .double => .f64 <$> inCell r c "f64" readF64
  | .signedLong => .i64 <$> inCell r c "i64" readI64
  | .unsignedLong => .u64 <$> inCell r c "u64" readU64

/-- The five bytes a ChaosExpansion table starts with. -/
def skipHeader (newStructure : Bool) : Reader ErrorChain Unit :=
  if newStructure then do
    let _ ← readI32
    let _ ← Wire.readExact [FILL] 1
    pure ()
  else pure ()

def readColumn (i : ℕ) : Reader ErrorChain ColumnType := do
  let ct ← readI32
  ofExcept ((ColumnType.fromI32 ct.toInt).mapError (s!"column {i}" :: ·))

def readRow (enc : Encodings) (columns : List ColumnType) (r : ℕ) :
    Reader ErrorChain (List CellValue) :=
  columns.zipIdx.mapM fun p => readCell enc r p.2 p.1

def readTable (enc : Encodings) (newStructure : Bool) : Reader ErrorChain TblTable := do
  skipHeader newStructure
  let columnCount := asU64 (← readI32).toInt
  ensure (0 < columnCount ∧ columnCount ≤ 1000)
    [s!"Invalid column count: {columnCount} (likely wrong encryption or corrupt file)"]
  let columns ← (List.range columnCount).mapM readColumn
  let rowCount := asU64 (← readI32).toInt
  ensure (rowCount ≤ 10000000) [s!"Suspicious row count: {rowCount} (likely corrupt)"]
  let rows ← (List.range rowCount).mapM (readRow enc columns)
  pure ⟨columns, rows⟩

def parseTbl (enc : Encodings) (data : List UInt8) (newStructure : Bool) :
    Except ErrorChain TblTable :=
  (readTable enc newStructure data).map Prod.fst

def ColumnType.typeId : ColumnType → ℕ
  | .signedByte => 1
  | .unsignedByte => 2
  | .signedShort => 3
  | .unsignedShort => 4
  | .signedInt => 5
  | .unsignedInt => 6
  | .string => 7
  | .float => 8
  | .double => 9
  | .signedLong => 10
  | .unsignedLong => 11

def writeCell (enc : Encodings) : CellValue → List UInt8
  | .i8 v => Bytes.le 1 v.toUInt8.toNat
  | .u8 v => Bytes.le 1 v.toNat
  | .i16 v => Bytes.le 2 v.toUInt16.toNat
  | .u16 v => Bytes.le 2 v.toNat
  | .i32 v => Bytes.le 4 v.toUInt32.toNat
  | .u32 v => Bytes.le 4 v.toNat
  | .str s => Bytes.le 4 (enc.eucKrEncode s).length ++ enc.eucKrEncode s
  | .f32 bits => Bytes.le 4 bits.toNat
  | .f64 bits => Bytes.le 8 bits.toNat
  | .i64 v => Bytes.le 8 v.toUInt64.toNat
  | .u64 v => Bytes.le 8 v.toNat

/-- The counts are written with an `as i32`. -/
def serializeTbl (enc : Encodings) (table : TblTable) (newStructure : Bool) : List UInt8 :=
  (if newStructure then Bytes.le 4 1 ++ [0] else []) ++
    (Bytes.le 4 table.columns.length ++
      (table.columns.flatMap (fun col => Bytes.le 4 col.typeId) ++
        (Bytes.le 4 table.rows.length ++
          table.rows.flatMap fun row => row.flatMap (writeCell enc))))

end KoServer.Tbl
