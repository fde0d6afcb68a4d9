import KoServer.Lib.Wire
import KoServer.Spec.NpcTrade

/-! Map files, from `ko-protocol/src/smd.rs`. A float is its bits, and what the parser computes
with floats is `SmdFloats`. A seek past the end does not fail; the next read does. -/

namespace KoServer.Smd

open Wire

def CELL_MAIN_DEVIDE : ℕ := 4
def WARP_INFO_SIZE : ℕ := 320
def OBJECT_EVENT_SIZE : ℕ := 24

inductive SmdError
  | unexpectedEof
  | invalidData (text : String)
  | dimensionMismatch (mapSize : ℤ) (unitDist mapWidth : UInt32)
  deriving DecidableEq

/-- `(v / 16.0).ceil() as i32`, and `(map_size - 1) as f32 * unit_dist` being no more than one
metre off the width. -/
structure SmdFloats where
  cells : UInt32 → ℤ
  dimensionsAgree : ℤ → UInt32 → UInt32 → Bool

structure WarpInfo where
  warpId : Int16
  name : List Char
  announce : List Char
  pay : UInt32
  destZone : Int16
  destX : UInt32
  destY : UInt32
  destZ : UInt32
  radius : UInt32
  nation : Int16
  deriving DecidableEq

structure RegeneEvent where
  posX : UInt32
  posY : UInt32
  posZ : UInt32
  areaZ : UInt32
  areaX : UInt32
  pointId : ℕ
  deriving DecidableEq

structure SmdFile where
  mapSize : ℤ
  unitDist : UInt32
  mapWidth : UInt32
  mapHeight : UInt32
  eventGrid : List Int16
  warps : List WarpInfo
  regeneEvents : List RegeneEvent
  deriving DecidableEq

/-- The length of the longest valid start of the character that the first byte announces, and
whether it is all of it: `Utf8Chunks` of the standard library. -/
def utf8Sequence : List UInt8 → ℕ × Bool
  | [] => (0, false)
  | b :: bs =>
    let cont (i : ℕ) : Bool := 0x80 ≤ bs.getD i 0 && bs.getD i 0 ≤ 0xBF
    let second (lo hi : UInt8) : Bool := lo ≤ bs.getD 0 0 && bs.getD 0 0 ≤ hi
    let three (ok : Bool) : ℕ × Bool := if ¬ ok then (1, false) else if cont 1 then (3, true) else (2, false)
    let four (ok : Bool) : ℕ × Bool :=
      if ¬ ok then (1, false) else if ¬ cont 1 then (2, false) else
      if cont 2 then (4, true) else (3, false)
    if b < 0x80 then (1, true)
    else if 0xC2 ≤ b ∧ b ≤ 0xDF then (if cont 0 then (2, true) else (1, false))
    else if b = 0xE0 then three (second 0xA0 0xBF)
    else if b = 0xED then three (second 0x80 0x9F)
    else if 0xE1 ≤ b ∧ b ≤ 0xEF then three (cont 0)
    else if b = 0xF0 then four (second 0x90 0xBF)
    else if 0xF1 ≤ b ∧ b ≤ 0xF3 then four (cont 0)
    else if b = 0xF4 then four (second 0x80 0x8F)
    else (1, false)

/-- `String::from_utf8_lossy`; every round takes at least one byte. -/
def fromUtf8LossyFrom : ℕ → List UInt8 → List Char
  | 0, _ => []
  | fuel + 1, bytes =>
    if bytes = [] then [] else
    let (len, whole) := utf8Sequence bytes
    let here := if whole then (strFromUtf8 (bytes.take len)).getD ['\uFFFD'] else ['\uFFFD']
    here ++ fromUtf8LossyFrom fuel (bytes.drop len)

def fromUtf8Lossy (bytes : List UInt8) : List Char := fromUtf8LossyFrom bytes.length bytes

def readNullTerminated (buf : List UInt8) : List Char :=
  fromUtf8Lossy (buf.takeWhile (· ≠ 0))

def readNumber (width : ℕ) : Reader SmdError ℕ :=
  Bytes.value <$> Wire.readExact .unexpectedEof width

def readI16 : Reader SmdError Int16 := (fun n => (UInt16.ofNat n).toInt16) <$> readNumber 2
def readI32 : Reader SmdError ℤ := (fun n : ℕ => asI32 n) <$> readNumber 4
def readU32 : Reader SmdError ℕ := readNumber 4
def readF32 : Reader SmdError UInt32 := UInt32.ofNat <$> readNumber 4

/-- A count and its entries, which are passed over; no entries if the count is not positive. -/
def skipCounted (unit : ℕ) : Reader SmdError Unit := do
  let count ← readI32
  skip (count.toNat * unit)

/-- One cell of the collision grid: its shapes and its four by four sub-cells. -/
def skipCell : Reader SmdError Unit := do
  let present ← readU32
  if present = 0 then pure () else
  skipCounted 2
  let _ ← (List.range (CELL_MAIN_DEVIDE * CELL_MAIN_DEVIDE)).mapM fun _ => skipCounted 12
  pure ()

def skipCollisionData (fl : SmdFloats) : Reader SmdError (UInt32 × UInt32) := do
  let mapWidth ← readF32
  let mapLength ← readF32
  let faceCount ← readI32
  ensure (0 ≤ faceCount) (.invalidData "negative collision face count")
  skip (faceCount.toNat * 36)
  let _ ← (List.range ((fl.cells mapLength).toNat * (fl.cells mapWidth).toNat)).mapM
    fun _ => skipCell
  pure (mapWidth, mapLength)

def readRegene (i : ℕ) : Reader SmdError RegeneEvent := do
  let posX ← readF32
  let posY ← readF32
  let posZ ← readF32
  let areaZ ← readF32
  let areaX ← readF32
  pure ⟨posX, posY, posZ, areaZ, areaX, i⟩

/-- The bytes of one `_WARP_INFO`. -/
def warpInfo (buf : List UInt8) : WarpInfo :=
  let field (offset width : ℕ) : List UInt8 := (buf.drop offset).take width
  let short (offset : ℕ) : Int16 := (UInt16.ofNat (Bytes.value (field offset 2))).toInt16
  let word (offset : ℕ) : UInt32 := UInt32.ofNat (Bytes.value (field offset 4))
  { warpId := short 0
    name := readNullTerminated (field 2 32)
    announce := readNullTerminated (field 34 256)
    pay := word 292
    destZone := short 296
    destX := word 300
    destY := word 304
    destZ := word 308
    radius := word 312
    nation := short 316 }

/-- The records that are there in full, up to the count; a warp id of 0 is passed by. -/
def readWarps : ℕ → List UInt8 → List WarpInfo
  | 0, _ => []
  | count + 1, data =>
    if data.length < WARP_INFO_SIZE then [] else
    let warp := warpInfo (data.take WARP_INFO_SIZE)
    let rest := readWarps count (data.drop WARP_INFO_SIZE)
    if warp.warpId = 0 then rest else warp :: rest

def readWarpList (data : List UInt8) : List WarpInfo :=
  match readI32 data with
  | .ok (count, rest) => readWarps count.toNat rest
  | .error _ => []

/-- Everything in front of the warp list. -/
def parseSections (fl : SmdFloats) : Reader SmdError SmdFile := do
  let mapSize ← readI32
  let unitDist ← readF32
  ensure (¬ (mapSize ≤ 0 ∨ 10000 < mapSize)) (.invalidData s!"invalid map_size: {mapSize}")
  skip (mapSize.toNat * mapSize.toNat * 4)
  let dimensions ← skipCollisionData fl
  ensure (fl.dimensionsAgree mapSize unitDist dimensions.1)
    (.dimensionMismatch mapSize unitDist dimensions.1)
  let objectEventCount ← readI32
  ensure (0 ≤ objectEventCount) (.invalidData "negative object event count")
  skip (objectEventCount.toNat * OBJECT_EVENT_SIZE)
  let eventGrid ← (List.range (mapSize.toNat * mapSize.toNat)).mapM fun _ => readI16
  let regeneCount ← readI32
  let regeneEvents ← (List.range regeneCount.toNat).mapM readRegene
  pure ⟨mapSize, unitDist, dimensions.1, dimensions.2, eventGrid, [], regeneEvents⟩

/-- `SmdFile::parse`. -/
def parse (fl : SmdFloats) (data : List UInt8) : Except SmdError SmdFile :=
  match parseSections fl data with
  | .ok (smd, rest) => .ok { smd with warps := readWarpList rest }
  | .error e => .error e

/-- Outside the grid the answer is -1; an index outside `event_grid` would panic. -/
def SmdFile.getEventId (smd : SmdFile) (x z : ℤ) : Option Int16 :=
  if x < 0 ∨ smd.mapSize ≤ x ∨ z < 0 ∨ smd.mapSize ≤ z then some (-1)
  else smd.eventGrid[x.toNat * smd.mapSize.toNat + z.toNat]?

def SmdFile.isMovable (smd : SmdFile) (x z : ℤ) : Option Bool :=
  (smd.getEventId x z).map (· == 0)

/-- `MapData::get_warp`. -/
def SmdFile.getWarp (smd : SmdFile) (warpId : Int16) : Option WarpInfo :=
  smd.warps.find? (·.warpId = warpId)

end KoServer.Smd
