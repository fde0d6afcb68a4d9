import KoServer.Spec.SmdFile

/-! The map parser accepts exactly the documented format: what it skips may be anything of the
right length, and only the warp list may be cut short. Every lookup in an accepted map stays
inside the grid. -/

namespace KoServer.Smd

open Wire

variable {L : Tail}

def i32Bytes (v : ℤ) : List UInt8 := Bytes.le 4 (v % 2 ^ 32).toNat

theorem format_number (width : ℕ) :
    Format L (readNumber width) fun n bytes => n < 256 ^ width ∧ bytes = Bytes.le width n := by
  refine ((format_readExact SmdError.unexpectedEof width).map Bytes.value).congr fun n bytes => ⟨?_, ?_⟩
  · rintro ⟨_, rfl, rfl, rfl⟩
    exact ⟨Bytes.value_lt _, (Bytes.le_value _).symm⟩
  · rintro ⟨hn, rfl⟩
    exact ⟨_, (Bytes.value_le_of_lt _ _ hn).symm, rfl, Bytes.le_length _ _⟩

theorem format_i32 : Format L readI32 fun v bytes => InI32 v ∧ bytes = i32Bytes v := by
  refine ((format_number 4).map fun n : ℕ => asI32 n).congr fun v bytes => ⟨?_, ?_⟩
  · rintro ⟨n, hv, hn, hbytes⟩
    have hback : (asI32 n % 2 ^ 32).toNat = n := by
      rw [asI32_eq]
      omega
    rw [hv, hbytes, i32Bytes, hback]
    exact ⟨asI32_range n, rfl⟩
  · rintro ⟨⟨hlow, hhigh⟩, rfl⟩
    refine ⟨(v % 2 ^ 32).toNat, ?_, by omega, rfl⟩
    rw [asI32_eq]
    omega

theorem format_f32 : Format L readF32 fun v bytes => bytes = Bytes.le 4 v.toNat := by
  refine ((format_number 4).map UInt32.ofNat).congr fun v bytes => ⟨?_, ?_⟩
  · rintro ⟨n, rfl, hn, rfl⟩
    rw [UInt32.toNat_ofNat_of_lt' hn]
  · rintro rfl
    exact ⟨v.toNat, by simp, v.toNat_lt, rfl⟩

theorem format_i16 : Format L readI16 fun v bytes => bytes = Bytes.le 2 v.toUInt16.toNat := by
  refine ((format_number 2).map fun n => (UInt16.ofNat n).toInt16).congr fun v bytes => ⟨?_, ?_⟩
  · rintro ⟨n, rfl, hn, rfl⟩
    simp only [Nat.reducePow] at hn
    simp [Nat.mod_eq_of_lt hn]
  · rintro rfl
    exact ⟨v.toUInt16.toNat, by simp, v.toUInt16.toNat_lt, rfl⟩

def IsCounted (unit : ℕ) (bytes : List UInt8) : Prop :=
  ∃ count body, InI32 count ∧ bytes = i32Bytes count ++ body ∧ body.length = count.toNat * unit

theorem format_skipCounted (unit : ℕ) :
    Format .nonempty (skipCounted unit) fun _ bytes => IsCounted unit bytes := by
  refine (format_i32.bind fun count => format_skip _).congr fun _ bytes => ⟨?_, ?_⟩
  · rintro ⟨count, _, body, rfl, ⟨hcount, rfl⟩, hbody⟩
    exact ⟨count, body, hcount, rfl, hbody⟩
  · rintro ⟨count, body, hcount, rfl, hbody⟩
    exact ⟨count, _, body, rfl, ⟨hcount, rfl⟩, hbody⟩

/-- An empty cell, or shapes and sixteen sub-cells behind a word that is not 0. -/
inductive IsCell : List UInt8 → Prop
  | empty : IsCell (Bytes.le 4 0)
  | main (present : ℕ) (shapes : List UInt8) (subCells : List (List UInt8)) :
      0 < present → present < 2 ^ 32 → IsCounted 2 shapes → subCells.length = 16 →
      (∀ subCell ∈ subCells, IsCounted 12 subCell) →
      IsCell (Bytes.le 4 present ++ (shapes ++ subCells.flatten))

theorem format_skipCell : Format .nonempty skipCell fun _ bytes => IsCell bytes := by
  have hcell : ∀ present : ℕ, Format .nonempty (if present = 0 then pure () else do
      skipCounted 2
      let _ ← (List.range (CELL_MAIN_DEVIDE * CELL_MAIN_DEVIDE)).mapM fun _ => skipCounted 12
      pure () : Reader SmdError Unit) fun _ bytes =>
        (present = 0 ∧ bytes = []) ∨ (present ≠ 0 ∧ ∃ shapes : List UInt8, ∃ subCells,
          bytes = shapes ++ List.flatten subCells ∧ IsCounted 2 shapes ∧ subCells.length = 16 ∧
            ∀ subCell ∈ subCells, IsCounted 12 subCell) := by
    intro present
    split_ifs with h
    · refine (format_pure ()).congr fun _ bytes => ?_
      simp [h]
    · refine ((format_skipCounted 2).bind fun _ =>
        (format_repeat (format_skipCounted 12) _).bind fun _ => format_pure ()).congr
          fun _ bytes => ⟨?_, ?_⟩
      · rintro ⟨_, shapes, _, rfl, hshapes, as, _, _, rfl, ⟨_, subCells, rfl, hlen, hall⟩, _, rfl⟩
        exact Or.inr ⟨h, shapes, subCells, by simp, hshapes, hlen, hall⟩
      · rintro (⟨h', _⟩ | ⟨_, shapes, subCells, rfl, hshapes, hlen, hall⟩)
        · exact absurd h' h
        · exact ⟨(), shapes, subCells.flatten, rfl, hshapes, List.replicate 16 (),
            subCells.flatten, [], by simp, ⟨by rfl, subCells, rfl, hlen, hall⟩, rfl, rfl⟩
  refine ((format_number 4).bind hcell).congr fun _ bytes => ⟨?_, ?_⟩
  · rintro ⟨present, _, b₂, rfl, ⟨hlt, rfl⟩, ⟨rfl, rfl⟩ | ⟨hne, shapes, subCells, rfl, hshapes, hlen, hall⟩⟩
    · rw [List.append_nil]
      exact .empty
    · exact .main present shapes subCells (Nat.pos_of_ne_zero hne) hlt hshapes hlen hall
  · rintro (_ | ⟨present, shapes, subCells, hpos, hlt, hshapes, hlen, hall⟩)
    · exact ⟨0, _, [], (List.append_nil _).symm, ⟨by decide, rfl⟩, Or.inl ⟨rfl, rfl⟩⟩
    · exact ⟨present, _, _, rfl, ⟨hlt, rfl⟩,
        Or.inr ⟨hpos.ne', shapes, subCells, rfl, hshapes, hlen, hall⟩⟩

/-- What a map file holds besides the map. -/
structure Skipped where
  heights : List UInt8
  faceCount : ℤ
  faces : List UInt8
  cells : List (List UInt8)
  objectEventCount : ℤ
  objectEvents : List UInt8
  regeneCount : ℤ

def regeneBytes (e : RegeneEvent) : List UInt8 :=
  Bytes.le 4 e.posX.toNat ++ (Bytes.le 4 e.posY.toNat ++ (Bytes.le 4 e.posZ.toNat ++
    (Bytes.le 4 e.areaZ.toNat ++ Bytes.le 4 e.areaX.toNat)))

def collisionBytes (w h : UInt32) (sk : Skipped) : List UInt8 :=
  Bytes.le 4 w.toNat ++ (Bytes.le 4 h.toNat ++
    (i32Bytes sk.faceCount ++ (sk.faces ++ sk.cells.flatten)))

def sectionBytes (smd : SmdFile) (sk : Skipped) : List UInt8 :=
  i32Bytes smd.mapSize ++ (Bytes.le 4 smd.unitDist.toNat ++ (sk.heights ++
    (collisionBytes smd.mapWidth smd.mapHeight sk ++
      (i32Bytes sk.objectEventCount ++ (sk.objectEvents ++
        (smd.eventGrid.flatMap (fun v => Bytes.le 2 v.toUInt16.toNat) ++
          (i32Bytes sk.regeneCount ++ smd.regeneEvents.flatMap regeneBytes)))))))

structure CollisionFits (fl : SmdFloats) (w h : UInt32) (sk : Skipped) : Prop where
  faceCount_range : InI32 sk.faceCount
  faceCount_nonneg : 0 ≤ sk.faceCount
  faces : sk.faces.length = sk.faceCount.toNat * 36
  cellCount : sk.cells.length = (fl.cells h).toNat * (fl.cells w).toNat
  cells : ∀ cell ∈ sk.cells, IsCell cell

/-- The documented format: each part has the length its count gives it. -/
structure SectionsFit (fl : SmdFloats) (smd : SmdFile) (sk : Skipped) : Prop where
  mapSize_pos : 0 < smd.mapSize
  mapSize_le : smd.mapSize ≤ 10000
  heights : sk.heights.length = smd.mapSize.toNat * smd.mapSize.toNat * 4
  collision : CollisionFits fl smd.mapWidth smd.mapHeight sk
  dimensions : fl.dimensionsAgree smd.mapSize smd.unitDist smd.mapWidth = true
  objectEventCount_range : InI32 sk.objectEventCount
  objectEventCount_nonneg : 0 ≤ sk.objectEventCount
  objectEvents : sk.objectEvents.length = sk.objectEventCount.toNat * OBJECT_EVENT_SIZE
  eventGrid : smd.eventGrid.length = smd.mapSize.toNat * smd.mapSize.toNat
  regeneCount_range : InI32 sk.regeneCount
  regeneEvents : smd.regeneEvents.length = sk.regeneCount.toNat
  pointIds : ∀ (i : ℕ) (e : RegeneEvent), smd.regeneEvents[i]? = some e → e.pointId = i

theorem format_regene (i : ℕ) :
    Format L (readRegene i) fun e bytes =>
      RegeneEvent.pointId e = i ∧ bytes = regeneBytes e := by
  refine (format_f32.bind fun posX => format_f32.bind fun posY => format_f32.bind fun posZ =>
    format_f32.bind fun areaZ => format_f32.bind fun areaX => format_pure
      (RegeneEvent.mk posX posY posZ areaZ areaX i)).congr fun e bytes => ⟨?_, ?_⟩
  · rintro ⟨posX, _, _, rfl, rfl, posY, _, _, rfl, rfl, posZ, _, _, rfl, rfl, areaZ, _, _, rfl,
      rfl, areaX, _, _, rfl, rfl, rfl, rfl⟩
    exact ⟨rfl, by simp [regeneBytes]⟩
  · rintro ⟨rfl, rfl⟩
    exact ⟨e.posX, _, _, rfl, rfl, e.posY, _, _, rfl, rfl, e.posZ, _, _, rfl, rfl, e.areaZ, _, _,
      rfl, rfl, e.areaX, _, [], (List.append_nil _).symm, rfl, rfl, rfl⟩

theorem format_collision (fl : SmdFloats) :
    Format .nonempty (skipCollisionData fl) fun dims bytes => ∃ sk : Skipped,
      CollisionFits fl dims.1 dims.2 sk ∧ bytes = collisionBytes dims.1 dims.2 sk := by
  refine (format_f32.bind fun w => format_f32.bind fun h => format_i32.bind fun faceCount =>
    (format_ensure (0 ≤ faceCount) _).bind fun _ => (format_skip _).bind fun _ =>
      (format_repeat format_skipCell _).bind fun _ => format_pure (w, h)).congr
        fun dims bytes => ⟨?_, ?_⟩
  · rintro ⟨w, _, _, rfl, rfl, h, _, _, rfl, rfl, faceCount, _, _, rfl, ⟨hrange, rfl⟩, _, _, _, rfl,
      ⟨hnonneg, rfl⟩, _, faces, _, rfl, hfaces, _, _, _, rfl, ⟨-, cells, rfl, hcount, hcells⟩, rfl, rfl⟩
    exact ⟨⟨[], faceCount, faces, cells, 0, [], 0⟩, ⟨hrange, hnonneg, hfaces, hcount, hcells⟩,
      by simp [collisionBytes]⟩
  · rintro ⟨sk, ⟨hrange, hnonneg, hfaces, hcount, hcells⟩, rfl⟩
    exact ⟨dims.1, _, _, rfl, rfl, dims.2, _, _, rfl, rfl, sk.faceCount, _, _, rfl, ⟨hrange, rfl⟩,
      (), [], _, rfl, ⟨hnonneg, rfl⟩, (), sk.faces, _, rfl, hfaces, List.replicate _ (), _, [],
      (List.append_nil _).symm, ⟨List.length_replicate, sk.cells, rfl, hcount, hcells⟩, rfl, rfl⟩

@[simp] theorem i32Bytes_length (v : ℤ) : (i32Bytes v).length = 4 := Bytes.le_length _ _

theorem i32Bytes_append_ne_nil (v : ℤ) (rest : List UInt8) : i32Bytes v ++ rest ≠ [] := by
  apply List.append_ne_nil_of_left_ne_nil
  simp [← List.length_pos_iff]

/-- The spawn points, behind the grid. -/
theorem format_regenes (mk : List RegeneEvent → SmdFile) :
    Format .any (do
      let regeneCount ← readI32
      let regeneEvents ← (List.range regeneCount.toNat).mapM readRegene
      pure (mk regeneEvents)) fun smd bytes => ∃ regeneCount es, smd = mk es ∧
        InI32 regeneCount ∧ es.length = regeneCount.toNat ∧
        (∀ (i : ℕ) (e : RegeneEvent), es[i]? = some e → e.pointId = i) ∧
        bytes = i32Bytes regeneCount ++ es.flatMap regeneBytes := by
  refine (format_i32.bind fun n => (format_spelled format_regene n.toNat).bind fun es =>
    format_pure (mk es)).congr fun smd bytes => ⟨?_, ?_⟩
  · rintro ⟨n, _, _, rfl, ⟨hn, rfl⟩, es, _, _, rfl, ⟨hlen, hids, rfl⟩, rfl, rfl⟩
    exact ⟨n, es, rfl, hn, hlen, hids, by rw [List.append_nil]⟩
  · rintro ⟨n, es, rfl, hn, hlen, hids, rfl⟩
    exact ⟨n, _, _, rfl, ⟨hn, rfl⟩, es, _, [], (List.append_nil _).symm, ⟨hlen, hids, rfl⟩, rfl, rfl⟩

/-- The grid and what stands behind it. -/
theorem format_tiles (cells : ℕ) (mk : List Int16 → List RegeneEvent → SmdFile) :
    Format .any (do
      let eventGrid ← (List.range cells).mapM fun _ => readI16
      let regeneCount ← readI32
      let regeneEvents ← (List.range regeneCount.toNat).mapM readRegene
      pure (mk eventGrid regeneEvents)) fun smd bytes => ∃ grid regeneCount es, smd = mk grid es ∧
        grid.length = cells ∧ InI32 regeneCount ∧ es.length = regeneCount.toNat ∧
        (∀ (i : ℕ) (e : RegeneEvent), es[i]? = some e → e.pointId = i) ∧
        bytes = grid.flatMap (fun v => Bytes.le 2 v.toUInt16.toNat) ++
          (i32Bytes regeneCount ++ es.flatMap regeneBytes) := by
  have htile : ∀ i : ℕ, Format .any readI16 fun v bytes =>
      (fun (_ : ℕ) (_ : Int16) => True) i v ∧ bytes = Bytes.le 2 v.toUInt16.toNat :=
    fun _ => format_i16.congr fun v bytes => by simp
  refine ((format_spelled htile cells).bind fun grid => format_regenes (mk grid)).congr
    fun smd bytes => ⟨?_, ?_⟩
  · rintro ⟨grid, _, _, rfl, ⟨hgrid, -, rfl⟩, n, es, rfl, hn, hlen, hids, rfl⟩
    exact ⟨grid, n, es, rfl, hgrid, hn, hlen, hids, rfl⟩
  · rintro ⟨grid, n, es, rfl, hgrid, hn, hlen, hids, rfl⟩
    exact ⟨grid, _, _, rfl, ⟨hgrid, fun _ _ _ => trivial, rfl⟩, n, es, rfl, hn, hlen, hids, rfl⟩

theorem format_sections (fl : SmdFloats) :
    Format .any (parseSections fl) fun smd bytes =>
      smd.warps = [] ∧ ∃ sk, SectionsFit fl smd sk ∧ bytes = sectionBytes smd sk := by
  have hobjects := fun (mapSize : ℤ) (unitDist : UInt32) (dims : UInt32 × UInt32) =>
    (format_ensure (L := .any) (fl.dimensionsAgree mapSize unitDist dims.1 = true)
      (SmdError.dimensionMismatch mapSize unitDist dims.1)).bind fun _ =>
    format_i32.bind fun objectEventCount =>
    (format_ensure (0 ≤ objectEventCount)
      (SmdError.invalidData "negative object event count")).bind fun _ =>
    (format_skip (objectEventCount.toNat * OBJECT_EVENT_SIZE)).bind_read
      (fun _ => format_tiles (mapSize.toNat * mapSize.toNat) fun eventGrid regeneEvents =>
        ⟨mapSize, unitDist, dims.1, dims.2, eventGrid, [], regeneEvents⟩)
      (by
        rintro _ smd bytes ⟨grid, n, es, -, -, -, -, -, rfl⟩
        exact List.append_ne_nil_of_right_ne_nil _ (i32Bytes_append_ne_nil _ _))
  have hcollision := fun (mapSize : ℤ) (unitDist : UInt32) =>
    (format_collision fl).bind_read (fun dims => hobjects mapSize unitDist dims) (by
      rintro dims smd bytes ⟨_, b₁, _, rfl, -, n, _, b₂, rfl, ⟨-, rfl⟩, -⟩
      exact List.append_ne_nil_of_right_ne_nil _ (i32Bytes_append_ne_nil _ _))
  have hterrain := fun (mapSize : ℤ) (unitDist : UInt32) =>
    (format_skip (mapSize.toNat * mapSize.toNat * 4)).bind_read
      (fun _ => hcollision mapSize unitDist) (by
        rintro _ smd bytes ⟨dims, _, b₂, rfl, ⟨sk, -, rfl⟩, -⟩
        simp [collisionBytes, Bytes.le])
  refine (format_i32.bind fun mapSize => format_f32.bind fun unitDist =>
    (format_ensure (¬ (mapSize ≤ 0 ∨ 10000 < mapSize)) _).bind fun _ =>
      hterrain mapSize unitDist).congr fun smd bytes => ⟨?_, ?_⟩
  · rintro ⟨mapSize, _, _, rfl, ⟨-, rfl⟩, unitDist, _, _, rfl, rfl, _, _, _, rfl, ⟨hsize, rfl⟩, _,
      heights, _, rfl, hheights, dims, _, _, rfl, ⟨sk, hsk, rfl⟩, _, _, _, rfl, ⟨hdims, rfl⟩,
      objectEventCount, _, _, rfl, ⟨hobjRange, rfl⟩, _, _, _, rfl, ⟨hobjNonneg, rfl⟩, _, objects, _,
      rfl, hobjects, grid, n, es, rfl, hgrid, hn, hlen, hids, rfl⟩
    have hmap : 0 < mapSize ∧ mapSize ≤ 10000 := by omega
    refine ⟨rfl, ⟨heights, sk.faceCount, sk.faces, sk.cells, objectEventCount, objects, n⟩,
      ⟨hmap.1, hmap.2, hheights, ?_, hdims, hobjRange, hobjNonneg, hobjects, hgrid, hn, hlen,
        hids⟩, ?_⟩
    · exact ⟨hsk.faceCount_range, hsk.faceCount_nonneg, hsk.faces, hsk.cellCount, hsk.cells⟩
    · simp [sectionBytes, collisionBytes]
  · rintro ⟨hwarps, sk, h, rfl⟩
    have hrange : InI32 smd.mapSize := by
      have := h.mapSize_pos
      have := h.mapSize_le
      constructor <;> omega
    refine ⟨smd.mapSize, _, _, rfl, ⟨hrange, rfl⟩, smd.unitDist, _, _, rfl, rfl, (), [], _, rfl,
      ⟨?_, rfl⟩, (), sk.heights, _, rfl, h.heights, (smd.mapWidth, smd.mapHeight), _, _, rfl,
      ⟨sk, h.collision, rfl⟩, (), [], _, rfl, ⟨h.dimensions, rfl⟩, sk.objectEventCount, _, _, rfl,
      ⟨h.objectEventCount_range, rfl⟩, (), [], _, rfl, ⟨h.objectEventCount_nonneg, rfl⟩, (),
      sk.objectEvents, _, rfl, h.objectEvents, smd.eventGrid, sk.regeneCount, smd.regeneEvents, ?_,
      h.eventGrid, h.regeneCount_range, h.regeneEvents, h.pointIds, rfl⟩
    · have := h.mapSize_pos
      have := h.mapSize_le
      omega
    · rw [← hwarps]

/-- What a warp record holds besides the warp: its texts to the last byte, and what is not read. -/
structure WarpTexts where
  name : List UInt8
  announce : List UInt8
  unk0 : List UInt8
  unk1 : List UInt8
  unk2 : List UInt8

def i16Bytes (v : Int16) : List UInt8 := Bytes.le 2 v.toUInt16.toNat

def warpBytes (w : WarpInfo) (t : WarpTexts) : List UInt8 :=
  i16Bytes w.warpId ++ (t.name ++ (t.announce ++ (t.unk0 ++ (Bytes.le 4 w.pay.toNat ++
    (i16Bytes w.destZone ++ (t.unk1 ++ (Bytes.le 4 w.destX.toNat ++ (Bytes.le 4 w.destY.toNat ++
      (Bytes.le 4 w.destZ.toNat ++ (Bytes.le 4 w.radius.toNat ++ (i16Bytes w.nation ++
        t.unk2)))))))))))

structure WarpFits (w : WarpInfo) (t : WarpTexts) : Prop where
  name_length : t.name.length = 32
  name : w.name = readNullTerminated t.name
  announce_length : t.announce.length = 256
  announce : w.announce = readNullTerminated t.announce
  unk0 : t.unk0.length = 2
  unk1 : t.unk1.length = 2
  unk2 : t.unk2.length = 2

def IsWarp (w : WarpInfo) (bytes : List UInt8) : Prop :=
  ∃ t, WarpFits w t ∧ bytes = warpBytes w t

/-- The warp list at the end of a file. Nothing of it need be there, and behind the last whole
record it may stop; a warp of id 0 is not listed. -/
inductive IsWarpList (tail : List UInt8) (warps : List WarpInfo) : Prop
  | missing (hcut : tail.length < 4) (hnone : warps = [])
  | listed (count : ℤ) (records : List WarpInfo) (bytes : List (List UInt8)) (rest : List UInt8)
    (hcount : InI32 count) (htail : tail = i32Bytes count ++ (bytes.flatten ++ rest))
    (hrecords : List.Forall₂ IsWarp records bytes)
    (hends : records.length = count.toNat ∨
      records.length < count.toNat ∧ rest.length < WARP_INFO_SIZE)
    (hwarps : warps = records.filter (·.warpId ≠ 0))

/-- A record field by field. -/
def readWarp : Reader SmdError WarpInfo := do
  let warpId ← readI16
  let name ← Wire.readExact .unexpectedEof 32
  let announce ← Wire.readExact .unexpectedEof 256
  let _ ← Wire.readExact .unexpectedEof 2
  let pay ← readF32
  let destZone ← readI16
  let _ ← Wire.readExact .unexpectedEof 2
  let destX ← readF32
  let destY ← readF32
  let destZ ← readF32
  let radius ← readF32
  let nation ← readI16
  let _ ← Wire.readExact .unexpectedEof 2
  pure ⟨warpId, readNullTerminated name, readNullTerminated announce, pay, destZone, destX, destY,
    destZ, radius, nation⟩

/-- Where a warp leads to, behind its zone. -/
theorem format_landing (mk : UInt32 → UInt32 → UInt32 → UInt32 → Int16 → WarpInfo) :
    Format L (do
      let destX ← readF32
      let destY ← readF32
      let destZ ← readF32
      let radius ← readF32
      let nation ← readI16
      let _ ← Wire.readExact SmdError.unexpectedEof 2
      pure (mk destX destY destZ radius nation)) fun w bytes =>
        ∃ destX destY destZ radius nation unk2, w = mk destX destY destZ radius nation ∧
          unk2.length = 2 ∧ bytes = Bytes.le 4 destX.toNat ++ (Bytes.le 4 destY.toNat ++
            (Bytes.le 4 destZ.toNat ++ (Bytes.le 4 radius.toNat ++ (i16Bytes nation ++ unk2)))) := by
  refine (format_f32.bind fun destX => format_f32.bind fun destY => format_f32.bind fun destZ =>
    format_f32.bind fun radius => format_i16.bind fun nation =>
    (format_readExact (L := L) SmdError.unexpectedEof 2).bind fun _ =>
    format_pure (mk destX destY destZ radius nation)).congr fun w bytes => ⟨?_, ?_⟩
  · rintro ⟨destX, _, _, rfl, rfl, destY, _, _, rfl, rfl, destZ, _, _, rfl, rfl, radius, _, _, rfl,
      rfl, nation, _, _, rfl, rfl, unk2, _, _, rfl, ⟨rfl, hunk2⟩, rfl, rfl⟩
    exact ⟨destX, destY, destZ, radius, nation, unk2, rfl, hunk2, by simp [i16Bytes]⟩
  · rintro ⟨destX, destY, destZ, radius, nation, unk2, rfl, hunk2, rfl⟩
    exact ⟨destX, _, _, rfl, rfl, destY, _, _, rfl, rfl, destZ, _, _, rfl, rfl, radius, _, _, rfl,
      rfl, nation, _, _, rfl, rfl, unk2, _, [], (List.append_nil _).symm, ⟨rfl, hunk2⟩, rfl, rfl⟩

theorem format_warp : Format L readWarp IsWarp := by
  have hbytes := fun n => format_readExact (L := L) SmdError.unexpectedEof n
  refine (format_i16.bind fun warpId => (hbytes 32).bind fun name => (hbytes 256).bind fun announce =>
    (hbytes 2).bind fun _ => format_f32.bind fun pay => format_i16.bind fun destZone =>
    (hbytes 2).bind fun _ => format_landing (WarpInfo.mk warpId (readNullTerminated name)
      (readNullTerminated announce) pay destZone)).congr fun w bytes => ⟨?_, ?_⟩
  · rintro ⟨warpId, _, _, rfl, rfl, name, _, _, rfl, ⟨rfl, hname⟩, announce, _, _, rfl,
      ⟨rfl, hannounce⟩, unk0, _, _, rfl, ⟨rfl, hunk0⟩, pay, _, _, rfl, rfl, destZone, _, _, rfl, rfl,
      unk1, _, _, rfl, ⟨rfl, hunk1⟩, destX, destY, destZ, radius, nation, unk2, rfl, hunk2, rfl⟩
    exact ⟨⟨name, announce, unk0, unk1, unk2⟩,
      ⟨hname, rfl, hannounce, rfl, hunk0, hunk1, hunk2⟩, rfl⟩
  · rintro ⟨t, h, rfl⟩
    refine ⟨w.warpId, _, _, rfl, rfl, t.name, _, _, rfl, ⟨rfl, h.name_length⟩, t.announce, _, _, rfl,
      ⟨rfl, h.announce_length⟩, t.unk0, _, _, rfl, ⟨rfl, h.unk0⟩, w.pay, _, _, rfl, rfl, w.destZone,
      _, _, rfl, rfl, t.unk1, _, _, rfl, ⟨rfl, h.unk1⟩, w.destX, w.destY, w.destZ, w.radius,
      w.nation, t.unk2, ?_, h.unk2, rfl⟩
    rw [← h.name, ← h.announce]

section

variable {data : List UInt8} {offset : ℕ}

theorem readExact_drop {n : ℕ} (h : offset + n ≤ data.length) :
    Wire.readExact SmdError.unexpectedEof n (data.drop offset) =
      .ok ((data.drop offset).take n, data.drop (offset + n)) := by
  have hle : n ≤ (data.drop offset).length := by
    rw [List.length_drop]
    omega
  unfold Wire.readExact
  rw [if_pos hle, List.drop_drop]

theorem readI16_drop (h : offset + 2 ≤ data.length) : readI16 (data.drop offset) =
    .ok ((UInt16.ofNat (Bytes.value ((data.drop offset).take 2))).toInt16, data.drop (offset + 2)) := by
  unfold readI16 readNumber
  rw [Functor.map_map]
  simp [Functor.map, StateT.map, bind, Except.bind, pure, Except.pure, readExact_drop h]

theorem readF32_drop (h : offset + 4 ≤ data.length) : readF32 (data.drop offset) =
    .ok (UInt32.ofNat (Bytes.value ((data.drop offset).take 4)), data.drop (offset + 4)) := by
  unfold readF32 readNumber
  rw [Functor.map_map]
  simp [Functor.map, StateT.map, bind, Except.bind, pure, Except.pure, readExact_drop h]

/-- The buffer of the parser holds the same fields. -/
theorem readWarp_eq (h : WARP_INFO_SIZE ≤ data.length) :
    readWarp data = .ok (warpInfo (data.take WARP_INFO_SIZE), data.drop WARP_INFO_SIZE) := by
  have hsize : WARP_INFO_SIZE = 320 := rfl
  rw [hsize] at h ⊢
  have hstart : readI16 data = readI16 (data.drop 0) := rfl
  unfold readWarp
  rw [bind_ok (hstart.trans (readI16_drop (by omega))), bind_ok (readExact_drop (by omega)),
    bind_ok (readExact_drop (by omega)), bind_ok (readExact_drop (by omega)),
    bind_ok (readF32_drop (by omega)), bind_ok (readI16_drop (by omega)),
    bind_ok (readExact_drop (by omega)), bind_ok (readF32_drop (by omega)),
    bind_ok (readF32_drop (by omega)), bind_ok (readF32_drop (by omega)),
    bind_ok (readF32_drop (by omega)), bind_ok (readI16_drop (by omega)),
    bind_ok (readExact_drop (by omega))]
  change Except.ok (_, _) = _
  simp [warpInfo, List.drop_take, List.take_take]

end

theorem warp_length {w : WarpInfo} {bytes : List UInt8} (h : IsWarp w bytes) :
    bytes.length = WARP_INFO_SIZE := by
  obtain ⟨t, h, rfl⟩ := h
  simp [warpBytes, i16Bytes, h.name_length, h.announce_length, h.unk0, h.unk1, h.unk2,
    WARP_INFO_SIZE]

theorem readWarps_cons {w : WarpInfo} {bytes : List UInt8} (h : IsWarp w bytes) (count : ℕ)
    (rest : List UInt8) : readWarps (count + 1) (bytes ++ rest) =
      if w.warpId = 0 then readWarps count rest else w :: readWarps count rest := by
  have hlen := warp_length h
  have hlong : WARP_INFO_SIZE ≤ (bytes ++ rest).length := by
    rw [List.length_append]
    omega
  have hread := (readWarp_eq hlong).symm.trans ((format_warp (L := .any)).reads w bytes h rest)
  obtain ⟨hwarp, hrest⟩ := Prod.mk.inj (Except.ok.inj hread)
  rw [readWarps]
  dsimp only
  rw [if_neg (not_lt.mpr hlong), hwarp, hrest]

theorem isWarp_take {data : List UInt8} (h : WARP_INFO_SIZE ≤ data.length) :
    IsWarp (warpInfo (data.take WARP_INFO_SIZE)) (data.take WARP_INFO_SIZE) := by
  obtain ⟨bytes, hdata, hwarp⟩ :=
    (format_warp (L := .any)).accepts data _ _ (readWarp_eq h) trivial
  have hbytes : data.take WARP_INFO_SIZE = bytes := by
    conv_lhs => rw [hdata, ← warp_length hwarp, List.take_left']
  rwa [hbytes] at hwarp ⊢

/-- The whole records up to the count, and a rest that is no record if they are fewer. -/
theorem readWarps_iff {count : ℕ} {data : List UInt8} {ws : List WarpInfo} :
    ws = readWarps count data ↔ ∃ records bytes rest, data = List.flatten bytes ++ rest ∧
      List.Forall₂ IsWarp records bytes ∧
      (records.length = count ∨ records.length < count ∧ rest.length < WARP_INFO_SIZE) ∧
      ws = records.filter (·.warpId ≠ 0) := by
  induction count generalizing data ws with
  | zero =>
    constructor
    · rintro rfl
      exact ⟨[], [], data, rfl, .nil, .inl rfl, rfl⟩
    · rintro ⟨records, bytes, rest, -, -, hends, rfl⟩
      obtain rfl : records = [] := List.eq_nil_of_length_eq_zero (by omega)
      rfl
  | succ count ih =>
    constructor
    · rintro rfl
      by_cases hshort : data.length < WARP_INFO_SIZE
      · exact ⟨[], [], data, rfl, .nil, .inr ⟨Nat.succ_pos _, hshort⟩, by simp [readWarps, hshort]⟩
      · have hlong := not_lt.mp hshort
        obtain ⟨records, bytes, rest, hdata, hrecords, hends, hws⟩ :=
          (@ih (data.drop WARP_INFO_SIZE) _).mp rfl
        refine ⟨_ :: records, _ :: bytes, rest, ?_, .cons (isWarp_take hlong) hrecords, ?_, ?_⟩
        · rw [List.flatten_cons, List.append_assoc, ← hdata, List.take_append_drop]
        · rw [List.length_cons]
          omega
        · conv_lhs => rw [← List.take_append_drop WARP_INFO_SIZE data,
            readWarps_cons (isWarp_take hlong), hws]
          by_cases hid : (warpInfo (data.take WARP_INFO_SIZE)).warpId = 0 <;> simp [hid]
    · rintro ⟨_, _, rest, rfl, (_ | ⟨hwarp, hrecords⟩), hends, rfl⟩
      · have hshort : rest.length < WARP_INFO_SIZE := (hends.resolve_left (by simp)).2
        simp [readWarps, hshort]
      · next w bytes records bytes' =>
        rw [List.flatten_cons, List.append_assoc, readWarps_cons hwarp,
          ← (@ih (bytes'.flatten ++ rest) _).mpr
            ⟨records, bytes', rest, rfl, hrecords, by simpa using hends, rfl⟩]
        by_cases hid : w.warpId = 0 <;> simp [hid]

theorem readI32_eq (tail : List UInt8) : readI32 tail =
    if 4 ≤ tail.length then .ok (asI32 (Bytes.value (tail.take 4) : ℕ), tail.drop 4)
    else .error .unexpectedEof := by
  unfold readI32 readNumber
  rw [Functor.map_map]
  by_cases h : 4 ≤ tail.length <;>
    simp [Functor.map, StateT.map, bind, Except.bind, pure, Except.pure, Wire.readExact, h]

theorem readWarpList_iff {tail : List UInt8} {ws : List WarpInfo} :
    ws = readWarpList tail ↔ IsWarpList tail ws := by
  unfold readWarpList
  constructor
  · rintro rfl
    rcases hread : readI32 tail with e | ⟨count, data⟩
    · refine .missing ?_ rfl
      by_contra hlong
      rw [readI32_eq, if_pos (not_lt.mp hlong)] at hread
      cases hread
    · obtain ⟨bytes, rfl, hcount, rfl⟩ := (format_i32 (L := .any)).accepts tail count data hread trivial
      obtain ⟨records, bytes, rest, rfl, hrecords, hends, hws⟩ := readWarps_iff.mp
        (rfl : readWarps count.toNat data = _)
      exact .listed count records bytes rest hcount rfl hrecords hends hws
  · rintro (⟨hcut, rfl⟩ | ⟨count, records, bytes, rest, hcount, rfl, hrecords, hends, rfl⟩)
    · rw [readI32_eq, if_neg (not_le.mpr hcut)]
    · rw [(format_i32 (L := .any)).reads count _ ⟨hcount, rfl⟩ _]
      exact readWarps_iff.mpr ⟨records, bytes, rest, rfl, hrecords, hends, rfl⟩

theorem readI32_append {data rest : List UInt8} {v : ℤ} (h : readI32 data = .ok (v, rest))
    (more : List UInt8) : readI32 (data ++ more) = .ok (v, rest ++ more) := by
  obtain ⟨bytes, rfl, hshape⟩ := (format_i32 (L := .any)).accepts data v rest h trivial
  rw [List.append_assoc]
  exact (format_i32 (L := .any)).reads v bytes hshape (rest ++ more)

theorem readWarps_append (count : ℕ) (data more : List UInt8) :
    ∃ ws, readWarps count (data ++ more) = readWarps count data ++ ws := by
  induction count generalizing data with
  | zero => exact ⟨[], rfl⟩
  | succ count ih =>
    by_cases hshort : data.length < WARP_INFO_SIZE
    · exact ⟨readWarps (count + 1) (data ++ more), by simp [readWarps, hshort]⟩
    · have hlong : ¬ (data ++ more).length < WARP_INFO_SIZE := by simp; omega
      have hle : WARP_INFO_SIZE ≤ data.length := by omega
      obtain ⟨ws, hws⟩ := ih (data.drop WARP_INFO_SIZE)
      refine ⟨ws, ?_⟩
      simp only [readWarps, if_neg hshort, if_neg hlong, List.take_append_of_le_length hle,
        List.drop_append_of_le_length hle, hws]
      split_ifs <;> simp

/-- A longer warp section lists the same warps first. -/
theorem readWarpList_append (data more : List UInt8) :
    ∃ ws, readWarpList (data ++ more) = readWarpList data ++ ws := by
  unfold readWarpList
  rcases hread : readI32 data with e | ⟨count, rest⟩
  · exact ⟨_, rfl⟩
  · rw [readI32_append hread]
    exact readWarps_append _ _ _

theorem readWarps_ids (count : ℕ) (data : List UInt8) :
    ∀ w ∈ readWarps count data, w.warpId ≠ 0 := by
  induction count generalizing data with
  | zero => simp [readWarps]
  | succ count ih =>
    simp only [readWarps]
    split_ifs with hshort hzero
    · simp
    · exact ih _
    · intro w hw
      rcases List.mem_cons.mp hw with rfl | hw
      · exact hzero
      · exact ih _ w hw

theorem readWarpList_ids (data : List UInt8) : ∀ w ∈ readWarpList data, w.warpId ≠ 0 := by
  unfold readWarpList
  rcases readI32 data with e | ⟨count, rest⟩
  · simp
  · exact readWarps_ids _ _

theorem SectionsFit.setWarps {fl : SmdFloats} {smd : SmdFile} {sk : Skipped}
    (h : SectionsFit fl smd sk) (warps : List WarpInfo) :
    SectionsFit fl { smd with warps := warps } sk :=
  ⟨h.mapSize_pos, h.mapSize_le, h.heights, h.collision, h.dimensions, h.objectEventCount_range,
    h.objectEventCount_nonneg, h.objectEvents, h.eventGrid, h.regeneCount_range, h.regeneEvents,
    h.pointIds⟩

theorem parse_ok_iff (fl : SmdFloats) (data : List UInt8) (smd : SmdFile) :
    parse fl data = .ok smd ↔ ∃ sk tail, SectionsFit fl smd sk ∧
      data = sectionBytes smd sk ++ tail ∧ smd.warps = readWarpList tail := by
  unfold parse
  constructor
  · intro h
    rcases hread : parseSections fl data with e | ⟨smd', tail⟩
    · simp [hread] at h
    · obtain ⟨_, rfl, -, sk, hfit, rfl⟩ := (format_sections fl).accepts data smd' tail hread trivial
      obtain rfl : { smd' with warps := readWarpList tail } = smd := by simpa [hread] using h
      exact ⟨sk, tail, hfit.setWarps _, rfl, rfl⟩
  · rintro ⟨sk, tail, hfit, rfl, hwarps⟩
    have hread := (format_sections fl).reads { smd with warps := [] } _
      ⟨rfl, sk, hfit.setWarps [], rfl⟩ tail
    have hsame : sectionBytes { smd with warps := [] } sk = sectionBytes smd sk := rfl
    rw [hsame] at hread
    simp [hread, ← hwarps]

/-- The parser accepts exactly the documented layout and reads from it what stands there; the warp
list alone may be missing or cut, and anything may follow it. -/
theorem parse_format (fl : SmdFloats) (data : List UInt8) (smd : SmdFile) :
    parse fl data = .ok smd ↔ ∃ sk tail, SectionsFit fl smd sk ∧
      data = sectionBytes smd sk ++ tail ∧ IsWarpList tail smd.warps := by
  rw [parse_ok_iff]
  simp only [readWarpList_iff]

/-- Bytes behind an accepted file change nothing but the end of the warp list, so that a file
cut inside its warps loses only those. -/
theorem parse_append {fl : SmdFloats} {data : List UInt8} {smd : SmdFile}
    (h : parse fl data = .ok smd) (more : List UInt8) :
    ∃ ws, parse fl (data ++ more) = .ok { smd with warps := smd.warps ++ ws } := by
  obtain ⟨sk, tail, hfit, rfl, hwarps⟩ := (parse_ok_iff fl data smd).mp h
  obtain ⟨ws, hws⟩ := readWarpList_append tail more
  refine ⟨ws, (parse_ok_iff fl _ _).mpr ⟨sk, tail ++ more, hfit.setWarps _, ?_, ?_⟩⟩
  · rw [List.append_assoc]
    rfl
  · rw [hws, hwarps]

/-- A map of one cell and no extent, and what else is in its file. -/
def pointMap : SmdFile := ⟨1, 0x40800000, 0, 0, [7], [], []⟩

def pointSkipped : Skipped := ⟨[0, 0, 0, 0], 0, [], [], 0, [], 0⟩

def pointFloats : SmdFloats := ⟨fun _ => 0, fun _ _ _ => true⟩

def pointFile : List UInt8 := sectionBytes pointMap pointSkipped

theorem pointMap_fits : SectionsFit pointFloats pointMap pointSkipped where
  mapSize_pos := by decide
  mapSize_le := by decide
  heights := rfl
  collision := ⟨⟨by decide, by decide⟩, by decide, rfl, rfl, by simp [pointSkipped]⟩
  dimensions := rfl
  objectEventCount_range := ⟨by decide, by decide⟩
  objectEventCount_nonneg := by decide
  objectEvents := rfl
  eventGrid := rfl
  regeneCount_range := ⟨by decide, by decide⟩
  regeneEvents := rfl
  pointIds := by simp [pointMap]

theorem parse_pointFile : parse pointFloats pointFile = .ok pointMap :=
  (parse_ok_iff _ _ _).mpr ⟨pointSkipped, [], pointMap_fits, (List.append_nil _).symm, rfl⟩

/-- A warp called "Gate" out of the map of one cell. -/
def gate : WarpInfo := ⟨5, ['G', 'a', 't', 'e'], [], 100, 21, 0, 0, 0, 0x40800000, 1⟩

def gateTexts : WarpTexts where
  name := [71, 97, 116, 101] ++ List.replicate 28 0
  announce := List.replicate 256 0
  unk0 := [0, 0]
  unk1 := [0, 0]
  unk2 := [0, 0]

/-- Two warps are announced, and the second one is cut. -/
def cutFile : List UInt8 :=
  pointFile ++ (i32Bytes 2 ++ ([warpBytes gate gateTexts].flatten ++ List.replicate 100 1))

theorem gate_isWarp : IsWarp gate (warpBytes gate gateTexts) :=
  ⟨gateTexts, ⟨rfl, by decide +kernel, List.length_replicate, by decide +kernel, rfl, rfl, rfl⟩, rfl⟩

theorem parse_cutFile : parse pointFloats cutFile = .ok { pointMap with warps := [gate] } := by
  have hlist := IsWarpList.listed 2 [gate] _ (List.replicate 100 1)
    ⟨by decide, by decide⟩ rfl (.cons gate_isWarp .nil)
    (.inr ⟨by decide, by rw [List.length_replicate]; decide⟩) rfl
  exact (parse_ok_iff _ _ _).mpr ⟨pointSkipped, _, pointMap_fits.setWarps _, rfl,
    readWarpList_iff.mpr hlist⟩

theorem cutFile_grows : ∃ ws, parse pointFloats (cutFile ++ List.replicate 220 1) =
    .ok { pointMap with warps := [gate] ++ ws } :=
  parse_append parse_cutFile (List.replicate 220 1)

def SmdFile.Inside (smd : SmdFile) (x z : ℤ) : Prop :=
  0 ≤ x ∧ x < smd.mapSize ∧ 0 ≤ z ∧ z < smd.mapSize

theorem getEventId_inside {smd : SmdFile}
    (hgrid : smd.eventGrid.length = smd.mapSize.toNat * smd.mapSize.toNat) {x z : ℤ}
    (h : smd.Inside x z) : ∃ v ∈ smd.eventGrid, smd.getEventId x z = some v := by
  obtain ⟨hx, hx', hz, hz'⟩ := h
  have hout : ¬ (x < 0 ∨ smd.mapSize ≤ x ∨ z < 0 ∨ smd.mapSize ≤ z) := by omega
  have hrow : x.toNat + 1 ≤ smd.mapSize.toNat := by omega
  have hcol : z.toNat < smd.mapSize.toNat := by omega
  have hindex : x.toNat * smd.mapSize.toNat + z.toNat < smd.eventGrid.length := by
    have := Nat.mul_le_mul_right smd.mapSize.toNat hrow
    rw [Nat.succ_mul] at this
    omega
  refine ⟨smd.eventGrid[x.toNat * smd.mapSize.toNat + z.toNat], List.getElem_mem _, ?_⟩
  rw [SmdFile.getEventId, if_neg hout, List.getElem?_eq_getElem hindex]

theorem getEventId_outside {smd : SmdFile} {x z : ℤ} (h : ¬ smd.Inside x z) :
    smd.getEventId x z = some (-1) := by
  apply if_pos
  unfold SmdFile.Inside at h
  omega

/-- The lookups of an accepted map: inside the grid they find an entry of it, outside they
answer -1, which is not walkable, and there is no warp 0. -/
theorem accepted_lookups {fl : SmdFloats} {data : List UInt8} {smd : SmdFile}
    (h : parse fl data = .ok smd) :
    (∀ x z, ∃ v, smd.getEventId x z = some v ∧ (smd.Inside x z → v ∈ smd.eventGrid)) ∧
      (∀ x z, smd.isMovable x z = some true → smd.Inside x z) ∧ smd.getWarp 0 = none := by
  obtain ⟨sk, tail, hfit, rfl, hwarps⟩ := (parse_ok_iff fl data smd).mp h
  refine ⟨fun x z => ?_, fun x z hmovable => ?_, ?_⟩
  · by_cases hin : smd.Inside x z
    · obtain ⟨v, hv, hget⟩ := getEventId_inside hfit.eventGrid hin
      exact ⟨v, hget, fun _ => hv⟩
    · exact ⟨-1, getEventId_outside hin, fun h => absurd h hin⟩
  · by_contra hin
    rw [SmdFile.isMovable, getEventId_outside hin] at hmovable
    revert hmovable
    decide
  · rw [SmdFile.getWarp, List.find?_eq_none, hwarps]
    intro w hw
    simpa using readWarpList_ids tail w hw

theorem pointMap_lookups : ∃ v, pointMap.getEventId 0 0 = some v ∧ v ∈ pointMap.eventGrid := by
  obtain ⟨v, hget, hv⟩ := (accepted_lookups parse_pointFile).1 0 0
  exact ⟨v, hget, hv ⟨by decide, by decide, by decide, by decide⟩⟩

end KoServer.Smd
