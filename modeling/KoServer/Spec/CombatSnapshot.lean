import Mathlib.Data.Fin.VecNotation
import KoServer.Lib.KeyedList
import KoServer.Spec.NpcBuy

/-! The combat snapshot of a session and the single lookups it replaces, of `world/combat.rs`. The
buffs are visited in the order of the hash map; a plain addition wraps around, as in a release
build, and `saturating_add` stops at the ends of `i32`. -/

namespace KoServer

/-- The fields of `ActiveBuff` that the snapshot reads. -/
structure CombatBuff where
  buffType : ℤ
  attack : ℤ
  ac : ℤ
  acPct : ℤ
  acSour : ℤ
  magicAttack : ℤ
  fireR : ℤ
  coldR : ℤ
  lightningR : ℤ
  magicR : ℤ
  diseaseR : ℤ
  poisonR : ℤ

structure EquippedStats where
  fireR : ℤ
  coldR : ℤ
  lightningR : ℤ
  magicR : ℤ
  diseaseR : ℤ
  poisonR : ℤ
  resistanceBonus : ℤ

structure CombatSession where
  equippedStats : EquippedStats
  buffs : KeyedList CombatBuff.buffType
  /-- The item ids of the slots. -/
  inventory : List ℕ
  blockPhysical : Bool
  daggerRAmount : UInt8
  bowRAmount : UInt8
  mirrorDamage : Bool
  mirrorDamageType : Bool
  mirrorAmount : UInt8
  perkLevels : List ℤ
  pctFireR : UInt8
  pctColdR : UInt8
  pctLightningR : UInt8
  pctMagicR : UInt8
  pctDiseaseR : UInt8
  pctPoisonR : UInt8

structure CombatSnapshot where
  equippedStats : EquippedStats
  attackAmount : ℤ
  playerAttackAmount : ℤ
  acAmount : ℤ
  acPct : ℤ
  acSour : ℤ
  blockPhysical : Bool
  daggerRAmount : UInt8
  bowRAmount : UInt8
  mirrorDamage : Bool
  mirrorDamageType : Bool
  mirrorAmount : UInt8
  rightHandItemId : ℕ
  leftHandItemId : ℕ
  perkLevels : List ℤ
  pctFireR : UInt8
  pctColdR : UInt8
  pctLightningR : UInt8
  pctMagicR : UInt8
  pctDiseaseR : UInt8
  pctPoisonR : UInt8
  buffElemR : Fin 7 → ℤ
  magicAttackAmount : ℤ

namespace CombatSnapshot

/-- `buff_elem_r.get(attribute)`, zero past the end. -/
def buffR (snap : CombatSnapshot) (attr : ℕ) : ℤ :=
  if h : attr < 7 then snap.buffElemR ⟨attr, h⟩ else 0

def totalResistance (snap : CombatSnapshot) (attr : ℕ) : ℤ :=
  let itemR := match attr with
    | 1 => snap.equippedStats.fireR
    | 2 => snap.equippedStats.coldR
    | 3 => snap.equippedStats.lightningR
    | 4 => snap.equippedStats.magicR
    | 5 => snap.equippedStats.diseaseR
    | 6 => snap.equippedStats.poisonR
    | _ => 0
  let pct : ℤ := match attr with
    | 1 => snap.pctFireR.toNat
    | 2 => snap.pctColdR.toNat
    | 3 => snap.pctLightningR.toNat
    | 4 => snap.pctMagicR.toNat
    | 5 => snap.pctDiseaseR.toNat
    | 6 => snap.pctPoisonR.toNat
    | _ => 100
  asI32 ((asI32 (asI32 (itemR + snap.buffR attr) * pct)).tdiv 100 +
    (asI32 (snap.equippedStats.resistanceBonus * pct)).tdiv 100)

end CombatSnapshot

structure BuffSums where
  attackSum : ℤ
  playerAttackAmount : ℤ
  acAmount : ℤ
  acPctMod : ℤ
  acSour : ℤ
  magicAttackSum : ℤ
  elemRAdd : Fin 7 → ℤ

namespace BuffSums

def start : BuffSums where
  attackSum := 0
  playerAttackAmount := 100
  acAmount := 0
  acPctMod := 0
  acSour := 0
  magicAttackSum := 0
  elemRAdd := fun _ => 0

def visit (s : BuffSums) (b : CombatBuff) : BuffSums where
  attackSum :=
    if b.buffType ≠ 19 && b.attack ≠ 0 then asI32 (s.attackSum + asI32 (b.attack - 100))
    else s.attackSum
  playerAttackAmount :=
    if b.buffType = 19 && b.attack ≠ 0 then b.attack else s.playerAttackAmount
  acAmount := if b.buffType ≠ 14 then saturatingAddI32 s.acAmount b.ac else s.acAmount
  acPctMod :=
    if b.acPct ≠ 0 && b.buffType ≠ 14 then asI32 (s.acPctMod + asI32 (b.acPct - 100))
    else s.acPctMod
  acSour := saturatingAddI32 s.acSour b.acSour
  magicAttackSum :=
    if b.magicAttack ≠ 0 then asI32 (s.magicAttackSum + asI32 (b.magicAttack - 100))
    else s.magicAttackSum
  elemRAdd := ![s.elemRAdd 0,
    saturatingAddI32 (s.elemRAdd 1) b.fireR,
    saturatingAddI32 (s.elemRAdd 2) b.coldR,
    saturatingAddI32 (s.elemRAdd 3) b.lightningR,
    saturatingAddI32 (s.elemRAdd 4) b.magicR,
    saturatingAddI32 (s.elemRAdd 5) b.diseaseR,
    saturatingAddI32 (s.elemRAdd 6) b.poisonR]

end BuffSums

/-- The session of `sessions.get(&sid)` is given, here and in the lookups. -/
def snapshotCombat (o : Shuffle CombatBuff) (session : Option CombatSession) :
    Option CombatSnapshot :=
  session.map fun h =>
    let sums := (o.order h.buffs.entries).foldl BuffSums.visit BuffSums.start
    { equippedStats := h.equippedStats
      attackAmount := max (asI32 (100 + sums.attackSum)) 0
      playerAttackAmount := sums.playerAttackAmount
      acAmount := sums.acAmount
      acPct := asI32 (100 + sums.acPctMod)
      acSour := sums.acSour
      blockPhysical := h.blockPhysical
      daggerRAmount := h.daggerRAmount
      bowRAmount := h.bowRAmount
      mirrorDamage := h.mirrorDamage
      mirrorDamageType := h.mirrorDamageType
      mirrorAmount := h.mirrorAmount
      rightHandItemId := h.inventory[6]?.getD 0
      leftHandItemId := h.inventory[8]?.getD 0
      perkLevels := h.perkLevels
      pctFireR := h.pctFireR
      pctColdR := h.pctColdR
      pctLightningR := h.pctLightningR
      pctMagicR := h.pctMagicR
      pctDiseaseR := h.pctDiseaseR
      pctPoisonR := h.pctPoisonR
      buffElemR := sums.elemRAdd
      magicAttackAmount := sums.magicAttackSum }

/-- `buffs.values()` filtered and mapped, as each lookup folds it. -/
def CombatSession.values (h : CombatSession) (o : Shuffle CombatBuff) (keep : CombatBuff → Bool)
    (value : CombatBuff → ℤ) : List ℤ :=
  ((o.order h.buffs.entries).filter keep).map value

def getBuffAcAmount (o : Shuffle CombatBuff) (session : Option CombatSession) : ℤ :=
  (session.map fun h =>
    (h.values o (fun b => b.buffType ≠ 14) fun b => b.ac).foldl saturatingAddI32 0).getD 0

def getBuffAcPct (o : Shuffle CombatBuff) (session : Option CombatSession) : ℤ :=
  let modifier := (session.map fun h =>
    (h.values o (fun b => b.acPct ≠ 0 && b.buffType ≠ 14) fun b => asI32 (b.acPct - 100)).foldl
      saturatingAddI32 0).getD 0
  asI32 (100 + modifier)

def getBuffAcSourAmount (o : Shuffle CombatBuff) (session : Option CombatSession) : ℤ :=
  (session.map fun h =>
    (h.values o (fun _ => true) fun b => b.acSour).foldl saturatingAddI32 0).getD 0

def getBuffMagicAttackAmount (o : Shuffle CombatBuff) (session : Option CombatSession) : ℤ :=
  (session.map fun h =>
    (h.values o (fun b => b.magicAttack ≠ 0) fun b => asI32 (b.magicAttack - 100)).foldl
      saturatingAddI32 0).getD 0

def getBuffAttackAmount (o : Shuffle CombatBuff) (session : Option CombatSession) : ℤ :=
  let buffSum := (session.map fun h =>
    (h.values o (fun b => b.buffType ≠ 19 && b.attack ≠ 0) fun b => asI32 (b.attack - 100)).foldl
      saturatingAddI32 0).getD 0
  max (asI32 (100 + buffSum)) 0

def CombatBuff.elemental (b : CombatBuff) (attr : ℕ) : ℤ :=
  match attr with
  | 1 => b.fireR
  | 2 => b.coldR
  | 3 => b.lightningR
  | 4 => b.magicR
  | 5 => b.diseaseR
  | 6 => b.poisonR
  | _ => 0

def getBuffElementalResistance (o : Shuffle CombatBuff) (session : Option CombatSession)
    (attr : ℕ) : ℤ :=
  (session.map fun h =>
    (h.values o (fun _ => true) fun b => b.elemental attr).foldl saturatingAddI32 0).getD 0

def getBuffPlayerAttackAmount (o : Shuffle CombatBuff) (session : Option CombatSession) : ℤ :=
  (session.map fun h =>
    (((o.order h.buffs.entries).find? fun b => b.buffType = 19 && b.attack ≠ 0).map
      fun b => b.attack).getD 100).getD 100

end KoServer
