import KoServer.Spec.Inventory
import KoServer.Spec.Packet

/-! `handler/item_move.rs`. The checks come in three rounds, each with its own failure exit:
`handle` (the state of the player), `handleInventorySystem` (the request against the item
table and the slots), and the closure under the session's lock. -/

namespace KoServer

inductive ItemMoveDir
  | invenSlot | slotInven | invenInven | slotSlot | invenToCosp | cospToInven | invenToMbag
  | mbagToInven | mbagToMbag | invenToPet | petToInven | slotInvenToMbag
  deriving DecidableEq

def ItemMoveDir.fromU8 : ℕ → Option ItemMoveDir
  | 1 => some invenSlot
  | 2 => some slotInven
  | 3 => some invenInven
  | 4 => some slotSlot
  | 7 => some invenToCosp
  | 8 => some cospToInven
  | 9 => some invenToMbag
  | 10 => some mbagToInven
  | 11 => some mbagToMbag
  | 12 => some invenToPet
  | 13 => some petToInven
  | 14 => some slotInvenToMbag
  | _ => none

def ITEM_SLOT_EITHER_HAND : ℤ := 0
def ITEM_SLOT_1H_RIGHT : ℤ := 1
def ITEM_SLOT_1H_LEFT : ℤ := 2
def ITEM_SLOT_2H_RIGHT : ℤ := 3
def ITEM_SLOT_2H_LEFT : ℤ := 4
def ITEM_SLOT_PAULDRON : ℤ := 5
def ITEM_SLOT_PADS : ℤ := 6
def ITEM_SLOT_HELMET : ℤ := 7
def ITEM_SLOT_GLOVES : ℤ := 8
def ITEM_SLOT_BOOTS : ℤ := 9
def ITEM_SLOT_EARRING : ℤ := 10
def ITEM_SLOT_NECKLACE : ℤ := 11
def ITEM_SLOT_RING : ℤ := 12
def ITEM_SLOT_SHOULDER : ℤ := 13
def ITEM_SLOT_BELT : ℤ := 14
def ITEM_SLOT_KAUL : ℤ := 20
def ITEM_SLOT_BAG : ℤ := 25
def ITEM_SLOT_COSP_GLOVES : ℤ := 100
def ITEM_SLOT_COSP_PAULDRON : ℤ := 105
def ITEM_SLOT_COSP_HELMET : ℤ := 107
def ITEM_SLOT_COSP_WINGS : ℤ := 110
def ITEM_SLOT_COSP_FAIRY : ℤ := 111
def ITEM_SLOT_COSP_TATTOO : ℤ := 112
def ITEM_SLOT_COSP_TALISMAN : ℤ := 113
def ITEM_SLOT_COSP_EMBLEM0 : ℤ := 114
def ITEM_SLOT_COSP_EMBLEM1 : ℤ := 115

def MBAG_TOTAL : ℕ := MBAG_MAX * MBAG_COUNT
def INVENTORY_MBAG2 : ℕ := INVENTORY_MBAG + MBAG_MAX
def INVENTORY_MBAG3 : ℕ := INVENTORY_MBAG2 + MBAG_MAX

def CEMBLEM : ℕ := 47
def CFAIRY : ℕ := 48
def CTATTOO : ℕ := 49
def CTALISMAN : ℕ := 50
def CBAG1 : ℕ := 51
def CBAG2 : ℕ := 52
def CBAG3 : ℕ := INVENTORY_TOTAL

def COSP_WINGS : ℕ := 0
def COSP_HELMET : ℕ := 1
def COSP_GLOVE : ℕ := 2
def COSP_GLOVE2 : ℕ := 3
def COSP_BREAST : ℕ := 4
def COSP_EMBLAM : ℕ := 5
def COSP_BAG1 : ℕ := 6
def COSP_FAIRY : ℕ := 7
def COSP_TATTO : ℕ := 8
def COSP_TALISMAN : ℕ := 9
def COSP_BAG2 : ℕ := 10

def ITEM_OREADS : ℕ := 700039768
def ROBIN_LOOT_ITEM : ℕ := 950680000
def ROBIN_LOOT_ITEM2 : ℕ := 850680000
def MINING_ROBIN_ITEM : ℕ := 510000000
def FISHING_ROBIN_ITEM : ℕ := 520000000
def ZONE_CHAOS_DUNGEON : ℕ := 85

def isRobinLootItem (itemId : ℕ) : Bool :=
  itemId ∈ [ROBIN_LOOT_ITEM, ROBIN_LOOT_ITEM2, MINING_ROBIN_ITEM, FISHING_ROBIN_ITEM]

def isValidCospSlotPos (item : Item) (destPos : ℕ) : Bool :=
  let slot := item.slot.getD (-1)
  if slot = ITEM_SLOT_COSP_GLOVES then destPos = COSP_GLOVE || destPos = COSP_GLOVE2
  else if slot = ITEM_SLOT_COSP_PAULDRON then destPos = COSP_BREAST
  else if slot = ITEM_SLOT_COSP_HELMET then destPos = COSP_HELMET
  else if slot = ITEM_SLOT_COSP_WINGS then destPos = COSP_WINGS
  else if slot = ITEM_SLOT_BAG then
    destPos = COSP_BAG1 + 3 || destPos = COSP_BAG2 || destPos = COSP_BAG2 + 1
  else if slot = ITEM_SLOT_COSP_FAIRY then destPos = COSP_FAIRY
  else if slot = ITEM_SLOT_COSP_TATTOO then destPos = COSP_TATTO
  else if slot = ITEM_SLOT_COSP_TALISMAN then destPos = COSP_TALISMAN
  else if slot = ITEM_SLOT_COSP_EMBLEM0 || slot = ITEM_SLOT_COSP_EMBLEM1 then
    destPos = COSP_EMBLAM
  else false

def cospPosToAbsIndex (pos : ℕ) : Option ℕ :=
  if pos = COSP_EMBLAM then some CEMBLEM
  else if pos = COSP_BAG1 then some CBAG1
  else if pos = COSP_BAG2 then some CBAG2
  else if pos = 11 then some CBAG3
  else if pos = COSP_FAIRY then some CFAIRY
  else if pos = COSP_TATTO then some CTATTOO
  else if pos = COSP_TALISMAN then some CTALISMAN
  else if pos ≤ 4 then some (INVENTORY_COSP + pos)
  else none

def isValidSlotPos (item : Item) (destPos : ℕ) : Bool :=
  let slot := item.slot.getD (-1)
  if slot = ITEM_SLOT_EITHER_HAND then destPos = RIGHTHAND || destPos = LEFTHAND
  else if slot = ITEM_SLOT_1H_RIGHT then destPos = RIGHTHAND
  else if slot = ITEM_SLOT_1H_LEFT then destPos = LEFTHAND
  else if slot = ITEM_SLOT_2H_RIGHT then destPos = RIGHTHAND
  else if slot = ITEM_SLOT_2H_LEFT then destPos = LEFTHAND
  else if slot = ITEM_SLOT_PAULDRON then destPos = BREAST
  else if slot = ITEM_SLOT_PADS then destPos = LEG
  else if slot = ITEM_SLOT_HELMET then destPos = HEAD
  else if slot = ITEM_SLOT_GLOVES then destPos = GLOVE
  else if slot = ITEM_SLOT_BOOTS then destPos = FOOT
  else if slot = ITEM_SLOT_EARRING then destPos = RIGHTEAR || destPos = LEFTEAR
  else if slot = ITEM_SLOT_NECKLACE then destPos = NECK
  else if slot = ITEM_SLOT_RING then destPos = RIGHTRING || destPos = LEFTRING
  else if slot = ITEM_SLOT_SHOULDER || slot = ITEM_SLOT_KAUL then destPos = SHOULDER
  else if slot = ITEM_SLOT_BELT then destPos = WAIST
  else false

structure CharacterInfo where
  classId : ℕ
  level : ℕ
  str : ℕ
  sta : ℕ
  dex : ℕ
  intel : ℕ
  cha : ℕ

def itemClassAvailable (item : Item) (playerClass : ℕ) : Bool :=
  let classBase := playerClass % 100
  match item.classId.getD 0 with
  | 0 => true
  | 1 => classBase ∈ [1, 5, 6, 13, 14, 15]
  | 2 => classBase ∈ [2, 7, 8]
  | 3 => classBase ∈ [3, 9, 10]
  | 4 => classBase ∈ [4, 11, 12]
  | 5 => classBase ∈ [5, 6, 14, 15]
  | 6 => classBase ∈ [6, 15]
  | 7 => classBase ∈ [7, 8]
  | 8 => classBase = 8
  | 9 => classBase ∈ [9, 10]
  | 10 => classBase = 10
  | 11 => classBase ∈ [11, 12]
  | 12 => classBase = 12
  | 13 => classBase ∈ [13, 14, 15]
  | 14 => classBase ∈ [14, 15]
  | 15 => classBase = 15
  | _ => true

/-- An `as u8` of an `i32`. -/
def asU8 (n : ℤ) : ℕ := (n % 256).toNat

def itemEquipAvailable (item : Item) (ch : CharacterInfo) : Bool :=
  asU8 (item.reqLevel.getD 0) ≤ ch.level &&
  ch.level ≤ asU8 (item.reqLevelMax.getD 255) &&
  asU8 (item.reqStr.getD 0) ≤ ch.str &&
  asU8 (item.reqSta.getD 0) ≤ ch.sta &&
  asU8 (item.reqDex.getD 0) ≤ ch.dex &&
  asU8 (item.reqIntel.getD 0) ≤ ch.intel &&
  asU8 (item.reqCha.getD 0) ≤ ch.cha

def isWeaponItem (item : Item) : Bool :=
  item.kindD ∈ [11, 21, 22, 31, 32, 41, 42, 51, 52, 60, 61, 70, 71, 110, 140, 151, 181]

/-- Swap two slots, or move if the destination is empty. -/
def swapItems (inv : Inventory) (srcIdx dstIdx : ℕ) : Inventory :=
  if (inv.slot dstIdx).itemId ≠ 0 then inv.swap srcIdx dstIdx
  else (inv.set dstIdx (inv.slot srcIdx)).set srcIdx {}

/-- A weapon goes on, and what the other hand holds comes off to the source slot. -/
def equipForcingOff (inv : Inventory) (srcIdx dstIdx otherHand : ℕ) : Inventory :=
  ((inv.set dstIdx (inv.slot srcIdx)).set srcIdx (inv.slot otherHand)).set otherHand {}

def twoHandCheck1hRight (inv : Inventory) (srcIdx dstIdx : ℕ) (lhItemSlotType : Option ℤ) :
    Inventory :=
  if (inv.slot LEFTHAND).itemId ≠ 0 then
    if lhItemSlotType = some ITEM_SLOT_2H_LEFT then equipForcingOff inv srcIdx dstIdx LEFTHAND
    else swapItems inv srcIdx dstIdx
  else swapItems inv srcIdx dstIdx

def twoHandCheck1hLeft (inv : Inventory) (srcIdx dstIdx : ℕ) (rhItemSlotType : Option ℤ) :
    Inventory :=
  if (inv.slot RIGHTHAND).itemId ≠ 0 then
    if rhItemSlotType = some ITEM_SLOT_2H_RIGHT then equipForcingOff inv srcIdx dstIdx RIGHTHAND
    else swapItems inv srcIdx dstIdx
  else swapItems inv srcIdx dstIdx

def handleTwoHandedEquip (inv : Inventory) (srcIdx dstIdx : ℕ) (itemSlotType : ℤ)
    (rhItemSlotType lhItemSlotType : Option ℤ) : Option Inventory :=
  if itemSlotType = ITEM_SLOT_1H_RIGHT then
    some (twoHandCheck1hRight inv srcIdx dstIdx lhItemSlotType)
  else if itemSlotType = ITEM_SLOT_EITHER_HAND ∧ dstIdx = RIGHTHAND then
    some (twoHandCheck1hRight inv srcIdx dstIdx lhItemSlotType)
  else if itemSlotType = ITEM_SLOT_1H_LEFT then
    some (twoHandCheck1hLeft inv srcIdx dstIdx rhItemSlotType)
  else if itemSlotType = ITEM_SLOT_EITHER_HAND ∧ dstIdx = LEFTHAND then
    some (twoHandCheck1hLeft inv srcIdx dstIdx rhItemSlotType)
  else if itemSlotType = ITEM_SLOT_2H_RIGHT then
    if (inv.slot LEFTHAND).itemId ≠ 0 ∧ (inv.slot RIGHTHAND).itemId ≠ 0 then none
    else if (inv.slot LEFTHAND).itemId ≠ 0 then
      some (equipForcingOff inv srcIdx RIGHTHAND LEFTHAND)
    else some (swapItems inv srcIdx dstIdx)
  else if itemSlotType = ITEM_SLOT_2H_LEFT then
    if (inv.slot LEFTHAND).itemId ≠ 0 ∧ (inv.slot RIGHTHAND).itemId ≠ 0 then none
    else if (inv.slot RIGHTHAND).itemId ≠ 0 then
      some (equipForcingOff inv srcIdx LEFTHAND RIGHTHAND)
    else some (swapItems inv srcIdx dstIdx)
  else some (swapItems inv srcIdx dstIdx)

structure MoveRequest where
  dir : ItemMoveDir
  itemId : ℕ
  srcPos : ℕ
  dstPos : ℕ

/-- Only a `countable` of exactly 1 merges. -/
def mergesStacks (table : ItemTable) (itemId : ℕ) : Bool :=
  ((table itemId).bind Item.countable).getD 0 = 1

def saturatingAdd16 (a b : ℕ) : ℕ := min (a + b) 65535

/-- The magic bag of a slot is there: bags 1 and 2 need their cospre item, bag 3 does not. -/
def mbagPresent (inv : Inventory) (dstIdx : ℕ) : Bool :=
  !(dstIdx < INVENTORY_MBAG2 && (inv.slot CBAG1).itemId = 0) &&
  !(INVENTORY_MBAG2 ≤ dstIdx && dstIdx < INVENTORY_MBAG3 && (inv.slot CBAG2).itemId = 0)

/-- Onto the destination stack, whose other fields stay. -/
def mergeKeepingDst (inv : Inventory) (srcIdx dstIdx : ℕ) : Inventory :=
  let newCount := saturatingAdd16 (inv.slot dstIdx).count (inv.slot srcIdx).count
  (inv.set dstIdx { inv.slot dstIdx with count := min newCount ITEMCOUNT_MAX }).set srcIdx {}

/-- Onto the destination slot, which takes over the source's other fields. -/
def mergeTakingSrc (inv : Inventory) (srcIdx dstIdx : ℕ) : Inventory :=
  let newCount := saturatingAdd16 (inv.slot srcIdx).count (inv.slot dstIdx).count
  (inv.set dstIdx { inv.slot srcIdx with count := min newCount ITEMCOUNT_MAX }).set srcIdx {}

/-- The closure under the session's lock; `none` is `false`. The pet directions have their
own. -/
def moveInInventory (table : ItemTable) (itemSlotType : ℤ)
    (rhItemSlotType lhItemSlotType : Option ℤ) (req : MoveRequest) (inv : Inventory) :
    Option Inventory :=
  let src := req.srcPos
  let dst := req.dstPos
  let itemId := req.itemId
  match req.dir with
  | .invenSlot =>
    if INVENTORY_TOTAL ≤ SLOT_MAX + src ∨ SLOT_MAX ≤ dst then none
    else if (inv.slot (SLOT_MAX + src)).itemId ≠ itemId then none
    else handleTwoHandedEquip inv (SLOT_MAX + src) dst itemSlotType rhItemSlotType lhItemSlotType
  | .slotInven =>
    if SLOT_MAX ≤ src ∨ INVENTORY_TOTAL ≤ SLOT_MAX + dst then none
    else if (inv.slot src).itemId ≠ itemId then none
    else some (swapItems inv src (SLOT_MAX + dst))
  | .invenInven =>
    if HAVE_MAX ≤ src ∨ HAVE_MAX ≤ dst ∨ INVENTORY_TOTAL ≤ SLOT_MAX + src ∨
        INVENTORY_TOTAL ≤ SLOT_MAX + dst then none
    else if (inv.slot (SLOT_MAX + src)).itemId ≠ itemId then none
    else if mergesStacks table itemId ∧ (inv.slot (SLOT_MAX + dst)).itemId = itemId ∧
        (inv.slot (SLOT_MAX + dst)).itemId ≠ 0 then
      some (mergeKeepingDst inv (SLOT_MAX + src) (SLOT_MAX + dst))
    else some (swapItems inv (SLOT_MAX + src) (SLOT_MAX + dst))
  | .slotSlot =>
    if SLOT_MAX ≤ src ∨ SLOT_MAX ≤ dst then none
    else if (inv.slot src).itemId ≠ itemId then none
    else some (inv.swap src dst)
  | .invenToCosp =>
    if INVENTORY_TOTAL ≤ SLOT_MAX + src ∨ (inv.slot (SLOT_MAX + src)).itemId ≠ itemId then none
    else if itemSlotType = ITEM_SLOT_BAG then
      let bagIdx := INVENTORY_COSP + dst
      let bagIdx := if bagIdx = INVENTORY_MBAG then CBAG3 else bagIdx
      if bagIdx ≠ CBAG1 ∧ bagIdx ≠ CBAG2 ∧ bagIdx ≠ CBAG3 then none
      else if inv.length ≤ bagIdx ∨ (inv.slot bagIdx).itemId ≠ 0 then none
      else some (swapItems inv (SLOT_MAX + src) bagIdx)
    else match cospPosToAbsIndex dst with
      | some idx => if idx < inv.length then some (swapItems inv (SLOT_MAX + src) idx) else none
      | none => none
  | .cospToInven =>
    if INVENTORY_TOTAL ≤ SLOT_MAX + dst then none
    else match cospPosToAbsIndex src with
      | some idx =>
        if inv.length ≤ idx then none
        else if (inv.slot idx).itemId ≠ itemId then none
        else some (swapItems inv idx (SLOT_MAX + dst))
      | none => none
  | .invenToMbag =>
    if MBAG_TOTAL ≤ dst ∨ HAVE_MAX ≤ src then none
    else if INVENTORY_TOTAL ≤ SLOT_MAX + src ∨ INVENTORY_TOTAL ≤ INVENTORY_MBAG + dst then none
    else if !mbagPresent inv (INVENTORY_MBAG + dst) then none
    else if (inv.slot (SLOT_MAX + src)).itemId ≠ itemId then none
    else if (inv.slot (INVENTORY_MBAG + dst)).itemId ≠ 0 ∧
        (mergesStacks table itemId ∨ ((table itemId).bind Item.kind).getD 0 = ITEM_KIND_UNIQUE) ∧
        (inv.slot (INVENTORY_MBAG + dst)).itemId ≠ itemId then none
    else if (inv.slot (INVENTORY_MBAG + dst)).itemId = itemId ∧ mergesStacks table itemId then
      some (mergeTakingSrc inv (SLOT_MAX + src) (INVENTORY_MBAG + dst))
    else some (swapItems inv (SLOT_MAX + src) (INVENTORY_MBAG + dst))
  | .mbagToInven =>
    if HAVE_MAX ≤ dst ∨ MBAG_TOTAL ≤ src then none
    else if INVENTORY_TOTAL ≤ INVENTORY_MBAG + src ∨ INVENTORY_TOTAL ≤ SLOT_MAX + dst then none
    else if (inv.slot (INVENTORY_MBAG + src)).itemId ≠ itemId then none
    else some (swapItems inv (INVENTORY_MBAG + src) (SLOT_MAX + dst))
  | .mbagToMbag =>
    if MBAG_TOTAL ≤ dst ∨ MBAG_TOTAL ≤ src then none
    else if INVENTORY_TOTAL ≤ INVENTORY_MBAG + src ∨ INVENTORY_TOTAL ≤ INVENTORY_MBAG + dst then
      none
    else if !mbagPresent inv (INVENTORY_MBAG + dst) then none
    else if (inv.slot (INVENTORY_MBAG + src)).itemId ≠ itemId then none
    else if (inv.slot (INVENTORY_MBAG + dst)).itemId = itemId ∧ mergesStacks table itemId then
      some (mergeTakingSrc inv (INVENTORY_MBAG + src) (INVENTORY_MBAG + dst))
    else some (swapItems inv (INVENTORY_MBAG + src) (INVENTORY_MBAG + dst))
  | .slotInvenToMbag =>
    let dstIdx := if dst = 3 then CBAG3 else INVENTORY_COSP + dst + 8
    if INVENTORY_TOTAL ≤ SLOT_MAX + src then none
    else if inv.length ≤ dstIdx then none
    else if (inv.slot (SLOT_MAX + src)).itemId ≠ itemId then none
    else if (inv.slot dstIdx).itemId ≠ 0 ∨ itemSlotType ≠ ITEM_SLOT_BAG then none
    else some (swapItems inv (SLOT_MAX + src) dstIdx)
  | .invenToPet | .petToInven => none

/-- A pet carries four slots. -/
structure PetState where
  items : List UserItemSlot
  items_length : items.length = PET_INVENTORY_TOTAL

def PetState.set (pet : PetState) (i : ℕ) (s : UserItemSlot) : PetState :=
  ⟨pet.items.set i s, by rw [List.length_set, pet.items_length]⟩

/-- The closure of the two pet directions: always a swap when the destination is occupied. -/
def moveWithPet (req : MoveRequest) (inv : Inventory) (pet : PetState) :
    Option (Inventory × PetState) :=
  match req.dir with
  | .invenToPet =>
    let srcIdx := SLOT_MAX + req.srcPos
    let dstIdx := req.dstPos
    if inv.length ≤ srcIdx ∨ (inv.slot srcIdx).itemId ≠ req.itemId then none
    else if ((pet.items.getD dstIdx {}).itemId) ≠ 0 then
      some (inv.set srcIdx (pet.items.getD dstIdx {}), pet.set dstIdx (inv.slot srcIdx))
    else some (inv.set srcIdx {}, pet.set dstIdx (inv.slot srcIdx))
  | .petToInven =>
    let srcIdx := req.srcPos
    let dstIdx := SLOT_MAX + req.dstPos
    if inv.length ≤ dstIdx ∨ (pet.items.getD srcIdx {}).itemId ≠ req.itemId then none
    else if (inv.slot dstIdx).itemId ≠ 0 then
      some (inv.set dstIdx (pet.items.getD srcIdx {}), pet.set srcIdx (inv.slot dstIdx))
    else some (inv.set dstIdx (pet.items.getD srcIdx {}), pet.set srcIdx {})
  | _ => none

/-- What the handler reads of the player and does not change. -/
structure MoveContext where
  table : ItemTable
  inGame : Bool
  dead : Bool
  trading : Bool
  merchanting : Bool
  mining : Bool
  fishing : Bool
  browsingMerchant : Bool
  zoneId : ℕ
  character : Option CharacterInfo

structure MoveSession where
  inventory : Inventory
  petData : Option PetState
  equippedItems : List ℕ
  fairyCheck : Bool
  autoLoot : Bool

inductive MoveResult
  | ignored | failed | moved | refreshed
  deriving DecidableEq

/-- An item stands where a swap would send it, and may not go to where the other came from. -/
def swapBackRefused (table : ItemTable) (inv : Inventory) (dstIdx : ℕ)
    (unfit : Item → Bool) : Bool :=
  match inv[dstIdx]? with
  | none => false
  | some dstSlot =>
    dstSlot.itemId ≠ 0 &&
      match table dstSlot.itemId with
      | none => true
      | some dstItemDef => unfit dstItemDef

def handItemSlotType (table : ItemTable) (inv : Inventory) (hand : ℕ) : Option ℤ :=
  match inv[hand]? with
  | none => none
  | some s => if s.itemId ≠ 0 then (table s.itemId).bind Item.slot else none

/-- The checks between parsing and the closure, in the order of the source. -/
def moveRefused (ctx : MoveContext) (s : MoveSession) (req : MoveRequest) (item : Item) : Bool :=
  let src := req.srcPos
  let dst := req.dstPos
  let itemSlotType := item.slot.getD (-1)
  (req.dir = .invenSlot || req.dir = .slotSlot) &&
    (SLOT_MAX ≤ dst || !isValidSlotPos item dst ||
      match ctx.character with
      | none => false
      | some ch => !itemClassAvailable item ch.classId || !itemEquipAvailable item ch) ||
  req.dir = .slotInven && (SLOT_MAX ≤ src || HAVE_MAX ≤ dst) ||
  req.dir = .invenSlot && HAVE_MAX ≤ src ||
  req.dir = .invenSlot && (s.inventory.slot (SLOT_MAX + src)).flag = ITEM_FLAG_DUPLICATE ||
  req.dir = .invenSlot && dst = SHOULDER && item.kindD = ITEM_KIND_PET && s.petData.isSome ||
  req.dir = .invenSlot &&
    dst ∈ [RIGHTEAR, HEAD, LEFTEAR, NECK, BREAST, WAIST, RIGHTRING, LEG, LEFTRING, GLOVE, FOOT] &&
    item.kindD ≠ ITEM_KIND_PET && isWeaponItem item ||
  req.dir = .slotInven && swapBackRefused ctx.table s.inventory (SLOT_MAX + dst)
    (fun d => d.slot.getD (-1) ≠ itemSlotType || !isValidSlotPos d src) ||
  req.dir = .slotSlot && swapBackRefused ctx.table s.inventory dst
    (fun d => d.slot.getD (-1) ≠ itemSlotType) ||
  req.dir = .invenToCosp &&
    (COSP_MAX + MBAG_COUNT ≤ dst || HAVE_MAX ≤ src || !isValidCospSlotPos item dst) ||
  req.dir = .cospToInven &&
    (HAVE_MAX ≤ dst || COSP_MAX ≤ src || src = COSP_BAG1 || src = COSP_BAG2 ||
      swapBackRefused ctx.table s.inventory (SLOT_MAX + dst)
        (fun d => d.slot.getD (-1) ≠ itemSlotType || !isValidCospSlotPos d src)) ||
  req.dir = .slotInvenToMbag &&
    (COSP_MAX + MBAG_COUNT ≤ dst || HAVE_MAX ≤ src || !isValidCospSlotPos item (dst + 8)) ||
  req.dir = .invenToPet && (HAVE_MAX ≤ src || PET_INVENTORY_TOTAL ≤ dst) ||
  req.dir = .petToInven && (PET_INVENTORY_TOTAL ≤ src || HAVE_MAX ≤ dst)

/-- `update_inventory_and_pet` and what follows it. Without a pet the closure does not run. -/
def movePet (s : MoveSession) (req : MoveRequest) : MoveResult × MoveSession :=
  match s.petData with
  | none => (.failed, s)
  | some pet =>
    match moveWithPet req s.inventory.padded pet with
    | none => (.failed, { s with inventory := s.inventory.padded })
    | some (inv, pet) => (.moved, { s with inventory := inv, petData := some pet })

def noteEquipment (req : MoveRequest) (s : MoveSession) : MoveSession :=
  let equipmentChange := req.dir ∈
    [ItemMoveDir.invenSlot, .slotInven, .slotSlot, .invenToCosp, .cospToInven]
  { s with
    equippedItems :=
      if equipmentChange then (s.inventory.take 14).map UserItemSlot.itemId else s.equippedItems
    fairyCheck :=
      if req.dir = .invenToCosp ∧ req.dstPos = COSP_FAIRY ∧ req.itemId = ITEM_OREADS then true
      else if req.dir = .cospToInven ∧ req.srcPos = COSP_FAIRY ∧ req.itemId = ITEM_OREADS then
        false
      else s.fairyCheck
    autoLoot :=
      if req.dir = .invenSlot ∧ req.dstPos = SHOULDER ∧ isRobinLootItem req.itemId then true
      else if req.dir = .slotInven ∧ req.srcPos = SHOULDER ∧ isRobinLootItem req.itemId then false
      else s.autoLoot }

def performMove (ctx : MoveContext) (s : MoveSession) (req : MoveRequest) :
    MoveResult × MoveSession :=
  match ctx.table req.itemId with
  | none => (.failed, s)
  | some item =>
    if moveRefused ctx s req item then (.failed, s)
    else if req.dir = .invenToPet ∨ req.dir = .petToInven then movePet s req
    else
      match moveInInventory ctx.table (item.slot.getD (-1))
          (handItemSlotType ctx.table s.inventory RIGHTHAND)
          (handItemSlotType ctx.table s.inventory LEFTHAND) req s.inventory.padded with
      | none => (.failed, { s with inventory := s.inventory.padded })
      | some inv => (.moved, noteEquipment req { s with inventory := inv })

def handleInventorySystem (ctx : MoveContext) (s : MoveSession) (reader : PacketReader) :
    MoveResult × MoveSession :=
  let (dirByte, reader) := reader.readU8D
  let (itemId, reader) := reader.readU32D
  let (srcPos, reader) := reader.readU8D
  let (dstPos, _) := reader.readU8D
  match ItemMoveDir.fromU8 dirByte with
  | none => (.failed, s)
  | some dir => performMove ctx s ⟨dir, itemId, srcPos, dstPos⟩

/-- The bag, sorted by item id, largest first. -/
def handleInventoryRefresh (s : MoveSession) : MoveResult × MoveSession :=
  let inv := s.inventory.padded
  let bag := (inv.drop SLOT_MAX).take HAVE_MAX
  let sorted := bag.mergeSort fun a b => b.itemId ≤ a.itemId
  (.refreshed,
    { s with inventory := inv.take SLOT_MAX ++ sorted ++ inv.drop (SLOT_MAX + HAVE_MAX) })

def handleItemMove (ctx : MoveContext) (s : MoveSession) (data : List UInt8) :
    MoveResult × MoveSession :=
  if !ctx.inGame || ctx.dead then (.ignored, s)
  else if ctx.trading || ctx.merchanting || ctx.mining || ctx.fishing || ctx.browsingMerchant then
    (.failed, s)
  else if ctx.zoneId = ZONE_CHAOS_DUNGEON then (.failed, s)
  else
    let (moveType, reader) := (PacketReader.new data).readU8D
    match moveType with
    | 1 => handleInventorySystem ctx s reader
    | 2 => handleInventoryRefresh s
    | _ => (.failed, s)

end KoServer
