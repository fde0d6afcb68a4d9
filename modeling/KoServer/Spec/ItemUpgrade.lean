import KoServer.Spec.Merchant
import KoServer.Spec.NpcTrade

/-! The upgrade of an item at an anvil, from `handler/item_upgrade.rs`. A request names ten
items with their slots; the handler keeps the ten ids and, in a list of its own, the entries
whose slot is one of the bag. -/

namespace KoServer

def ITEM_TRINA : ℕ := 700002000
def ITEM_KARIVDIS : ℕ := 379258000
def ITEM_LOW_CLASS_TRINA : ℕ := 353000000
def ITEM_MIDDLE_CLASS_TRINA : ℕ := 352900000
def ITEM_BLESSING_LOGOS : ℕ := 890092000
def ITEM_RING_TRINA : ℕ := 354000000

def UPGRADE_DELAY : ℕ := 2
def MAX_ITEMS_REQ : ℕ := 8

def ITEM_UPGRADE : ℕ := 2
def ITEM_ACCESSORIES : ℕ := 3
def ITEM_UPGRADE_REBIRTH : ℕ := 7

def UPGRADE_TYPE_NORMAL : ℕ := 1
def UPGRADE_TYPE_PREVIEW : ℕ := 2

inductive UpgradeResult
  | failed
  | succeeded
  | trading
  | needCoins
  | noMatch
  | rental
  deriving DecidableEq

inductive ScrollType
  | invalid
  | lowClass
  | middleClass
  | highClass
  | rebirth
  | class_
  | highToRebirth
  | accessories
  deriving DecidableEq

structure UpgradeItem where
  itemId : ℕ
  slot : ℕ
  deriving DecidableEq

def lowClassScrolls : List ℕ :=
  [379221000, 379222000, 379223000, 379224000, 379225000, 379226000, 379227000, 379228000,
    379229000, 379230000, 379231000, 379232000, 379233000, 379234000, 379235000, 379255000]

def middleClassScrolls : List ℕ :=
  [379205000, 379206000, 379208000, 379209000, 379210000, 379211000, 379212000, 379213000,
    379214000, 379215000, 379216000, 379217000, 379218000, 379219000, 379220000]

def highClassScrolls : List ℕ :=
  [379021000, 379022000, 379023000, 379024000, 379025000, 379030000, 379031000, 379032000,
    379033000, 379034000, 379035000, 379138000, 379139000, 379140000, 379141000, 379016000,
    379020000, 379018000, 379019000]

def accessoryScrolls : List ℕ :=
  [379159000, 379160000, 379161000, 379162000, 379163000, 379164000]

def getScrollType (scrollId : ℕ) : ScrollType :=
  if scrollId ∈ lowClassScrolls then .lowClass
  else if scrollId ∈ middleClassScrolls then .middleClass
  else if scrollId ∈ highClassScrolls then .highClass
  else if scrollId = 379256000 then .highToRebirth
  else if scrollId = 379257000 then .rebirth
  else if scrollId ∈ accessoryScrolls then .accessories
  else if scrollId = 379152000 then .class_
  else .invalid

def countInItems (items : List UpgradeItem) (itemId : ℕ) : ℕ :=
  items.countP fun i => i.itemId = itemId

def isScrollCompatible (itemClass userScroll : ScrollType) : Bool :=
  match itemClass with
  | .lowClass => userScroll ∈ [.lowClass, .middleClass, .highClass, .class_]
  | .middleClass => userScroll ∈ [.middleClass, .highClass, .class_]
  | .highClass => userScroll ∈ [.highClass, .highToRebirth, .class_]
  | .rebirth => userScroll ∈ [.rebirth, .highToRebirth, .highClass]
  | .accessories => userScroll = .accessories
  | .highToRebirth => userScroll ∈ [.highToRebirth, .highClass]
  | .invalid | .class_ => false

structure UpgradeProto where
  itemType : Option ℤ := none
  itemClass : Option ℤ := none
  byGrade : Option ℤ := none
  duration : Option ℤ := none

structure NewUpgradeRow where
  newNumber : ℤ
  reqItem : ℤ
  deriving DecidableEq

structure ItemUpgradeSettingsRow where
  reqItemId1 : ℤ
  reqItemId2 : ℤ
  itemType : ℤ
  itemGrade : ℤ
  itemReqCoins : ℤ
  successRate : ℤ
  deriving DecidableEq

structure UpgradeServerSettings where
  userMaxUpgrade : ℤ
  maxBlessingUp : ℤ
  maxBlessingUpReb : ℤ

structure UpgradeTables where
  getItem : ℕ → Option UpgradeProto
  getUpgradeRecipes : ℕ → Option (List NewUpgradeRow)
  /-- In the order of the map's iteration. -/
  upgradeSettings : List ItemUpgradeSettingsRow
  serverSettings : Option UpgradeServerSettings

def UpgradeTables.findUpgradeSetting (w : UpgradeTables) (itemType itemGrade reqItem1 reqItem2 : ℤ) :
    Option ItemUpgradeSettingsRow :=
  w.upgradeSettings.find? fun s =>
    s.itemType = itemType && (s.itemGrade = itemGrade || s.itemGrade = 99) &&
      (s.reqItemId1 = reqItem1 || s.reqItemId2 = reqItem1) &&
      (s.reqItemId1 = reqItem2 || s.reqItemId2 = reqItem2)

structure UpgradeEnv where
  isInNpcRange : ℕ → Bool
  isAnvil : ℕ → Bool
  isPlayerDead : Bool
  isTrading : Bool
  isStoreOpen : Bool
  isMerchanting : Bool
  isMining : Bool
  /-- Milliseconds. -/
  now : ℕ

structure UpgradeState where
  inventory : Inventory
  gold : ℕ
  upgradeCount : ℕ
  lastUpgradeTime : ℕ

/-- `read_u8().unwrap_or(0xff)`. -/
def readSlot (reader : PacketReader) : ℕ × PacketReader := reader.readU8.getD (0xff, reader)

/-- The ids with their slots, as the client sends them. -/
def readRawItems : ℕ → PacketReader → List (ℕ × ℕ)
  | 0, _ => []
  | n + 1, reader =>
    let (itemId, reader) := reader.readU32D
    let (slot, reader) := readSlot reader
    (itemId, slot) :: readRawItems n reader

def rawItem (raw : List (ℕ × ℕ)) (i : ℕ) : ℕ := (raw.getD i (0, 0xff)).1

/-- The entries with an id above 0 as an `i32` and a slot of the bag. -/
def listItems (raw : List (ℕ × ℕ)) : List UpgradeItem :=
  raw.filterMap fun (itemId, slot) =>
    if 0 < itemId ∧ itemId < 2 ^ 31 ∧ slot < HAVE_MAX then some ⟨itemId, slot⟩ else none

def UpgradeItem.actualIdx (item : UpgradeItem) : ℕ := SLOT_MAX + item.slot

def refuseItem (inv : Inventory) (item : UpgradeItem) : Option UpgradeResult :=
  match inv[item.actualIdx]? with
  | none => some .noMatch
  | some invSlot =>
    if invSlot.itemId ≠ item.itemId ∨ invSlot.itemId = 0 then some .noMatch
    else if invSlot.flag = ITEM_FLAG_BOUND ∨ invSlot.flag = ITEM_FLAG_DUPLICATE ∨
        invSlot.flag = ITEM_FLAG_RENTED ∨ invSlot.flag = ITEM_FLAG_SEALED then some .rental
    else none

def userScrollType (items : List UpgradeItem) : ScrollType :=
  ((items.map fun i => getScrollType i.itemId).find? fun st => st ≠ .invalid).getD .invalid

def hasLogos (items : List UpgradeItem) : Bool := 0 < countInItems items ITEM_BLESSING_LOGOS

def specialsRefused (items : List UpgradeItem) (itemType : ℤ) : Bool :=
  let hasTrina := 0 < countInItems items ITEM_TRINA
  let hasKarivdis := 0 < countInItems items ITEM_KARIVDIS
  let hasLowTrina := 0 < countInItems items ITEM_LOW_CLASS_TRINA
  let hasMidTrina := 0 < countInItems items ITEM_MIDDLE_CLASS_TRINA
  1 < countInItems items ITEM_RING_TRINA ||
  hasTrina && hasKarivdis || 1 < countInItems items ITEM_TRINA ||
    1 < countInItems items ITEM_KARIVDIS ||
  hasLowTrina && hasMidTrina || 1 < countInItems items ITEM_LOW_CLASS_TRINA ||
    1 < countInItems items ITEM_MIDDLE_CLASS_TRINA ||
  hasLogos items && (hasTrina || hasKarivdis || hasLowTrina || hasMidTrina) ||
  hasLogos items && itemType ≠ 4 && itemType ≠ 5 && itemType ≠ 11 && itemType ≠ 12

def itemScrollType (itemClass : ℤ) : ScrollType :=
  if itemClass = 1 then .lowClass
  else if itemClass = 2 then .middleClass
  else if itemClass = 3 then .highClass
  else if itemClass = 4 then .rebirth
  else if itemClass = 8 then .accessories
  else .invalid

/-- The last digit of the number where the column is 0. -/
def gradeOf (proto : UpgradeProto) (itemId : ℕ) : ℤ :=
  if proto.byGrade.getD 0 = 0 then ((itemId % 10 : ℕ) : ℤ) else proto.byGrade.getD 0

def maxLogosGrade (w : UpgradeTables) (itemType : ℤ) : ℤ :=
  if itemType = 11 ∨ itemType = 12 then (w.serverSettings.map (·.maxBlessingUpReb)).getD 10
  else (w.serverSettings.map (·.maxBlessingUp)).getD 10

/-- A number at place 1 or 2 that is no special item has to be the recipe's scroll. -/
def placeRefused (recipe : NewUpgradeRow) (itemId : ℕ) : Bool :=
  0 < itemId && itemId ≠ ITEM_TRINA && itemId ≠ ITEM_KARIVDIS &&
    itemId ≠ ITEM_MIDDLE_CLASS_TRINA && itemId ≠ ITEM_LOW_CLASS_TRINA &&
    itemId ≠ ITEM_BLESSING_LOGOS && recipe.reqItem ≠ asI32 itemId

def recipeMatches (accessories : Bool) (raw : List (ℕ × ℕ)) (recipe : NewUpgradeRow) : Bool :=
  if accessories then
    rawItem raw 3 = ITEM_RING_TRINA || recipe.reqItem = asI32 (rawItem raw 3)
  else !placeRefused recipe (rawItem raw 1) && !placeRefused recipe (rawItem raw 2)

/-- `check_exist_item` for one unit. -/
def checkExistItem (inv : Inventory) (itemId : ℕ) : Bool :=
  1 ≤ (((inv.drop SLOT_MAX).take HAVE_MAX).filter fun s => s.itemId = itemId).foldl
    (fun total s => total + s.count) 0

/-- A required item of the setting is none, or is among the ten ids and in the bag. -/
def reqItemThere (inv : Inventory) (raw : List (ℕ × ℕ)) (reqItemId : ℤ) : Bool :=
  reqItemId ≤ 0 || raw.any (fun r => asI32 r.1 = reqItemId) && checkExistItem inv (asU32 reqItemId)

/-- A request that came through the checks. -/
structure UpgradePlan where
  bType : ℕ
  origin : UpgradeItem
  /-- The entries after the first. -/
  others : List UpgradeItem
  byGrade : ℤ
  accessories : Bool
  recipe : NewUpgradeRow
  /-- None with a logos, which has its own rate. -/
  setting : Option ItemUpgradeSettingsRow
  genRate : ℕ
  reqCoins : ℕ
  deriving DecidableEq

def UpgradePlan.items (p : UpgradePlan) : List UpgradeItem := p.origin :: p.others

def UpgradePlan.newItemId (p : UpgradePlan) : ℕ := asU32 p.recipe.newNumber

def matchSetting (w : UpgradeTables) (inv : Inventory) (raw : List (ℕ × ℕ)) (accessories logos : Bool)
    (itemType byGrade : ℤ) : Option (Option ItemUpgradeSettingsRow × ℕ × ℕ) :=
  if logos then some (none, 3300, 0)
  else
    let req1 := asI32 (if accessories then rawItem raw 3 else rawItem raw 1)
    let req2 := asI32 (if accessories then rawItem raw 4 else rawItem raw 2)
    match w.findUpgradeSetting itemType byGrade req1 req2 with
    | none => none
    | some setting =>
      if reqItemThere inv raw setting.reqItemId1 && reqItemThere inv raw setting.reqItemId2 then
        some (some setting, min (asU32 setting.successRate) 10000, asU32 setting.itemReqCoins)
      else none

def checkUpgrade (w : UpgradeTables) (s : UpgradeState) (bType : ℕ) (raw : List (ℕ × ℕ)) :
    Except (UpgradeResult × List UpgradeItem) UpgradePlan :=
  if ¬ (UPGRADE_TYPE_NORMAL ≤ bType ∧ bType ≤ UPGRADE_TYPE_PREVIEW) then .error (.noMatch, [])
  else
    match listItems raw with
    | [] => .error (.noMatch, [])
    | origin :: others =>
      let items := origin :: others
      let noMatch := .error (.noMatch, items)
      match items.findSome? (refuseItem s.inventory) with
      | some result => .error (result, items)
      | none =>
        match w.getItem origin.itemId with
        | none => noMatch
        | some proto =>
          let scroll := userScrollType items
          let itemType := Int.bmod (proto.itemType.getD 0) (2 ^ 16)
          let byGrade := gradeOf proto origin.itemId
          let logos := hasLogos items
          let accessories : Bool := scroll = .accessories
          if scroll = .invalid then noMatch
          else if specialsRefused items itemType then noMatch
          else if !isScrollCompatible (itemScrollType (proto.itemClass.getD 0)) scroll then noMatch
          else if logos ∧ (scroll = .highToRebirth ∨ accessories) then noMatch
          else if logos ∧ maxLogosGrade w itemType ≤ byGrade then noMatch
          else if accessories ∧ (rawItem raw 0 = 0 ∨ rawItem raw 1 = 0 ∨ rawItem raw 2 = 0 ∨
              rawItem raw 3 = 0 ∨ rawItem raw 0 ≠ rawItem raw 1 ∨
              rawItem raw 0 ≠ rawItem raw 2) then noMatch
          else
            match (w.getUpgradeRecipes origin.itemId).bind
                fun recipes => recipes.find? (recipeMatches accessories raw) with
            | none => noMatch
            | some recipe =>
              if asU32 recipe.newNumber = 0 then noMatch
              else
                match matchSetting w s.inventory raw accessories logos itemType byGrade with
                | none => noMatch
                | some (setting, genRate, reqCoins) =>
                  if genRate = 0 then noMatch
                  else if s.gold < reqCoins then .error (.needCoins, items)
                  else
                    .ok ⟨bType, origin, others, byGrade, accessories, recipe, setting, genRate,
                      reqCoins⟩

/-- `rand_range(0, 10001)` and `rand_range(0, 6701)`. -/
structure UpgradeDraws where
  randVal : Fin 10001
  randDown : Fin 6701

structure UpgradeReply where
  upgradeType : ℕ
  bType : ℕ
  result : UpgradeResult
  logos : Option Bool
  items : List UpgradeItem

namespace UpgradePlan

variable (w : UpgradeTables) (draws : UpgradeDraws) (p : UpgradePlan)

def fails : Bool :=
  p.bType = UPGRADE_TYPE_NORMAL ∧
    (if hasLogos p.items then 3300 else p.genRate) < draws.randVal.val

/-- A logos that fails takes a grade of the item, or nothing. -/
def downgrades : Bool :=
  draws.randDown.val < draws.randVal.val && 1 < p.byGrade &&
    (w.getItem (p.origin.itemId - 1)).isSome

def failedSlot (slot : UserItemSlot) : UserItemSlot :=
  if hasLogos p.items then
    if p.downgrades w draws then { slot with itemId := p.origin.itemId - 1 } else slot
  else {}

def failedId : ℕ :=
  if hasLogos p.items then
    if p.downgrades w draws then p.origin.itemId - 1 else p.origin.itemId
  else 0

def upgradedSlot (newProto : UpgradeProto) (slot : UserItemSlot) : UserItemSlot :=
  { slot with itemId := p.newItemId, durability := newProto.duration.getD 0 }

def consumed : List UpgradeItem := p.others.take MAX_ITEMS_REQ

end UpgradePlan

def removeConsumed (inv : Inventory) (item : UpgradeItem) : Inventory :=
  let slot := inv.slot item.actualIdx
  if item.actualIdx < inv.length ∧ slot.itemId ≠ 0 then
    if 1 < slot.count then inv.set item.actualIdx { slot with count := slot.count - 1 }
    else inv.set item.actualIdx {}
  else inv

/-- The origin slot rewritten, the price paid, and then the items removed. -/
def applyUpgrade (s : UpgradeState) (p : UpgradePlan) (slot : UserItemSlot) : UpgradeState :=
  { s with
    inventory := p.consumed.foldl removeConsumed (s.inventory.set p.origin.actualIdx slot)
    gold := if 0 < p.reqCoins then (goldLose s.gold p.reqCoins).getD s.gold else s.gold }

def performUpgrade (w : UpgradeTables) (draws : UpgradeDraws) (s : UpgradeState) (upgradeType : ℕ)
    (p : UpgradePlan) : UpgradeReply × UpgradeState :=
  let slot := s.inventory.slot p.origin.actualIdx
  if p.fails draws then
    let logos := if upgradeType ≠ ITEM_ACCESSORIES then some (hasLogos p.items) else none
    (⟨upgradeType, p.bType, .failed, logos,
        { p.origin with itemId := p.failedId w draws } :: p.others⟩,
      applyUpgrade s p (p.failedSlot w draws slot))
  else
    match w.getItem p.newItemId with
    | none => (⟨upgradeType, p.bType, .noMatch, none, p.items⟩, s)
    | some newProto =>
      let reply : UpgradeReply :=
        ⟨upgradeType, p.bType, .succeeded, none, { p.origin with itemId := p.newItemId } :: p.others⟩
      if p.bType = UPGRADE_TYPE_PREVIEW then (reply, s)
      else (reply, applyUpgrade s p (p.upgradedSlot newProto slot))

def rateLimited (w : UpgradeTables) (env : UpgradeEnv) (s : UpgradeState) : Bool :=
  let userMaxUpgrade := (w.serverSettings.map UpgradeServerSettings.userMaxUpgrade).getD 30
  let maxCount := (userMaxUpgrade % 2 ^ 8).toNat
  maxCount ≤ s.upgradeCount || env.now - s.lastUpgradeTime < UPGRADE_DELAY * 1000

structure UpgradeRequest where
  bType : ℕ
  npcId : ℕ
  raw : List (ℕ × ℕ)

def readUpgrade (reader : PacketReader) : UpgradeRequest :=
  let (bType, reader) := reader.readU8D
  let (npcId, reader) := reader.readU32D
  ⟨bType, npcId, readRawItems 10 reader⟩

def itemUpgrade (w : UpgradeTables) (env : UpgradeEnv) (draws : UpgradeDraws) (s : UpgradeState)
    (upgradeType : ℕ) (req : UpgradeRequest) : UpgradeReply × UpgradeState :=
  let trading : UpgradeReply := ⟨upgradeType, req.bType, .trading, none, []⟩
  if !env.isInNpcRange req.npcId then (trading, s)
  else if !env.isAnvil req.npcId then (trading, s)
  else if env.isPlayerDead || env.isTrading || env.isStoreOpen || env.isMerchanting ||
      env.isMining then (trading, s)
  else if rateLimited w env s then (trading, s)
  else
    let s := { s with lastUpgradeTime := env.now, upgradeCount := min (s.upgradeCount + 1) 255 }
    match checkUpgrade w s req.bType req.raw with
    | .error (result, items) => (⟨upgradeType, req.bType, result, none, items⟩, s)
    | .ok p => performUpgrade w draws s upgradeType p

def handleItemUpgrade (w : UpgradeTables) (env : UpgradeEnv) (draws : UpgradeDraws)
    (s : UpgradeState) (data : List UInt8) : Option UpgradeReply × UpgradeState :=
  let (upgradeType, reader) := (PacketReader.new data).readU8D
  if upgradeType = ITEM_UPGRADE ∨ upgradeType = ITEM_ACCESSORIES ∨
      upgradeType = ITEM_UPGRADE_REBIRTH then
    let (reply, s) := itemUpgrade w env draws s upgradeType (readUpgrade reader)
    (some reply, s)
  else (none, s)

end KoServer
