import KoServer.Spec.ItemMove
import KoServer.Spec.Trade

/-! The inn, from `handler/warehouse.rs`: the warehouse of an account is read from the
database by the first OPEN, and the other requests write back the slots and the coins they
touched. The casts of a row to the columns of the database are undone by the casts of the
load, so a row is a slot here. -/

namespace KoServer

def WAREHOUSE_OPEN : ℕ := 1
def WAREHOUSE_INPUT : ℕ := 2
def WAREHOUSE_OUTPUT : ℕ := 3
def WAREHOUSE_MOVE : ℕ := 4
def WAREHOUSE_INVENMOVE : ℕ := 5
def WAREHOUSE_MAX : ℕ := 192
def ITEMS_PER_PAGE : ℕ := 24
def PK_ZONE_WAREHOUSE_COST : ℕ := 10000
def NPC_WAREHOUSE : ℕ := 31
def ZONE_RONARK_LAND : ℕ := 71
def ZONE_ARDREAM : ℕ := 72
def ZONE_RONARK_LAND_BASE : ℕ := 73
def I32_MAX : ℕ := 2147483647

/-- `user_warehouse` and `user_warehouse_coins` for one account. -/
structure WarehouseStore where
  rows : ℕ → Option UserItemSlot
  coins : ℕ
  coins_le : coins ≤ I32_MAX

/-- What the handlers change of a session, and the rows of its account. -/
structure WarehouseSession where
  inventory : Inventory
  gold : ℕ
  warehouse : List UserItemSlot
  innCoins : ℕ
  warehouseLoaded : Bool
  store : WarehouseStore

/-- What a request reads besides. The surroundings change from one request to the next. -/
structure WarehouseEnv where
  inGame : Bool
  isPlayerDead : Bool
  isTrading : Bool
  isStoreOpen : Bool
  isMerchanting : Bool
  isSellingMerchant : Bool
  isSellingMerchantPreparing : Bool
  isBuyingMerchantPreparing : Bool
  isMining : Bool
  isFishing : Bool
  genieActive : Bool
  zoneId : ℕ
  isNpcDead : ℕ → Bool
  isInNpcRange : ℕ → Bool
  /-- The template of the NPC instance, if both are there. -/
  npcType : ℕ → Option ℕ
  itemWeight : ℕ
  maxWeight : ℕ
  nextItemSerial : ℕ

/-- `ignored` sends no answer; the others are the result byte. -/
inductive WarehouseResult
  | ignored | noAccess | success | requiredMoney
  deriving DecidableEq

def isPkZone (zoneId : ℕ) : Bool :=
  zoneId = ZONE_ARDREAM || zoneId = ZONE_RONARK_LAND || zoneId = ZONE_RONARK_LAND_BASE

/-- `while wh.len() < WAREHOUSE_MAX { wh.push(default) }`. -/
def warehousePadded (wh : List UserItemSlot) : List UserItemSlot :=
  wh ++ List.replicate (WAREHOUSE_MAX - wh.length) ({} : UserItemSlot)

namespace WarehouseStore

def row (store : WarehouseStore) (i : ℕ) : UserItemSlot := (store.rows i).getD {}

/-- `save_warehouse_item`, an upsert. -/
def saveWarehouseItem (store : WarehouseStore) (i : ℕ) (s : UserItemSlot) : WarehouseStore :=
  { store with rows := Function.update store.rows i (some s) }

/-- `save_warehouse_coins`, of `coins.min(i32::MAX)`. -/
def saveWarehouseCoins (store : WarehouseStore) (coins : ℕ) : WarehouseStore :=
  { store with coins := min coins I32_MAX, coins_le := Nat.min_le_right _ _ }

/-- The array that OPEN builds from the rows. -/
def loadWarehouse (store : WarehouseStore) : List UserItemSlot :=
  (List.range WAREHOUSE_MAX).map store.row

end WarehouseStore

namespace WarehouseSession

def saveWarehouseSlot (s : WarehouseSession) (i : ℕ) : WarehouseSession :=
  { s with store := s.store.saveWarehouseItem i (Inventory.slot s.warehouse i) }

def saveWarehouseCoins (s : WarehouseSession) : WarehouseSession :=
  { s with store := s.store.saveWarehouseCoins s.innCoins }

end WarehouseSession

def handleWarehouseOpen (env : WarehouseEnv) (s : WarehouseSession) :
    WarehouseResult × WarehouseSession :=
  if isPkZone env.zoneId ∧ s.gold < PK_ZONE_WAREHOUSE_COST then (.requiredMoney, s)
  else
    let gold := if isPkZone env.zoneId then s.gold - PK_ZONE_WAREHOUSE_COST else s.gold
    if s.warehouseLoaded then (.success, { s with gold := gold })
    else
      (.success, { s with
        gold := gold
        warehouse := s.store.loadWarehouse
        innCoins := s.store.coins
        warehouseLoaded := true })

/-- The serial number of the item that arrives; a drawn number is used up. -/
def arrivingSerial (stackable : Bool) (src dst : UserItemSlot) (count nextSerial : ℕ) : ℕ :=
  let generated := nextSerial % 2 ^ 64
  let serial := if src.serialNum ≠ 0 then src.serialNum else generated
  if stackable then
    if src.count = count ∧ dst.itemId = 0 then serial
    else if dst.itemId = 0 then
      if src.serialNum ≠ 0 then generated else (nextSerial + 1) % 2 ^ 64
    else dst.serialNum
  else serial

/-- `count` units from `src` onto `dst`, as INPUT and OUTPUT both do it: the source and the
destination after it. -/
def transferItem (item : Item) (count nextSerial : ℕ) (src dst : UserItemSlot) :
    UserItemSlot × UserItemSlot :=
  let stackable := decide (item.countableD > 0)
  let arrived := if stackable then saturatingAdd16 dst.count count else count
  let left := if stackable then src.count - count else 0
  (if left = 0 ∨ item.countableD = 0 then {} else { src with count := left },
    { itemId := src.itemId
      durability := src.durability
      count := min arrived ITEMCOUNT_MAX
      flag := src.flag
      originalFlag := src.originalFlag
      serialNum := arrivingSerial stackable src dst count nextSerial
      expireTime := src.expireTime })

def destinationTaken (item : Item) (src dst : UserItemSlot) : Bool :=
  dst.itemId ≠ 0 && (!(item.countableD > 0) || dst.itemId ≠ src.itemId)

def inputItem (item : Item) (itemId srcIdx whIdx count nextSerial : ℕ) (inv : Inventory)
    (wh : List UserItemSlot) : Option (Inventory × List UserItemSlot) :=
  match inv[srcIdx]? with
  | none => none
  | some src =>
    let dst := Inventory.slot wh whIdx
    if src.itemId ≠ itemId then none
    else if src.flag = ITEM_FLAG_RENTED ∨ src.flag = ITEM_FLAG_DUPLICATE ∨
        src.flag = ITEM_FLAG_SEALED ∨ src.expireTime > 0 then none
    else if src.count < count ∨ destinationTaken item src dst then none
    else
      let moved := transferItem item count nextSerial src dst
      some (inv.set srcIdx moved.1, wh.set whIdx moved.2)

def outputItem (item : Item) (itemId whIdx dstIdx count nextSerial : ℕ) (inv : Inventory)
    (wh : List UserItemSlot) : Option (Inventory × List UserItemSlot) :=
  let src := Inventory.slot wh whIdx
  if src.itemId ≠ itemId ∨ src.count < count then none
  else
    match inv[dstIdx]? with
    | none => none
    | some dst =>
      if destinationTaken item src dst then none
      else
        let moved := transferItem item count nextSerial src dst
        some (inv.set dstIdx moved.2, wh.set whIdx moved.1)

/-- Source must match, destination must be empty: the closure of both MOVE requests. -/
def moveSlot (itemId srcIdx dstIdx : ℕ) (slots : List UserItemSlot) : Option (List UserItemSlot) :=
  if (Inventory.slot slots srcIdx).itemId ≠ itemId ∨ (Inventory.slot slots dstIdx).itemId ≠ 0 then
    none
  else some ((slots.set dstIdx (Inventory.slot slots srcIdx)).set srcIdx {})

/-- `check_weight`: the weight fits, and a slot would be found for the item. -/
def checkWeight (table : ItemTable) (env : WarehouseEnv) (inv : Inventory) (itemId count : ℕ) :
    Bool :=
  match table itemId with
  | none => false
  | some item =>
    (env.itemWeight + ((item.weight.getD 0 % 2 ^ 32).toNat * count) % 2 ^ 32) % 2 ^ 32 ≤
        env.maxWeight &&
      (findSlotForItem table inv itemId count).isSome

/-- The fields after the NPC, with the position of the page's first slot. -/
structure WarehouseRequest where
  itemId : ℕ
  page : ℕ
  srcPos : ℕ
  dstPos : ℕ
  /-- Zero for the requests that carry no count. -/
  count : ℕ
  deriving DecidableEq

def WarehouseRequest.referencePos (req : WarehouseRequest) : ℕ := ITEMS_PER_PAGE * req.page

def handleWarehouseInput (table : ItemTable) (env : WarehouseEnv) (s : WarehouseSession)
    (req : WarehouseRequest) : WarehouseResult × WarehouseSession :=
  if req.count = 0 then (.noAccess, s)
  else if req.itemId = ITEM_GOLD then
    if s.gold < req.count ∨ COIN_MAX < s.innCoins + req.count then (.noAccess, s)
    else
      let s := { s with gold := s.gold - req.count, innCoins := s.innCoins + req.count }
      (.success, s.saveWarehouseCoins)
  else
    let srcSlotIdx := SLOT_MAX + req.srcPos
    let whSlotIdx := req.referencePos + req.dstPos
    if HAVE_MAX ≤ req.srcPos ∨ WAREHOUSE_MAX ≤ whSlotIdx then (.noAccess, s)
    else if ITEM_NO_TRADE_MIN ≤ req.itemId ∧ req.itemId ≤ ITEM_NO_TRADE_MAX then (.noAccess, s)
    else
      match table req.itemId with
      | none => (.noAccess, s)
      | some item =>
        let wh := warehousePadded s.warehouse
        match inputItem item req.itemId srcSlotIdx whSlotIdx (asU16 req.count) env.nextItemSerial
            s.inventory wh with
        | none => (.noAccess, { s with warehouse := wh })
        | some (inv, wh) =>
          let s := { s with inventory := inv, warehouse := wh }
          (.success, s.saveWarehouseSlot whSlotIdx)

def handleWarehouseOutput (table : ItemTable) (env : WarehouseEnv) (s : WarehouseSession)
    (req : WarehouseRequest) : WarehouseResult × WarehouseSession :=
  if req.count = 0 then (.noAccess, s)
  else if req.itemId = ITEM_GOLD then
    if s.innCoins < req.count ∨ COIN_MAX < s.gold + req.count then (.noAccess, s)
    else
      let s := { s with gold := goldGain s.gold req.count, innCoins := s.innCoins - req.count }
      (.success, s.saveWarehouseCoins)
  else
    let whSlotIdx := req.referencePos + req.srcPos
    let dstSlotIdx := SLOT_MAX + req.dstPos
    if WAREHOUSE_MAX ≤ whSlotIdx ∨ HAVE_MAX ≤ req.dstPos then (.noAccess, s)
    else
      match table req.itemId with
      | none => (.noAccess, s)
      | some item =>
        if !checkWeight table env s.inventory req.itemId (asU16 req.count) then (.noAccess, s)
        else
          let wh := warehousePadded s.warehouse
          match outputItem item req.itemId whSlotIdx dstSlotIdx (asU16 req.count)
              env.nextItemSerial s.inventory wh with
          | none => (.noAccess, { s with warehouse := wh })
          | some (inv, wh) =>
            let s := { s with inventory := inv, warehouse := wh }
            (.success, s.saveWarehouseSlot whSlotIdx)

def handleWarehouseMove (s : WarehouseSession) (req : WarehouseRequest) :
    WarehouseResult × WarehouseSession :=
  let srcIdx := req.referencePos + req.srcPos
  let dstIdx := req.referencePos + req.dstPos
  if WAREHOUSE_MAX ≤ srcIdx ∨ WAREHOUSE_MAX ≤ dstIdx then (.noAccess, s)
  else
    let wh := warehousePadded s.warehouse
    match moveSlot req.itemId srcIdx dstIdx wh with
    | none => (.noAccess, { s with warehouse := wh })
    | some wh =>
      let s := { s with warehouse := wh }
      (.success, (s.saveWarehouseSlot srcIdx).saveWarehouseSlot dstIdx)

def handleWarehouseInvenmove (s : WarehouseSession) (req : WarehouseRequest) :
    WarehouseResult × WarehouseSession :=
  let srcIdx := SLOT_MAX + req.srcPos
  let dstIdx := SLOT_MAX + req.dstPos
  if HAVE_MAX ≤ req.srcPos ∨ HAVE_MAX ≤ req.dstPos then (.noAccess, s)
  else if s.inventory.length ≤ srcIdx ∨ s.inventory.length ≤ dstIdx then (.noAccess, s)
  else
    match moveSlot req.itemId srcIdx dstIdx s.inventory with
    | none => (.noAccess, s)
    | some inv => (.success, { s with inventory := inv })

def WarehouseEnv.busy (env : WarehouseEnv) : Bool :=
  !env.inGame || env.isPlayerDead || env.isTrading || env.isStoreOpen || env.isMerchanting ||
  env.isSellingMerchant || env.isSellingMerchantPreparing || env.isBuyingMerchantPreparing ||
  env.isMining || env.isFishing

def WarehouseEnv.npcValid (env : WarehouseEnv) (npcId : ℕ) : Bool :=
  npcId = 0 ||
    !env.isNpcDead npcId && env.isInNpcRange npcId && env.npcType npcId = some NPC_WAREHOUSE

def parseWarehouseRequest (opcode : ℕ) (reader : PacketReader) : WarehouseRequest :=
  let (itemId, reader) := reader.readU32D
  let (page, reader) := reader.readU8D
  let (srcPos, reader) := reader.readU8D
  let (dstPos, reader) := reader.readU8D
  let (count, _) := reader.readU32D
  { itemId, page, srcPos, dstPos
    count := if opcode = WAREHOUSE_INPUT ∨ opcode = WAREHOUSE_OUTPUT then count else 0 }

def handleWarehouse (table : ItemTable) (env : WarehouseEnv) (s : WarehouseSession)
    (data : List UInt8) : WarehouseResult × WarehouseSession :=
  if env.busy then (.ignored, s)
  else
    let (opcode, reader) := (PacketReader.new data).readU8D
    if env.genieActive then (.noAccess, s)
    else if opcode = WAREHOUSE_OPEN then handleWarehouseOpen env s
    else
      let (npcId, reader) := reader.readU32D
      if !env.npcValid npcId then (.noAccess, s)
      else
        let req := parseWarehouseRequest opcode reader
        if opcode = WAREHOUSE_INPUT then handleWarehouseInput table env s req
        else if opcode = WAREHOUSE_OUTPUT then handleWarehouseOutput table env s req
        else if opcode = WAREHOUSE_MOVE then handleWarehouseMove s req
        else if opcode = WAREHOUSE_INVENMOVE then handleWarehouseInvenmove s req
        else (.ignored, s)

end KoServer
