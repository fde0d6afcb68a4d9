import KoServer.Spec.Warehouse

/-! The two storages of a clan, from `handler/guild_bank.rs` and `handler/clan_warehouse.rs`.
Both keep their slots in a cache, and both handlers deposit and withdraw by the same closures,
each of which runs under one lock. -/

namespace KoServer

def CHIEF : ℕ := 1
def VICECHIEF : ℕ := 2

/-- A cache entry, of the length that `ensure_loaded` makes it. -/
structure ClanStorage (G : Type) where
  items : List UserItemSlot
  items_length : items.length = WAREHOUSE_MAX
  gold : G
  deriving DecidableEq

namespace ClanStorage

variable {G : Type}

def setItem (b : ClanStorage G) (i : ℕ) (s : UserItemSlot) : ClanStorage G :=
  { b with items := b.items.set i s, items_length := by rw [List.length_set, b.items_length] }

def slot (b : ClanStorage G) (i : ℕ) : UserItemSlot := Inventory.slot b.items i

end ClanStorage

structure ClanMember where
  inventory : Inventory
  gold : ℕ
  deriving DecidableEq

/-- What a request reads besides: the surroundings of a session, and its clan. -/
structure ClanEnv extends WarehouseEnv where
  /-- The member's rank, when the member is in a clan. -/
  clanFame : Option ℕ
  /-- `get_knights` finds the clan. -/
  clanKnown : Bool

structure ClanRequest where
  npcId : ℕ
  itemId : ℕ
  tab : ℕ
  srcPos : ℕ
  dstPos : ℕ
  count : ℕ
  deriving DecidableEq

inductive ClanResult
  | success | error | full | duplicate | overweight
  deriving DecidableEq

def validateBasicState (env : ClanEnv) : Bool :=
  !(env.isPlayerDead || env.isTrading || env.isMerchanting || env.isMining || env.isFishing)

def isLeaderOrAssistant (fame : ℕ) : Bool := fame = CHIEF || fame = VICECHIEF

/-- The flat index of a position on a tab. -/
def ClanRequest.whSlot (req : ClanRequest) (pos : ℕ) : ℕ := req.tab * ITEMS_PER_PAGE + pos

/-- As at the inn, but here a stack keeps any serial number that is not zero. -/
def storedSerial (stackable : Bool) (src dst : UserItemSlot) (count nextSerial : ℕ) : ℕ :=
  let generated := nextSerial % 2 ^ 64
  let serial := if src.serialNum ≠ 0 then src.serialNum else generated
  if stackable then
    if src.count = count ∧ dst.serialNum = 0 then serial
    else if dst.serialNum = 0 then
      if src.serialNum ≠ 0 then generated else (nextSerial + 1) % 2 ^ 64
    else dst.serialNum
  else serial

/-- The destination with `count` units of the source on it. -/
def storedItem (item : Item) (count nextSerial : ℕ) (src dst : UserItemSlot) : UserItemSlot :=
  let stackable := decide (item.countableD > 0)
  let arrived := if stackable then saturatingAdd16 dst.count count else count
  { itemId := src.itemId
    durability := src.durability
    count := min arrived ITEMCOUNT_MAX
    flag := src.flag
    originalFlag := src.originalFlag
    serialNum := storedSerial stackable src dst count nextSerial
    expireTime := src.expireTime }

def reducedItem (item : Item) (count : ℕ) (src : UserItemSlot) : UserItemSlot :=
  let left := if item.countableD > 0 then src.count - count else 0
  if left = 0 ∨ item.countableD = 0 then {} else { src with count := left }

variable {G : Type}

def storeIn (item : Item) (count nextSerial whIdx : ℕ) (src : UserItemSlot) (b : ClanStorage G) :
    Option (ClanStorage G) :=
  if destinationTaken item src (b.slot whIdx) then none
  else some (b.setItem whIdx (storedItem item count nextSerial src (b.slot whIdx)))

def reduceInventory (item : Item) (count srcIdx : ℕ) (inv : Inventory) : Option Inventory :=
  if inv.length ≤ srcIdx then none
  else some (inv.set srcIdx (reducedItem item count (inv.slot srcIdx)))

def readStored (itemId count whIdx : ℕ) (b : ClanStorage G) : Except ClanResult UserItemSlot :=
  let slot := b.slot whIdx
  if slot.itemId ≠ itemId ∨ slot.count < count then .error .error
  else if slot.flag = ITEM_FLAG_DUPLICATE then .error .duplicate
  else .ok slot

def addToInventory (item : Item) (count nextSerial dstIdx : ℕ) (src : UserItemSlot)
    (inv : Inventory) : Option Inventory :=
  if inv.length ≤ dstIdx then none
  else if destinationTaken item src (inv.slot dstIdx) then none
  else some (inv.set dstIdx (storedItem item count nextSerial src (inv.slot dstIdx)))

/-- The write of a withdrawal to the cache, which checks the slot once more. -/
def deductStored (item : Item) (itemId count whIdx : ℕ) (b : ClanStorage G) :
    Option (ClanStorage G) :=
  if (b.slot whIdx).itemId ≠ itemId ∨ (b.slot whIdx).count < count then none
  else some (b.setItem whIdx (reducedItem item count (b.slot whIdx)))

def rollbackInventory (dstIdx : ℕ) (inv : Inventory) : Inventory := inv.set dstIdx {}

def depositRefused (src : UserItemSlot) (count : ℕ) : Option ClanResult :=
  if src.flag = ITEM_FLAG_RENTED ∨ src.flag = ITEM_FLAG_SEALED ∨ src.expireTime > 0 then some .error
  else if src.flag = ITEM_FLAG_DUPLICATE then some .duplicate
  else if src.count < count then some .error
  else none

end KoServer
