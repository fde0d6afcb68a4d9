import KoServer.Spec.BagItems

/-! Sealing and binding of items: `item_seal_lock`, `item_seal_unlock`, `item_seal_bound` and
`item_seal_unbound` of `handler/item_upgrade.rs`, four requests on one flag byte. -/

namespace KoServer

def SEAL_LOCK : ℕ := 1
def SEAL_UNLOCK : ℕ := 2
def SEAL_BOUND : ℕ := 3
def SEAL_UNBOUND : ℕ := 4

def ITEM_SEAL_PRICE : ℕ := 1000000
def BINDING_SCROLL_ID : ℕ := 810890000

structure SealEnv where
  getItem : ItemTable
  /-- The column `bound`, an `i16`. -/
  bound : ℕ → Option ℤ
  vipPassword : List Char

structure SealState where
  inventory : Inventory
  gold : ℕ
  deriving DecidableEq

structure SealRequest where
  sealOpcode : ℕ
  itemId : ℕ
  srcPos : ℕ
  password : List Char
  deriving DecidableEq

/-- The result code, with the item and its place after a success. -/
structure SealReply where
  sealType : ℕ
  result : ℕ
  item : Option (ℕ × ℕ)
  deriving DecidableEq

/-- `read_string().unwrap_or_default()` after the item and its place; a BOUND has no password. -/
def readSeal (data : List UInt8) : SealRequest :=
  let (sealOpcode, reader) := (PacketReader.new data).readU8D
  let (_, reader) := reader.readU32D
  let (itemId, reader) := reader.readU32D
  let (srcPos, reader) := reader.readU8D
  let password := if sealOpcode = SEAL_BOUND then [] else (reader.readString.map Prod.fst).getD []
  ⟨sealOpcode, itemId, srcPos, password⟩

def SealRequest.actualSlot (req : SealRequest) : ℕ := SLOT_MAX + req.srcPos

/-- The stored password, 8 long by `len()`. -/
def passwordFits (env : SealEnv) (req : SealRequest) : Bool :=
  (asBytes env.vipPassword).length = 8 && env.vipPassword = req.password

/-- The slot named, if it is one of the bag with the item, there is a serial number, the request
does not reject it and the item is not countable. -/
def sealable (env : SealEnv) (rejected : UserItemSlot → Bool) (inv : Inventory)
    (req : SealRequest) : Bool :=
  req.srcPos < HAVE_MAX &&
  inv[req.actualSlot]?.any fun invItem =>
    invItem.itemId = req.itemId && invItem.count ≠ 0 && invItem.serialNum ≠ 0 &&
      !rejected invItem && (env.getItem req.itemId).any fun item => item.countableD = 0

def lockRejects (invItem : UserItemSlot) : Bool :=
  invItem.flag = ITEM_FLAG_SEALED || invItem.flag = ITEM_FLAG_CHAR_SEAL ||
    invItem.flag = ITEM_FLAG_DUPLICATE || 0 < invItem.expireTime || invItem.flag = ITEM_FLAG_RENTED

def unlockRejects (invItem : UserItemSlot) : Bool :=
  invItem.flag ≠ ITEM_FLAG_SEALED || invItem.flag = ITEM_FLAG_DUPLICATE || 0 < invItem.expireTime ||
    invItem.flag = ITEM_FLAG_RENTED

def boundRejects (invItem : UserItemSlot) : Bool :=
  invItem.flag = ITEM_FLAG_DUPLICATE || invItem.flag = ITEM_FLAG_BOUND ||
    invItem.flag = ITEM_FLAG_RENTED

def unboundRejects (invItem : UserItemSlot) : Bool :=
  invItem.flag ≠ ITEM_FLAG_BOUND || invItem.flag = ITEM_FLAG_DUPLICATE ||
    invItem.flag = ITEM_FLAG_RENTED

/-- `update_inventory` on the slot named, where it still has the item. -/
def updateSlot (inv : Inventory) (req : SealRequest) (f : UserItemSlot → UserItemSlot) : Inventory :=
  let slot := inv.slot req.actualSlot
  if req.actualSlot < inv.length ∧ slot.itemId = req.itemId then inv.set req.actualSlot (f slot)
  else inv

def lockSlot (slot : UserItemSlot) : UserItemSlot :=
  { slot with originalFlag := slot.flag, flag := ITEM_FLAG_SEALED }

def unlockSlot (slot : UserItemSlot) : UserItemSlot :=
  { slot with
    flag :=
      if slot.originalFlag = ITEM_FLAG_NOT_BOUND ∨ slot.originalFlag = ITEM_FLAG_BOUND then
        slot.originalFlag
      else ITEM_FLAG_NONE
    originalFlag := 0 }

namespace SealRequest

variable (env : SealEnv) (s : SealState) (req : SealRequest)

/-- `item_table.bound.unwrap_or(0) as u16`. -/
def boundCount : ℕ := (((env.bound req.itemId).getD 0) % 2 ^ 16).toNat

def succeeded : SealReply := ⟨req.sealOpcode, 1, some (req.itemId, req.srcPos)⟩

def refused (result : ℕ) : SealReply := ⟨req.sealOpcode, result, none⟩

def itemSealLock : SealReply × SealState :=
  if !passwordFits env req then (req.refused 4, s)
  else if s.gold < ITEM_SEAL_PRICE then (req.refused 3, s)
  else if !sealable env lockRejects s.inventory req then (req.refused 2, s)
  else
    (req.succeeded,
      { inventory := updateSlot s.inventory req lockSlot
        gold := (goldLose s.gold ITEM_SEAL_PRICE).getD s.gold })

def itemSealUnlock : SealReply × SealState :=
  if !passwordFits env req then (req.refused 4, s)
  else if !sealable env unlockRejects s.inventory req then (req.refused 2, s)
  else (req.succeeded, { s with inventory := updateSlot s.inventory req unlockSlot })

def itemSealBound : SealReply × SealState :=
  if !sealable env boundRejects s.inventory req then (req.refused 2, s)
  else
    (req.succeeded,
      { s with
        inventory := updateSlot s.inventory req fun slot => { slot with flag := ITEM_FLAG_BOUND } })

/-- The bag once `rob_item` was asked for the scrolls, whatever its answer. -/
def robScrolls : Inventory :=
  (robItem env.getItem s.inventory BINDING_SCROLL_ID (req.boundCount env)).getD s.inventory

def itemSealUnbound : SealReply × SealState :=
  if !passwordFits env req then (req.refused 4, s)
  else if !sealable env unboundRejects s.inventory req then (req.refused 2, s)
  else if 0 < req.boundCount env &&
      !checkExistItemCount s.inventory BINDING_SCROLL_ID (req.boundCount env) then (req.refused 2, s)
  else
    (req.succeeded,
      { s with
        inventory := updateSlot (req.robScrolls env s) req
          fun slot => { slot with flag := ITEM_FLAG_NOT_BOUND } })

end SealRequest

/-- `item_seal_process`; an unknown opcode and item 0 have no answer. -/
def itemSealProcess (env : SealEnv) (s : SealState) (req : SealRequest) :
    Option SealReply × SealState :=
  let answer (r : SealReply × SealState) := (some r.1, r.2)
  if req.itemId = 0 then (none, s)
  else if req.sealOpcode = SEAL_LOCK then answer (req.itemSealLock env s)
  else if req.sealOpcode = SEAL_UNLOCK then answer (req.itemSealUnlock env s)
  else if req.sealOpcode = SEAL_BOUND then answer (req.itemSealBound env s)
  else if req.sealOpcode = SEAL_UNBOUND then answer (req.itemSealUnbound env s)
  else (none, s)

end KoServer
