import KoServer.Spec.ClanStorage
import KoServer.Spec.Frames

/-! The VIP vault, from `handler/vip_warehouse.rs`, once it has been loaded from the database:
48 slots, the PIN with its request flag, and the time the vault key runs out. The writes to the
database and the item lists of the answers are left out. -/

namespace KoServer

def VIP_OPEN : ℕ := 1
def VIP_INVEN_TO_STORAGE : ℕ := 2
def VIP_STORAGE_TO_INVEN : ℕ := 3
def VIP_STORAGE_TO_STORE : ℕ := 4
def VIP_INVEN_TO_INVEN : ℕ := 5
def VIP_USE_VAULT : ℕ := 6
def VIP_SET_PASSWORD : ℕ := 8
def VIP_CANCEL_PASSWORD : ℕ := 9
def VIP_CHANGE_PASSWORD : ℕ := 10
def VIP_ENTER_PASSWORD : ℕ := 11
def VIPWAREHOUSE_MAX : ℕ := 48
def VIP_VAULT_KEY : ℕ := 800442000
def VIP_SAFE_KEY_1 : ℕ := 810442000
def VIP_SAFE_KEY_7 : ℕ := 998019000
def MAX_VAULT_EXTENSION_SECS : ℕ := 60 * 60 * 24 * 30

/-- What a request finds outside of the vault. -/
structure VipEnv where
  inGame : Bool
  isPlayerDead : Bool
  isTrading : Bool
  isMining : Bool
  isMerchanting : Bool
  isFishing : Bool
  isInNpcRange : ℕ → Bool
  /-- `unix_now`. -/
  now : ℕ
  itemWeight : ℕ
  maxWeight : ℕ
  nextItemSerial : ℕ

structure VipSession where
  inventory : Inventory
  vipWarehouse : List UserItemSlot
  vipWarehouse_length : vipWarehouse.length = VIPWAREHOUSE_MAX
  vipPassword : List Char
  vipPasswordRequest : ℕ
  vipVaultExpiry : ℕ

/-- The fields that an item request carries after the NPC. -/
structure VipItemRequest where
  itemId : ℕ
  page : ℕ
  srcPos : ℕ
  dstPos : ℕ
  count : ℕ
  deriving DecidableEq

inductive VipRequest where
  | open (npcId : ℕ) (password : List Char)
  | invenToStorage (req : VipItemRequest)
  | storageToInven (req : VipItemRequest)
  | storageToStore (req : VipItemRequest)
  | invenToInven (req : VipItemRequest)
  | useVault (req : VipItemRequest)
  | setPassword (password : List Char)
  | cancelPassword
  | changePassword (password : List Char)
  | enterPassword (password : List Char)
  | unknown (opcode : ℕ)
  deriving DecidableEq

def VipRequest.opcode : VipRequest → ℕ
  | .open .. => VIP_OPEN
  | .invenToStorage _ => VIP_INVEN_TO_STORAGE
  | .storageToInven _ => VIP_STORAGE_TO_INVEN
  | .storageToStore _ => VIP_STORAGE_TO_STORE
  | .invenToInven _ => VIP_INVEN_TO_INVEN
  | .useVault _ => VIP_USE_VAULT
  | .setPassword _ => VIP_SET_PASSWORD
  | .cancelPassword => VIP_CANCEL_PASSWORD
  | .changePassword _ => VIP_CHANGE_PASSWORD
  | .enterPassword _ => VIP_ENTER_PASSWORD
  | .unknown opcode => opcode

/-- The first two bytes of the answer, if there is one: a sub-opcode and the code of
`build_error`, which is 1 for a success. -/
abbrev VipAnswer := Option (ℕ × ℕ)

/-- `String::len`, in bytes. -/
def byteLen (s : List Char) : ℕ := (s.map Char.utf8Size).sum

def isValidPin (s : List Char) : Bool := byteLen s = 4 && s.all Char.isDigit

namespace VipSession

def setItems (s : VipSession) (inv : Inventory) (i : ℕ) (item : UserItemSlot) : VipSession :=
  { s with
    inventory := inv
    vipWarehouse := s.vipWarehouse.set i item
    vipWarehouse_length := by rw [List.length_set]; exact s.vipWarehouse_length }

def vipSlot (s : VipSession) (i : ℕ) : UserItemSlot := Inventory.slot s.vipWarehouse i

def setVipPassword (s : VipSession) (password : List Char) (request : ℕ) : VipSession :=
  { s with vipPassword := password, vipPasswordRequest := request }

end VipSession

def vipOpen (env : VipEnv) (s : VipSession) (npcId : ℕ) : VipAnswer :=
  if npcId = 0 ∧ s.vipVaultExpiry < env.now then some (VIP_OPEN, 21)
  else if npcId ≠ 0 ∧ !env.isInNpcRange npcId then some (VIP_OPEN, 0)
  else if s.vipPasswordRequest ≠ 0 ∧ s.vipPassword ≠ [] then some (VIP_ENTER_PASSWORD, 1)
  else some (VIP_OPEN, 1)

/-- The source after `count` units of it have gone. The source is read again after the write to the
destination, so that it may have been emptied; the subtraction wraps around then. -/
def vipSource (item : Item) (count : ℕ) (src : UserItemSlot) : UserItemSlot :=
  let left :=
    if item.countableD > 0 then
      if src.count < count then 65536 + src.count - count else src.count - count
    else 0
  if left = 0 ∨ item.kindD = ITEM_KIND_UNIQUE ∧ item.countableD = 0 then {}
  else { src with count := left }

/-- A slot without an item or without units is cleared. -/
def vipCleared (slot : UserItemSlot) : UserItemSlot :=
  if slot.count = 0 ∨ slot.itemId = 0 then {} else slot

/-- The closure of the transfer to the vault: source and destination after it. -/
def storeVip (item : Item) (itemId count nextSerial : ℕ) (src dst : UserItemSlot) :
    Option (UserItemSlot × UserItemSlot) :=
  if src.itemId ≠ itemId then none
  else if src.flag = ITEM_FLAG_RENTED ∨ src.flag = ITEM_FLAG_SEALED ∨
      src.flag = ITEM_FLAG_DUPLICATE ∨ src.expireTime > 0 then none
  else if dst.itemId ≠ 0 ∧ item.kindD = ITEM_KIND_UNIQUE ∧ item.countableD = 0 then none
  else if src.count < count ∨ destinationTaken item src dst then none
  else some (vipSource item count src, storedItem item count nextSerial src (vipCleared dst))

/-- The closure of the transfer to the bag. What it clears before the write is the source. -/
def fetchVip (item : Item) (itemId count nextSerial : ℕ) (src dst : UserItemSlot) :
    Option (UserItemSlot × UserItemSlot) :=
  if src.itemId ≠ itemId ∨ src.count < count then none
  else if destinationTaken item src dst then none
  else some (vipSource item count (vipCleared src), storedItem item count nextSerial src dst)

def VipItemRequest.referencePos (req : VipItemRequest) : ℕ := 48 * req.page

def vipInvenToStorage (table : ItemTable) (env : VipEnv) (s : VipSession) (req : VipItemRequest) :
    ℕ × VipSession :=
  if s.vipVaultExpiry < env.now then (2, s)
  else if req.page > 1 ∨ req.count = 0 then (2, s)
  else if req.itemId = ITEM_GOLD ∨
      ITEM_NO_TRADE_MIN ≤ req.itemId ∧ req.itemId ≤ ITEM_NO_TRADE_MAX then (2, s)
  else
    match table req.itemId with
    | none => (2, s)
    | some item =>
      let srcSlotIdx := SLOT_MAX + req.srcPos
      let vipSlotIdx := req.referencePos + req.dstPos
      if item.countableD = 2 then (2, s)
      else if HAVE_MAX ≤ req.srcPos ∨ VIPWAREHOUSE_MAX ≤ vipSlotIdx then (2, s)
      else
        match s.inventory[srcSlotIdx]? with
        | none => (2, s)
        | some src =>
          match storeVip item req.itemId req.count env.nextItemSerial src (s.vipSlot vipSlotIdx) with
          | none => (2, s)
          | some (src, dst) => (1, s.setItems (s.inventory.set srcSlotIdx src) vipSlotIdx dst)

/-- `check_weight`, as at the inn. -/
def VipEnv.checkWeight (table : ItemTable) (env : VipEnv) (inv : Inventory) (itemId count : ℕ) :
    Bool :=
  match table itemId with
  | none => false
  | some item =>
    (env.itemWeight + ((item.weight.getD 0 % 2 ^ 32).toNat * count) % 2 ^ 32) % 2 ^ 32 ≤
        env.maxWeight &&
      (findSlotForItem table inv itemId count).isSome

/-- Gold is answered with the code of a success. -/
def vipStorageToInven (table : ItemTable) (env : VipEnv) (s : VipSession) (req : VipItemRequest) :
    ℕ × VipSession :=
  let vipSlotIdx := req.referencePos + req.srcPos
  let dstSlotIdx := SLOT_MAX + req.dstPos
  if req.page > 1 ∨ req.count = 0 then (2, s)
  else if req.itemId = ITEM_GOLD then (1, s)
  else if VIPWAREHOUSE_MAX ≤ vipSlotIdx then (2, s)
  else
    match table req.itemId with
    | none => (2, s)
    | some item =>
      if HAVE_MAX ≤ req.dstPos then (2, s)
      else if !env.checkWeight table s.inventory req.itemId req.count then (2, s)
      else
        match s.inventory[dstSlotIdx]? with
        | none => (2, s)
        | some dst =>
          match fetchVip item req.itemId req.count env.nextItemSerial (s.vipSlot vipSlotIdx) dst with
          | none => (2, s)
          | some (src, dst) => (1, s.setItems (s.inventory.set dstSlotIdx dst) vipSlotIdx src)

def vipStorageToStore (env : VipEnv) (s : VipSession) (req : VipItemRequest) : ℕ × VipSession :=
  if s.vipVaultExpiry < env.now then (2, s)
  else if req.page > 1 ∨ req.referencePos + VIPWAREHOUSE_MAX < req.srcPos ∨
      req.referencePos + VIPWAREHOUSE_MAX < req.dstPos then (2, s)
  else if VIPWAREHOUSE_MAX ≤ req.srcPos ∨ VIPWAREHOUSE_MAX ≤ req.dstPos then (2, s)
  else if (s.vipSlot req.srcPos).itemId ≠ req.itemId ∨ (s.vipSlot req.dstPos).itemId ≠ 0 then (2, s)
  else
    (1, (s.setItems s.inventory req.dstPos (s.vipSlot req.srcPos)).setItems s.inventory req.srcPos {})

def vipInvenToInven (s : VipSession) (req : VipItemRequest) : ℕ × VipSession :=
  let srcIdx := SLOT_MAX + req.srcPos
  let dstIdx := SLOT_MAX + req.dstPos
  if req.page > 1 ∨ HAVE_MAX ≤ req.srcPos ∨ HAVE_MAX ≤ req.dstPos then (2, s)
  else if s.inventory.length ≤ srcIdx ∨ s.inventory.length ≤ dstIdx then (2, s)
  else (1, { s with inventory := s.inventory.swap srcIdx dstIdx })

def vipKeyDays (itemId : ℕ) : Option ℕ :=
  if itemId = VIP_VAULT_KEY then some 30
  else if itemId = VIP_SAFE_KEY_1 then some 1
  else if itemId = VIP_SAFE_KEY_7 then some 7
  else none

def vipUseVault (env : VipEnv) (s : VipSession) (req : VipItemRequest) : ℕ × VipSession :=
  let srcSlotIdx := SLOT_MAX + req.srcPos
  let slot := s.inventory.slot srcSlotIdx
  if byteLen s.vipPassword ≠ 4 then (2, s)
  else if env.now < s.vipVaultExpiry ∧
      MAX_VAULT_EXTENSION_SECS < s.vipVaultExpiry - env.now then (5, s)
  else
    match vipKeyDays req.itemId with
    | none => (2, s)
    | some days =>
      if HAVE_MAX ≤ req.srcPos then (2, s)
      else if slot.itemId ≠ req.itemId then (2, s)
      else if slot.flag = ITEM_FLAG_RENTED ∨ slot.flag = ITEM_FLAG_DUPLICATE then (2, s)
      else if ITEM_NO_TRADE_MIN ≤ req.itemId ∧ req.itemId ≤ ITEM_NO_TRADE_MAX then (2, s)
      else
        (1, { s with
          inventory := s.inventory.set srcSlotIdx {}
          vipVaultExpiry := (env.now + 60 * 60 * 24 * days) % 2 ^ 32 })

def vipSetPassword (s : VipSession) (password : List Char) : ℕ × VipSession :=
  if !isValidPin password then (2, s) else (1, s.setVipPassword password 1)

def vipCancelPassword (s : VipSession) : ℕ × VipSession := (1, s.setVipPassword [] 0)

def vipChangePassword (s : VipSession) (password : List Char) : ℕ × VipSession :=
  if !isValidPin password then (2, s)
  else (1, s.setVipPassword password s.vipPasswordRequest)

/-- A success sends the vault's contents and leaves nothing behind. -/
def vipEnterPassword (s : VipSession) (password : List Char) : ℕ :=
  if !isValidPin password then 2
  else if password ≠ s.vipPassword then 2
  else 1

def VipEnv.busy (env : VipEnv) : Bool :=
  env.isTrading || env.isMining || env.isMerchanting || env.isFishing

def handleVip (table : ItemTable) (env : VipEnv) (s : VipSession) (req : VipRequest) :
    VipAnswer × VipSession :=
  let answered (result : ℕ × VipSession) : VipAnswer × VipSession :=
    (some (req.opcode, result.1), result.2)
  if !env.inGame || env.isPlayerDead then (none, s)
  else if env.busy then (some (req.opcode, 2), s)
  else if (s.vipVaultExpiry = 0 ∨ s.vipVaultExpiry < env.now) ∧
      (req.opcode = VIP_INVEN_TO_STORAGE ∨ req.opcode = VIP_STORAGE_TO_STORE) then
    (some (req.opcode, 2), s)
  else
    match req with
    | .open npcId _ => (vipOpen env s npcId, s)
    | .invenToStorage req => answered (vipInvenToStorage table env s req)
    | .storageToInven req => answered (vipStorageToInven table env s req)
    | .storageToStore req => answered (vipStorageToStore env s req)
    | .invenToInven req => answered (vipInvenToInven s req)
    | .useVault req => answered (vipUseVault env s req)
    | .setPassword password => answered (vipSetPassword s password)
    | .cancelPassword => answered (vipCancelPassword s)
    | .changePassword password => answered (vipChangePassword s password)
    | .enterPassword password => answered (vipEnterPassword s password, s)
    | .unknown _ => (none, s)

end KoServer
