import KoServer.Spec.ItemMove
import KoServer.Spec.Merchant

/-! A player's shop from its preparation to its close, from `handler/merchant.rs` and the
merchant part of `world/trade.rs`, with the customers' purchases and the owner's own item
moves in between. -/

namespace KoServer

def MAX_MERCH_MESSAGE : ℕ := 40

inductive MerchantState
  | none | selling | buying
  deriving DecidableEq

/-- The owner of a shop; the buyer of the market is the last customer. -/
structure Shop where
  market : Market
  merchantState : MerchantState
  sellingMerchantPreparing : Bool
  petData : Option PetState
  equippedItems : List ℕ
  fairyCheck : Bool
  autoLoot : Bool

namespace Shop

def isMerchanting (s : Shop) : Bool := s.merchantState ≠ .none

def isSellingMerchant (s : Shop) : Bool := s.merchantState = .selling

def inventory (s : Shop) : Inventory := s.market.seller.inventory

def setInventory (s : Shop) (inv : Inventory) : Shop :=
  { s with market := { s.market with seller := { s.market.seller with inventory := inv } } }

def moveSession (s : Shop) : MoveSession :=
  ⟨s.inventory, s.petData, s.equippedItems, s.fairyCheck, s.autoLoot⟩

def putMoveSession (s : Shop) (t : MoveSession) : Shop :=
  { s.setInventory t.inventory with
    petData := t.petData
    equippedItems := t.equippedItems
    fairyCheck := t.fairyCheck
    autoLoot := t.autoLoot }

end Shop

/-- What a request of the owner reads besides the shop. -/
structure ShopEnv where
  isBuyingMerchantPreparing : Bool
  isPlayerDead : Bool
  isStoreOpen : Bool
  isTrading : Bool
  level : ℤ
  merchantLevel : ℤ

/-- The bit 0x10 of a `u8` cleared. -/
def clearMerchantFlag (s : UserItemSlot) : UserItemSlot := { s with flag := s.flag &&& 0xEF }

/-- `set_inventory_merchant_flag` with `false`. -/
def unsetMerchantFlag (inv : Inventory) (slot : ℕ) : Inventory :=
  inv.set slot (clearMerchantFlag (inv.slot slot))

/-- `close_merchant`. -/
def closeMerchant (s : Shop) : Shop :=
  { s with
    merchantState := .none
    sellingMerchantPreparing := false
    market :=
      { s.market with
        seller := { s.market.seller with inventory := s.inventory.map clearMerchantFlag }
        merchantItems := List.replicate MAX_MERCH_ITEMS {}
        items_length := emptied_length
        sellCount_lt := emptied_sellCount_lt } }

def merchantClose (s : Shop) : Shop :=
  if !s.isSellingMerchant && !s.sellingMerchantPreparing then s else closeMerchant s

/-- An owner whose shop is open already closes it by asking again. -/
def merchantOpen (env : ShopEnv) (s : Shop) : Shop :=
  if env.isBuyingMerchantPreparing then s
  else if env.isPlayerDead || env.isStoreOpen || env.isTrading || env.level < env.merchantLevel then s
  else if s.isMerchanting then merchantClose s
  else { s with sellingMerchantPreparing := true }

/-- `merchant_item_add` on the shop. -/
def shopItemAdd (table : ItemTable) (ctx : AddContext) (s : Shop) (req : AddRequest) : Shop :=
  let ctx := { ctx with
    table := table
    sellingMerchantPreparing := s.sellingMerchantPreparing }
  { s with market := merchantItemAdd ctx s.market req }

def merchantItemCancel (env : ShopEnv) (s : Shop) (slotPos : ℕ) : Shop :=
  if !s.sellingMerchantPreparing || env.isBuyingMerchantPreparing then s
  else if MAX_MERCH_ITEMS ≤ slotPos then s
  else
    let merch := s.market.listing slotPos
    if merch.itemId = 0 then s
    else
      match s.inventory[merch.originalSlot]? with
      | none => s
      | some invSlot =>
        if invSlot.itemId ≠ merch.itemId ∨ invSlot.count ≠ merch.sellCount then s
        else
          let s := s.setInventory (unsetMerchantFlag s.inventory merch.originalSlot)
          { s with market := s.market.setListing slotPos {} (by decide) }

def merchantInsert (env : ShopEnv) (s : Shop) (advertLen : ℕ) : Shop :=
  if !s.sellingMerchantPreparing || env.isBuyingMerchantPreparing then s
  else if MAX_MERCH_MESSAGE < advertLen then s
  else
    let totalItems := s.market.merchantItems.countP fun item => 0 < item.itemId
    if totalItems = 0 ∨ 12 < totalItems then s
    else { s with merchantState := .selling, sellingMerchantPreparing := false }

/-- A purchase, by whoever stands in front of the shop, and the end of a shop that has nothing
left to sell. -/
def shopItemBuy (table : ItemTable) (ctx : BuyContext) (s : Shop) (buyer : Trader)
    (req : BuyRequest) : Shop :=
  let ctx := { ctx with
    table := table
    sellingMerchant := s.isSellingMerchant
    sellingMerchantPreparing := s.sellingMerchantPreparing }
  let (sold, market) := merchantItemBuy ctx { s.market with buyer := buyer } req
  let s := { s with market := market }
  if sold && !market.merchantItems.any (fun item => item.itemId ≠ 0 && !item.soldOut) then
    closeMerchant s
  else s

def Shop.moveContext (table : ItemTable) (ctx : MoveContext) (s : Shop) : MoveContext :=
  { ctx with table := table, merchanting := s.isMerchanting }

/-- `handle` of the item moves for the owner. -/
def shopItemMove (table : ItemTable) (ctx : MoveContext) (s : Shop) (data : List UInt8) : Shop :=
  s.putMoveSession (handleItemMove (s.moveContext table ctx) s.moveSession data).2

inductive ShopStep
  | openShop (env : ShopEnv)
  | itemAdd (ctx : AddContext) (req : AddRequest)
  | itemCancel (env : ShopEnv) (slotPos : ℕ)
  | insert (env : ShopEnv) (advertLen : ℕ)
  | close
  | buy (ctx : BuyContext) (buyer : Trader) (req : BuyRequest)
  | itemMove (ctx : MoveContext) (data : List UInt8)

def shopStep (table : ItemTable) (s : Shop) : ShopStep → Shop
  | .openShop env => merchantOpen env s
  | .itemAdd ctx req => shopItemAdd table ctx s req
  | .itemCancel env slotPos => merchantItemCancel env s slotPos
  | .insert env advertLen => merchantInsert env s advertLen
  | .close => merchantClose s
  | .buy ctx buyer req => shopItemBuy table ctx s buyer req
  | .itemMove ctx data => shopItemMove table ctx s data

end KoServer
