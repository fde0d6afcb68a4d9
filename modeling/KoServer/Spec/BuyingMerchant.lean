import KoServer.Spec.Merchant
import KoServer.Spec.Trade

/-! A shop that buys, from `handler/merchant.rs` and the merchant part of `world/trade.rs`: the
owner posts a list of wanted items, and other players sell to it. -/

namespace KoServer

structure BuyingMarket where
  merchant : Trader
  isBuyingMerchant : Bool
  isBuyingMerchantPreparing : Bool
  merchantItems : List MerchData
  items_length : merchantItems.length = MAX_MERCH_ITEMS
  seller : Trader

namespace BuyingMarket

def wanted (m : BuyingMarket) (listSlot : ℕ) : MerchData := m.merchantItems.getD listSlot {}

def setWanted (m : BuyingMarket) (listSlot : ℕ) (data : MerchData) : BuyingMarket :=
  { m with
    merchantItems := m.merchantItems.set listSlot data
    items_length := by rw [List.length_set, m.items_length] }

def close (m : BuyingMarket) : BuyingMarket :=
  { m with
    isBuyingMerchant := false
    isBuyingMerchantPreparing := false
    merchantItems := List.replicate MAX_MERCH_ITEMS {}
    items_length := emptied_length }

end BuyingMarket

/-- What opening and posting read of the owner besides the market. -/
structure ShopContext where
  table : ItemTable
  isSellingMerchantPreparing : Bool
  isSellingMerchant : Bool
  isPlayerDead : Bool
  isStoreOpen : Bool
  isTrading : Bool
  isMining : Bool
  isFishing : Bool
  level : ℤ
  merchantLevel : ℤ

def closeInternal (m : BuyingMarket) : BuyingMarket :=
  if !m.isBuyingMerchant && !m.isBuyingMerchantPreparing then m else m.close

def buyingMerchantOpen (ctx : ShopContext) (m : BuyingMarket) : BuyingMarket :=
  if ctx.isSellingMerchantPreparing then m
  else if ctx.isPlayerDead || ctx.isStoreOpen || ctx.isTrading || ctx.level < ctx.merchantLevel then m
  else if ctx.isSellingMerchant || m.isBuyingMerchant then closeInternal m
  else
    { m with
      isBuyingMerchantPreparing := true
      merchantItems := List.replicate MAX_MERCH_ITEMS {}
      items_length := emptied_length }

structure WantedItem where
  itemId : ℕ
  count : ℕ
  price : ℕ

def wantedRefused (table : ItemTable) (item : WantedItem) : Bool :=
  item.itemId = 0 || item.count = 0 || item.price = 0 ||
  match table item.itemId with
  | none => true
  | some itemDef =>
    ITEM_NO_TRADE_MIN ≤ item.itemId && item.itemId ≤ ITEM_NO_TRADE_MAX ||
    itemDef.race.getD 0 = RACE_UNTRADEABLE || itemDef.countableD = 2 ||
    itemDef.countableD = 0 && item.count ≠ 1 ||
    itemDef.kindD = ITEM_KIND_UNIQUE && itemDef.countableD = 0 && item.count ≠ 1

def wantedEntry (table : ItemTable) (item : WantedItem) : MerchData where
  itemId := item.itemId
  durability := ((table item.itemId).bind Item.duration).getD 0
  sellCount := item.count
  price := item.price

def insertRefused (ctx : ShopContext) (m : BuyingMarket) (items : List WantedItem) : Bool :=
  !m.isBuyingMerchantPreparing || ctx.isSellingMerchantPreparing ||
  ctx.isSellingMerchant || m.isBuyingMerchant ||
  ctx.isPlayerDead || ctx.isTrading || ctx.isMining || ctx.isFishing ||
  ctx.level < ctx.merchantLevel || items.isEmpty || MAX_MERCH_ITEMS < items.length ||
  items.any (wantedRefused ctx.table) ||
  m.merchant.gold < (items.map fun item => item.price * item.count).sum

def buyingMerchantInsert (ctx : ShopContext) (m : BuyingMarket) (items : List WantedItem) :
    BuyingMarket :=
  if insertRefused ctx m items then m
  else
    { items.zipIdx.foldl (fun m entry => m.setWanted entry.2 (wantedEntry ctx.table entry.1)) m with
      isBuyingMerchant := true
      isBuyingMerchantPreparing := false }

/-- What `buying_merchant_buy` reads of the two players besides the market. -/
structure BuyingContext where
  table : ItemTable
  browsing : Bool
  ownShop : Bool
  merchantCharacter : Bool

structure BuyingRequest where
  sellerSrcSlot : ℕ
  merchantListSlot : ℕ
  stackSize : ℕ
  stackSize_lt : stackSize < 2 ^ 16

def BuyingRequest.actualSlot (req : BuyingRequest) : ℕ := SLOT_MAX + req.sellerSrcSlot

def sellerItemRefused (table : ItemTable) (wanted : MerchData) (sellerItem : UserItemSlot)
    (stackSize : ℕ) : Bool :=
  sellerItem.itemId ≠ wanted.itemId || sellerItem.count < stackSize ||
  sellerItem.flag = ITEM_FLAG_SEALED || sellerItem.flag = ITEM_FLAG_BOUND ||
  sellerItem.flag = ITEM_FLAG_RENTED || sellerItem.flag = ITEM_FLAG_DUPLICATE ||
  match table wanted.itemId with
  | none => true
  | some itemDef =>
    itemDef.countableD = 0 && stackSize ≠ 1 ||
    0 ≤ wanted.durability && sellerItem.durability ≠ wanted.durability

/-- The owner has not got `totalPrice`. -/
def cannotPay (ctx : BuyingContext) (m : BuyingMarket) (isKc : Bool) (totalPrice : ℕ) : Bool :=
  if isKc then m.merchant.knightCash < totalPrice
  else !ctx.merchantCharacter || m.merchant.gold < totalPrice

/-- The checks before anything is moved, in the order of the source. -/
def buyingRefused (ctx : BuyingContext) (m : BuyingMarket) (req : BuyingRequest) : Bool :=
  !ctx.browsing || ctx.ownShop || !m.isBuyingMerchant ||
  req.stackSize = 0 || HAVE_MAX ≤ req.sellerSrcSlot || MAX_MERCH_ITEMS ≤ req.merchantListSlot ||
  let wanted := m.wanted req.merchantListSlot
  wanted.itemId = 0 || wanted.soldOut || wanted.sellCount < req.stackSize ||
  match m.seller.inventory[req.actualSlot]? with
  | none => true
  | some sellerItem =>
    sellerItemRefused ctx.table wanted sellerItem req.stackSize ||
    cannotPay ctx m wanted.isKc (saturatingMul32 wanted.price req.stackSize)

/-- The payment; `gold_lose` may refuse, and nothing is made of it. -/
def payWanted (m : BuyingMarket) (isKc : Bool) (totalPrice : ℕ) : Option BuyingMarket :=
  if isKc then
    match cashLose m.merchant totalPrice with
    | none => none
    | some merchant =>
      some { m with merchant := merchant, seller := cashGain m.seller totalPrice }
  else
    some { m with
      merchant := { m.merchant with
        gold := (goldLose m.merchant.gold totalPrice).getD m.merchant.gold }
      seller := { m.seller with gold := goldGain m.seller.gold totalPrice } }

/-- The entry with `stack_size` units fewer; an empty one when nothing remains. -/
def MerchData.satisfied (wanted : MerchData) (stackSize : ℕ) : MerchData :=
  let remainingWanted := wanted.sellCount - stackSize
  if remainingWanted = 0 then {} else { wanted with sellCount := remainingWanted }

/-- Into the owner's slot, where a stack grows as far as sixteen bits go. -/
def takeIn (inv : Inventory) (buyerDest : ℕ) (wanted : MerchData) (sellerItem : UserItemSlot)
    (stackSize : ℕ) : Inventory :=
  if inv.length ≤ buyerDest then inv
  else
    let dest := inv.slot buyerDest
    if dest.itemId = wanted.itemId then
      inv.set buyerDest { dest with count := min (dest.count + stackSize) 65535 }
    else
      inv.set buyerDest
        { dest with
          itemId := wanted.itemId
          count := stackSize
          durability := sellerItem.durability
          serialNum := sellerItem.serialNum }

def giveUp (inv : Inventory) (actualSlot : ℕ) (sellerItem : UserItemSlot) (stackSize : ℕ) :
    Inventory :=
  let sellerRemaining := sellerItem.count - stackSize
  if inv.length ≤ actualSlot then inv
  else if sellerRemaining = 0 then inv.set actualSlot {}
  else inv.set actualSlot { inv.slot actualSlot with count := sellerRemaining }

def closeIfDone (m : BuyingMarket) : BuyingMarket :=
  if m.merchantItems.all (·.itemId = 0) then m.close else m

def buyingMerchantBuy (ctx : BuyingContext) (m : BuyingMarket) (req : BuyingRequest) :
    Bool × BuyingMarket :=
  if buyingRefused ctx m req then (false, m)
  else
    let wanted := m.wanted req.merchantListSlot
    let sellerItem := m.seller.inventory.slot req.actualSlot
    match findSlotForItem ctx.table m.merchant.inventory wanted.itemId req.stackSize with
    | none => (false, m)
    | some buyerDest =>
      match payWanted m wanted.isKc (saturatingMul32 wanted.price req.stackSize) with
      | none => (false, m)
      | some paid =>
        let listed := paid.setWanted req.merchantListSlot (wanted.satisfied req.stackSize)
        (true,
          closeIfDone
            { listed with
              merchant := { listed.merchant with
                inventory := takeIn listed.merchant.inventory buyerDest wanted sellerItem
                  req.stackSize }
              seller := { listed.seller with
                inventory := giveUp listed.seller.inventory req.actualSlot sellerItem
                  req.stackSize } })

end KoServer
