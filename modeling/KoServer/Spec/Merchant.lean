import Mathlib.Data.List.GetD
import KoServer.Spec.Inventory

/-! A player's shop, from `handler/merchant.rs` and the merchant part of `world/trade.rs`:
listing goods while the shop is being prepared, and buying from it. -/

namespace KoServer

def MAX_MERCH_ITEMS : ℕ := 12
def MERCHANT_FLAG : ℕ := 0x10

structure MerchData where
  itemId : ℕ := 0
  durability : ℤ := 0
  sellCount : ℕ := 0
  originalCount : ℕ := 0
  serialNum : ℕ := 0
  price : ℕ := 0
  originalSlot : ℕ := 0
  soldOut : Bool := false
  isKc : Bool := false
  deriving DecidableEq

theorem emptied_length : (List.replicate MAX_MERCH_ITEMS ({} : MerchData)).length = MAX_MERCH_ITEMS :=
  List.length_replicate

theorem emptied_sellCount_lt :
    ∀ item ∈ List.replicate MAX_MERCH_ITEMS ({} : MerchData), item.sellCount < 2 ^ 16 := by
  intro item hitem
  rw [List.eq_of_mem_replicate hitem]
  decide

structure Trader where
  inventory : Inventory
  gold : ℕ
  knightCash : ℕ
  deriving DecidableEq

/-- The owner of a shop with its twelve places, and a player in front of it. -/
@[ext] structure Market where
  seller : Trader
  merchantItems : List MerchData
  items_length : merchantItems.length = MAX_MERCH_ITEMS
  sellCount_lt : ∀ item ∈ merchantItems, item.sellCount < 2 ^ 16
  drGmTotalSold : ℕ
  buyer : Trader
  deriving DecidableEq

def Market.listing (m : Market) (itemSlot : ℕ) : MerchData := m.merchantItems.getD itemSlot {}

theorem Market.listing_lt (m : Market) (itemSlot : ℕ) : (m.listing itemSlot).sellCount < 2 ^ 16 := by
  unfold listing
  rcases Nat.lt_or_ge itemSlot m.merchantItems.length with h | h
  · rw [List.getD_eq_getElem _ _ h]
    exact m.sellCount_lt _ (List.getElem_mem h)
  · rw [List.getD_eq_default _ _ h]
    decide

def Market.setListing (m : Market) (itemSlot : ℕ) (data : MerchData) (h : data.sellCount < 2 ^ 16) :
    Market :=
  { m with
    merchantItems := m.merchantItems.set itemSlot data
    items_length := by rw [List.length_set, m.items_length]
    sellCount_lt := fun item hitem => (List.mem_or_eq_of_mem_set hitem).elim
      (m.sellCount_lt item) (fun heq => heq ▸ h) }

structure AddContext where
  table : ItemTable
  sellingMerchantPreparing : Bool
  buyingMerchantPreparing : Bool
  merchantMinCash : ℤ

structure AddRequest where
  itemId : ℕ
  count : ℕ
  count_lt : count < 2 ^ 16
  gold : ℕ
  srcPos : ℕ
  dstPos : ℕ
  isKc : ℕ

/-- An `as u32` of a signed number. -/
def asU32 (n : ℤ) : ℕ := (n % 2 ^ 32).toNat

theorem asU32_lt (n : ℤ) : asU32 n < 2 ^ 32 := by
  unfold asU32
  omega

/-- The checks of `merchant_item_add` on the item and on the slot it is taken from. -/
def addRefused (ctx : AddContext) (m : Market) (req : AddRequest) : Bool :=
  req.itemId = 0 || req.count = 0 || HAVE_MAX ≤ req.srcPos || MAX_MERCH_ITEMS ≤ req.dstPos ||
  m.merchantItems.any (fun item => item.itemId ≠ 0 && item.originalSlot = req.srcPos + SLOT_MAX) ||
  match ctx.table req.itemId with
  | none => true
  | some itemDef =>
    ITEM_NO_TRADE_MIN ≤ req.itemId && req.itemId ≤ ITEM_NO_TRADE_MAX ||
    itemDef.race.getD 0 = RACE_UNTRADEABLE || itemDef.countableD = 2 ||
    itemDef.kindD = ITEM_KIND_UNIQUE && req.count ≠ 1 ||
    itemDef.countableD = 1 && ITEMCOUNT_MAX < req.count ||
    match m.seller.inventory[SLOT_MAX + req.srcPos]? with
    | none => true
    | some slot =>
      slot.itemId ≠ req.itemId || slot.count = 0 || slot.count < req.count ||
      slot.flag = ITEM_FLAG_RENTED || slot.flag = ITEM_FLAG_SEALED || slot.flag = ITEM_FLAG_BOUND ||
      slot.flag = ITEM_FLAG_DUPLICATE || 0 < slot.expireTime ||
      req.isKc ≠ 0 && 0 < ctx.merchantMinCash && req.gold < asU32 ctx.merchantMinCash ||
      (m.listing req.dstPos).itemId ≠ 0

/-- `set_inventory_merchant_flag` with `true`. -/
def setMerchantFlag (inv : Inventory) (slot : ℕ) : Inventory :=
  inv.set slot { inv.slot slot with flag := (inv.slot slot).flag ||| MERCHANT_FLAG }

/-- The entry `merchant_item_add` makes. -/
def newListing (ctx : AddContext) (slot : UserItemSlot) (req : AddRequest) : MerchData where
  itemId := req.itemId
  durability := slot.durability
  sellCount :=
    if ((ctx.table req.itemId).bind Item.kind).getD 0 = ITEM_KIND_UNIQUE ∧
        ((ctx.table req.itemId).bind Item.countable).getD 0 = 0 then 1
    else req.count
  originalCount := slot.count
  serialNum := slot.serialNum
  price := req.gold
  originalSlot := req.srcPos + SLOT_MAX
  soldOut := false
  isKc := req.isKc ≠ 0

theorem newListing_lt (ctx : AddContext) (slot : UserItemSlot) (req : AddRequest) :
    (newListing ctx slot req).sellCount < 2 ^ 16 := by
  unfold newListing
  dsimp only
  split_ifs
  · decide
  · exact req.count_lt

def merchantItemAdd (ctx : AddContext) (m : Market) (req : AddRequest) : Market :=
  if !ctx.sellingMerchantPreparing || ctx.buyingMerchantPreparing then m
  else if addRefused ctx m req then m
  else
    let slot := m.seller.inventory.slot (SLOT_MAX + req.srcPos)
    { m.setListing req.dstPos (newListing ctx slot req) (newListing_lt ctx slot req) with
      seller := { m.seller with
        inventory := setMerchantFlag m.seller.inventory (SLOT_MAX + req.srcPos) } }

/-- The listing with `buy_count` units fewer. -/
def MerchData.taken (slot : MerchData) (buyCount : ℕ) : MerchData :=
  let sellCount := slot.sellCount - buyCount
  { slot with sellCount := sellCount, soldOut := if sellCount = 0 then true else slot.soldOut }

theorem MerchData.taken_lt {slot : MerchData} (h : slot.sellCount < 2 ^ 16) (buyCount : ℕ) :
    (slot.taken buyCount).sellCount < 2 ^ 16 := Nat.lt_of_le_of_lt (Nat.sub_le _ _) h

def tryMerchantBuy (m : Market) (itemSlot expectedItemId buyCount : ℕ) : Option (MerchData × Market) :=
  if MAX_MERCH_ITEMS ≤ itemSlot then none
  else
    let slot := m.listing itemSlot
    if slot.itemId = 0 ∨ slot.itemId ≠ expectedItemId ∨ slot.soldOut ∨ slot.sellCount < buyCount ∨
        slot.price = 0 then none
    else
      some (slot, m.setListing itemSlot (slot.taken buyCount)
        (MerchData.taken_lt (m.listing_lt itemSlot) buyCount))

/-- The listing with the units back, where the addition saturates. -/
def MerchData.restored (slot : MerchData) (expectedItemId count : ℕ) : MerchData :=
  { slot with
    itemId := if slot.itemId = 0 then expectedItemId else slot.itemId
    sellCount := min (slot.sellCount + count) 65535
    soldOut := false }

theorem MerchData.restored_lt (slot : MerchData) (expectedItemId count : ℕ) :
    (slot.restored expectedItemId count).sellCount < 2 ^ 16 := by
  show min _ _ < _
  omega

def restoreMerchantBuy (m : Market) (itemSlot expectedItemId count : ℕ) : Market :=
  if MAX_MERCH_ITEMS ≤ itemSlot then m
  else
    let slot := m.listing itemSlot
    if slot.itemId = expectedItemId ∨ (slot.soldOut ∧ slot.itemId = 0) then
      m.setListing itemSlot (slot.restored expectedItemId count)
        (slot.restored_lt expectedItemId count)
    else m

/-- What `merchant_item_buy` reads of the two players besides the market. -/
structure BuyContext where
  table : ItemTable
  browsing : Bool
  ownShop : Bool
  buyerBusy : Bool
  sellingMerchant : Bool
  sellingMerchantPreparing : Bool
  sameZone : Bool
  inRange : Bool
  itemWeight : ℕ
  maxWeight : ℕ
  buyerCharacter : Bool
  sellerOffline : Bool

structure BuyRequest where
  itemId : ℕ
  itemCount : ℕ
  itemSlot : ℕ
  destSlot : ℕ

def saturatingMul32 (a b : ℕ) : ℕ := min (a * b) (2 ^ 32 - 1)

def saturatingAdd32 (a b : ℕ) : ℕ := min (a + b) (2 ^ 32 - 1)

/-- The listing still offers the goods, and the owner's slot still has them. -/
def goodsPresent (m : Market) (req : BuyRequest) : Bool :=
  let merch := m.listing req.itemSlot
  merch.itemId = req.itemId && !merch.soldOut && req.itemCount ≤ merch.sellCount &&
  merch.price ≠ 0 &&
  match m.seller.inventory[merch.originalSlot]? with
  | none => false
  | some sellerItem =>
    sellerItem.itemId = req.itemId && 0 < sellerItem.count && req.itemCount ≤ sellerItem.count

/-- The checks before anything is taken, in the order of the source. -/
def buyRefused (ctx : BuyContext) (m : Market) (req : BuyRequest) : Bool :=
  !ctx.browsing || ctx.ownShop || ctx.buyerBusy ||
  !ctx.sellingMerchant || ctx.sellingMerchantPreparing || !ctx.sameZone || !ctx.inRange ||
  MAX_MERCH_ITEMS ≤ req.itemSlot || HAVE_MAX ≤ req.destSlot || req.itemCount = 0 ||
  match ctx.table req.itemId with
  | none => true
  | some itemDef =>
    let destItem := m.buyer.inventory.slot (SLOT_MAX + req.destSlot)
    itemDef.countableD = 0 && req.itemCount ≠ 1 ||
    ctx.maxWeight < saturatingAdd32
      (saturatingMul32 (asU32 (itemDef.weight.getD 0)) req.itemCount) ctx.itemWeight ||
    destItem.itemId ≠ 0 && (destItem.itemId ≠ req.itemId || itemDef.countableD = 0) ||
    destItem.itemId ≠ 0 && itemDef.countableD = 1 &&
      ITEMCOUNT_MAX < (destItem.count + req.itemCount) % 2 ^ 16 ||
    !goodsPresent m req

/-- `cash_lose`, where the amount 0 is always there. -/
def cashLose (t : Trader) (amount : ℕ) : Option Trader :=
  if amount = 0 then some t
  else if t.knightCash < amount then none
  else some { t with knightCash := t.knightCash - amount }

def cashGain (t : Trader) (amount : ℕ) : Trader :=
  { t with knightCash := saturatingAdd32 t.knightCash amount }

/-- The payment, from the buyer to the seller; `none` sends the goods back. -/
def payMerchant (ctx : BuyContext) (isKc : Bool) (reqPrice : ℕ) (m : Market) : Option Market :=
  if isKc then
    match cashLose m.buyer reqPrice with
    | none => none
    | some buyer =>
      some { m with
        buyer := buyer
        seller := if ctx.sellerOffline then m.seller else cashGain m.seller reqPrice }
  else if !ctx.buyerCharacter then none
  else if m.buyer.gold < reqPrice then none
  else if m.seller.gold + reqPrice > COIN_MAX then none
  else
    match goldLose m.buyer.gold reqPrice with
    | none => none
    | some gold =>
      some { m with
        buyer := { m.buyer with gold := gold }
        seller := { m.seller with gold := goldGain m.seller.gold reqPrice } }

/-- Into the buyer's slot; a bag that is too short takes nothing. -/
def receiveGoods (inv : Inventory) (actualDest : ℕ) (req : BuyRequest) (merch : MerchData) :
    Inventory :=
  if inv.length ≤ actualDest then inv
  else
    let dest := inv.slot actualDest
    inv.set actualDest
      { dest with
        itemId := req.itemId
        count := min ((dest.count + req.itemCount) % 2 ^ 16) ITEMCOUNT_MAX
        durability := merch.durability
        serialNum := if dest.serialNum = 0 then merch.serialNum else dest.serialNum }

def fullySold (ctx : BuyContext) (merch : MerchData) (req : BuyRequest) : Bool :=
  merch.sellCount - req.itemCount = 0 ||
    (((ctx.table req.itemId).bind Item.countable).getD 0 = 0 &&
      ((ctx.table req.itemId).bind Item.kind).getD 0 = ITEM_KIND_UNIQUE)

/-- Out of the seller's slot: everything when fully sold, else what was bought. -/
def handOver (fully : Bool) (inv : Inventory) (pos : ℕ) (req : BuyRequest) : Inventory :=
  if pos < inv.length ∧ (inv.slot pos).itemId = req.itemId then
    if fully then inv.set pos {}
    else
      let count := (inv.slot pos).count - req.itemCount
      if count = 0 then inv.set pos {} else inv.set pos { inv.slot pos with count := count }
  else inv

def merchantItemBuy (ctx : BuyContext) (m : Market) (req : BuyRequest) : Bool × Market :=
  if buyRefused ctx m req then (false, m)
  else
    match tryMerchantBuy m req.itemSlot req.itemId req.itemCount with
    | none => (false, m)
    | some (merch, taken) =>
      let reqPrice := saturatingMul32 merch.price req.itemCount
      match payMerchant ctx merch.isKc reqPrice taken with
      | none => (false, restoreMerchantBuy taken req.itemSlot req.itemId req.itemCount)
      | some paid =>
        let fully := fullySold ctx merch req
        let closed :=
          if fully then paid.setListing req.itemSlot { soldOut := true } (by decide) else paid
        (true,
          { closed with
            drGmTotalSold := paid.drGmTotalSold + reqPrice
            buyer := { paid.buyer with
              inventory := receiveGoods paid.buyer.inventory (SLOT_MAX + req.destSlot) req merch }
            seller := { paid.seller with
              inventory := handOver fully paid.seller.inventory merch.originalSlot req } })

/-- What a `try_merchant_buy` took, as its purchase remembers it. -/
structure MerchantTake where
  itemSlot : ℕ
  itemId : ℕ
  count : ℕ
  deriving DecidableEq

/-- A shop and what the purchases took from it that have not given it back. -/
@[ext] structure StockState where
  market : Market
  takes : List MerchantTake
  deriving DecidableEq

inductive StockStep
  | take (req : BuyRequest)
  | restore (i : ℕ)

/-- A purchase comes to its `try_merchant_buy` with a place of the shop and a count that it has
checked; a purchase that fails after it gives back what it took. -/
def stockStep (s : StockState) : StockStep → StockState
  | .take req =>
    if MAX_MERCH_ITEMS ≤ req.itemSlot ∨ req.itemCount = 0 then s
    else
      match tryMerchantBuy s.market req.itemSlot req.itemId req.itemCount with
      | none => s
      | some (_, market) => ⟨market, s.takes ++ [⟨req.itemSlot, req.itemId, req.itemCount⟩]⟩
  | .restore i =>
    match s.takes[i]? with
    | none => s
    | some t => ⟨restoreMerchantBuy s.market t.itemSlot t.itemId t.count, s.takes.eraseIdx i⟩

end KoServer
