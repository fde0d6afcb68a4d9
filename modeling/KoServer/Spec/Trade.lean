import Mathlib.Data.List.GetD
import KoServer.Spec.Inventory

/-! Trading between players: `handler/trade.rs`, the trade part of `world/trade.rs`, and the
slot search of `world/inventory.rs`. A handler runs on the whole world at once here. -/

namespace KoServer

abbrev SessionId := ℕ

inductive TradeState where
  | none
  | sender
  | target
  | trading
  | deciding
  deriving DecidableEq

structure ExchangeItem where
  itemId : ℕ
  count : ℕ
  durability : ℤ := 0
  serialNum : ℕ := 0
  srcPos : ℕ
  deriving DecidableEq

structure Session where
  inventory : Inventory
  gold : ℕ
  tradeState : TradeState := .none
  exchangeUser : Option SessionId := none
  exchangeItems : List ExchangeItem := []
  isRequestSender : Bool := false
  deriving DecidableEq

namespace Session

def absent : Session where
  inventory := []
  gold := 0

def goldGain (h : Session) (amount : ℕ) : Session :=
  { h with gold := KoServer.goldGain h.gold amount }

/-- `gold_lose`, which leaves the gold when there is too little. -/
def goldLose (h : Session) (amount : ℕ) : Session :=
  { h with gold := if amount ≤ h.gold then h.gold - amount else h.gold }

def resetTrade (h : Session) : Session :=
  { h with tradeState := .none, exchangeUser := none, exchangeItems := [], isRequestSender := false }

def setTradeState (state : TradeState) (h : Session) : Session := { h with tradeState := state }

def addExchangeItem (item : ExchangeItem) (h : Session) : Session :=
  { h with exchangeItems := h.exchangeItems ++ [item] }

end Session

/-- An `as u16`. -/
def asU16 (n : ℕ) : ℕ := n % 2 ^ 16

/-- `update_exchange_item_count`: the first entry of the item, if there is one. -/
def updateExchangeItemCount (itemId addCount : ℕ) : List ExchangeItem → Option (List ExchangeItem)
  | [] => none
  | ex :: items =>
    if ex.itemId = itemId then
      some ({ ex with count := min (ex.count + addCount) (2 ^ 32 - 1) } :: items)
    else (updateExchangeItemCount itemId addCount items).map (ex :: ·)

/-- One entry of `exchange_give_items_back` into the slot it came from. -/
def returnItem (inv : Inventory) (ex : ExchangeItem) : Inventory :=
  if inv.length ≤ ex.srcPos then inv
  else
    let slot := inv.slot ex.srcPos
    if slot.itemId = ex.itemId then
      inv.set ex.srcPos
        { slot with count := min ((slot.count + asU16 ex.count) % 2 ^ 16) ITEMCOUNT_MAX }
    else if slot.itemId = 0 then
      inv.set ex.srcPos
        { slot with
          itemId := ex.itemId
          count := asU16 ex.count
          durability := ex.durability
          serialNum := ex.serialNum }
    else inv

namespace Session

def giveItemBack (h : Session) (ex : ExchangeItem) : Session :=
  if ex.itemId = ITEM_GOLD then h.goldGain ex.count
  else { h with inventory := returnItem h.inventory ex }

/-- `exchange_give_items_back`. -/
def giveItemsBack (h : Session) : Session := h.exchangeItems.foldl giveItemBack h

end Session

/-- The bag slots `SLOT_MAX..SLOT_MAX + HAVE_MAX`. -/
def bagSlots : List ℕ := (List.range HAVE_MAX).map (SLOT_MAX + ·)

def freeSlot (inv : Inventory) (i : ℕ) : Bool := i < inv.length && (inv.slot i).itemId = 0

/-- `slot.count + count` is a sum of `u16`s. -/
def stackWithRoom (inv : Inventory) (itemId count i : ℕ) : Bool :=
  i < inv.length && (inv.slot i).itemId = itemId &&
    ((inv.slot i).count + count) % 2 ^ 16 ≤ ITEMCOUNT_MAX

def findSlotForItem (table : ItemTable) (inv : Inventory) (itemId count : ℕ) : Option ℕ :=
  match table itemId with
  | none => none
  | some item =>
    if 0 < item.countableD then
      match bagSlots.find? (stackWithRoom inv itemId count) with
      | some i => some i
      | none => bagSlots.find? (freeSlot inv)
    else bagSlots.find? (freeSlot inv)

def countFreeSlots (inv : Inventory) : ℕ := bagSlots.countP (freeSlot inv)

/-- `item.countable` of the table, 0 where there is none. -/
def countableOf (table : ItemTable) (itemId : ℕ) : ℤ :=
  ((table itemId).bind Item.countable).getD 0

def placeItem (table : ItemTable) (inv : Inventory) (slot : ℕ) (ex : ExchangeItem) : Inventory :=
  if inv.length ≤ slot then inv
  else
    let dst := inv.slot slot
    inv.set slot
      { dst with
        itemId := ex.itemId
        count :=
          if countableOf table ex.itemId = 0 then 1
          else min ((dst.count + asU16 ex.count) % 2 ^ 16) ITEMCOUNT_MAX
        durability := if dst.itemId = 0 then ex.durability else dst.durability
        serialNum := if dst.itemId = 0 then ex.serialNum else dst.serialNum }

namespace Session

/-- One round of the delivery loop; an item without a slot is passed over. -/
def receiveItem (table : ItemTable) (h : Session) (ex : ExchangeItem) : Session :=
  if ex.itemId = ITEM_GOLD then h.goldGain ex.count
  else
    match findSlotForItem table h.inventory ex.itemId (asU16 ex.count) with
    | none => h
    | some slot => { h with inventory := placeItem table h.inventory slot ex }

def clearSource (h : Session) (ex : ExchangeItem) : Session :=
  if ex.itemId = ITEM_GOLD then h
  else if ex.srcPos < h.inventory.length ∧ (h.inventory.slot ex.srcPos).count = 0 then
    { h with inventory := h.inventory.set ex.srcPos {} }
  else h

end Session

/-- `sessions`; `none` where no session is in game. -/
abbrev World := SessionId → Option Session

namespace World

variable (w : World)

def session (sid : SessionId) : Session := (w sid).getD Session.absent

def modify (sid : SessionId) (f : Session → Session) : World :=
  fun s => if s = sid then (w s).map f else w s

def tradeState (sid : SessionId) : TradeState := (w.session sid).tradeState

def exchangeUser (sid : SessionId) : Option SessionId := (w.session sid).exchangeUser

def isTrading (sid : SessionId) : Bool := (w.exchangeUser sid).isSome

def exchangeItems (sid : SessionId) : List ExchangeItem := (w.session sid).exchangeItems

def resetTrade (sid : SessionId) : World := w.modify sid Session.resetTrade

def giveItemsBack (sid : SessionId) : World := w.modify sid Session.giveItemsBack

def initTradeRequest (sender target : SessionId) : World :=
  (w.modify sender fun h =>
      { h with exchangeUser := some target, tradeState := .sender, isRequestSender := true }).modify
    target fun h => { h with exchangeUser := some sender, tradeState := .target }

def tradeAgree (sid : SessionId) : World :=
  let w' := w.modify sid (Session.setTradeState .trading)
  match w.exchangeUser sid with
  | none => w'
  | some pid => w'.modify pid (Session.setTradeState .trading)

def tradeDecline (sid : SessionId) : World :=
  match w.exchangeUser sid with
  | none => w.resetTrade sid
  | some pid => (w.resetTrade sid).resetTrade pid

end World
/-- What the handlers read of the players besides the trade. It may be anything at every step. -/
structure TradeEnv where
  isPlayerDead : SessionId → Bool
  isMerchanting : SessionId → Bool
  isMining : SessionId → Bool
  isFishing : SessionId → Bool
  isSellingMerchantPreparing : SessionId → Bool
  isBuyingMerchantPreparing : SessionId → Bool
  genieActive : SessionId → Bool
  authority : SessionId → ℕ
  name : SessionId → String
  /-- The account of the first is named, and is the account of the second. -/
  sameAccount : SessionId → SessionId → Bool
  nation : SessionId → ℕ
  level : SessionId → ℤ
  zoneId : SessionId → ℕ
  canTradeOtherNation : ℕ → Bool
  tradeLevel : ℤ
  itemWeight : SessionId → ℕ
  maxWeight : SessionId → ℕ

namespace TradeEnv

variable (env : TradeEnv)

def sameZone (a b : SessionId) : Bool := env.zoneId a = env.zoneId b

def foreign (a b : SessionId) : Bool :=
  env.nation a ≠ env.nation b && !env.canTradeOtherNation (env.zoneId a)

/-- The gate of `handle`. -/
def busy (sid : SessionId) : Bool :=
  env.isPlayerDead sid || env.isMerchanting sid || env.isMining sid || env.isFishing sid ||
  env.isSellingMerchantPreparing sid || env.isBuyingMerchantPreparing sid

def occupied (sid : SessionId) : Bool :=
  env.isMining sid || env.isFishing sid || env.isMerchanting sid ||
  env.isSellingMerchantPreparing sid || env.isBuyingMerchantPreparing sid

end TradeEnv

/-- `exchange_cancel`. -/
def exchangeCancel (w : World) (sid : SessionId) : World :=
  if w.tradeState sid = .none then w
  else
    let w' := (w.giveItemsBack sid).resetTrade sid
    match w.exchangeUser sid with
    | none => w'
    | some pid =>
      if w'.tradeState pid ≠ .none then (w'.giveItemsBack pid).resetTrade pid else w'

/-- The checks of `exchange_req` on a target that is in game. -/
def reqRefused (env : TradeEnv) (w : World) (sid target : SessionId) : Bool :=
  target = sid || env.authority target = 0 || env.name target = env.name sid ||
  !env.sameZone target sid || env.sameAccount sid target || env.foreign sid target ||
  env.isPlayerDead target || w.isTrading target || env.occupied target ||
  env.genieActive target || env.level sid < env.tradeLevel

def exchangeReq (env : TradeEnv) (w : World) (sid target : SessionId) : World :=
  if w.isTrading sid then exchangeCancel w sid
  else if (w target).isNone || reqRefused env w sid target then w
  else w.initTradeRequest sid target

/-- The request has become void, and both sides are reset. -/
def agreeVoid (env : TradeEnv) (w : World) (sid partner : SessionId) : Bool :=
  w.tradeState sid = .sender ||
  w.tradeState partner ≠ .sender || env.isPlayerDead partner ||
  !env.sameZone sid partner || w.exchangeUser partner ≠ some sid || env.occupied partner ||
  env.sameAccount sid partner || env.foreign sid partner

def exchangeAgree (env : TradeEnv) (w : World) (sid : SessionId) (accepted : ℕ) : World :=
  match w.exchangeUser sid with
  | none => w
  | some partner =>
    if w.tradeState sid ≠ .target then w
    else if agreeVoid env w sid partner then (w.resetTrade sid).resetTrade partner
    else if accepted = 0 then w.tradeDecline sid
    else w.tradeAgree sid

structure ExchangeAdd where
  pos : ℕ
  itemId : ℕ
  count : ℕ

inductive AddVerdict where
  | refused
  | cancel
  | gold
  | item
  deriving DecidableEq

def addBroken (env : TradeEnv) (w : World) (sid partner : SessionId) : Bool :=
  !env.sameZone sid partner || w.exchangeUser partner ≠ some sid || env.isPlayerDead partner ||
  env.occupied partner || env.foreign sid partner ||
  sid = partner || env.name sid = env.name partner || env.sameAccount sid partner

/-- The checks on the item itself. The `count` is cut to sixteen bits here. -/
def itemRefused (table : ItemTable) (req : ExchangeAdd) : Bool :=
  HAVE_MAX ≤ req.pos ||
  (ITEM_NO_TRADE_MIN ≤ req.itemId && req.itemId ≤ ITEM_NO_TRADE_MAX) ||
  ITEMCOUNT_MAX ≤ asU16 req.count ||
  match table req.itemId with
  | none => true
  | some itemDef => itemDef.race.getD 0 = RACE_UNTRADEABLE || itemDef.countableD = 2

def slotRefused (inv : Inventory) (req : ExchangeAdd) : Bool :=
  match inv[SLOT_MAX + req.pos]? with
  | none => true
  | some slot =>
    slot.itemId ≠ req.itemId || slot.count < asU16 req.count || slot.count = 0 ||
    slot.flag = ITEM_FLAG_RENTED || slot.flag = ITEM_FLAG_SEALED || slot.flag = ITEM_FLAG_BOUND ||
    slot.flag = ITEM_FLAG_DUPLICATE || 0 < slot.expireTime

def exchangeFull (items : List ExchangeItem) : Bool :=
  (if items.any (·.itemId = ITEM_GOLD) then 13 else 12) ≤ items.length

def addVerdict (table : ItemTable) (env : TradeEnv) (w : World) (sid : SessionId)
    (req : ExchangeAdd) : AddVerdict :=
  if env.isMining sid || env.isFishing sid || env.isMerchanting sid ||
      env.isSellingMerchantPreparing sid then .refused
  else
    match w.exchangeUser sid with
    | none => .refused
    | some partner =>
      if w.tradeState sid ≠ .trading then .refused
      else if addBroken env w sid partner then .cancel
      else if w.tradeState partner ≠ .trading ∧ w.tradeState partner ≠ .deciding then .refused
      else if req.count = 0 ∨ req.itemId = 0 then .refused
      else if req.itemId = ITEM_GOLD ∧ req.pos ≠ 255 then .refused
      else if req.itemId ≠ ITEM_GOLD ∧ itemRefused table req then .refused
      else if exchangeFull (w.exchangeItems sid) then .refused
      else if req.itemId = ITEM_GOLD then
        if (w.session sid).gold < req.count then .refused else .gold
      else if slotRefused (w.session sid).inventory req then .refused
      else .item

namespace Session

def offerGold (count : ℕ) (h : Session) : Session :=
  match updateExchangeItemCount ITEM_GOLD count h.exchangeItems with
  | some items => { h with exchangeItems := items }.goldLose count
  | none => (h.goldLose count).addExchangeItem { itemId := ITEM_GOLD, count := count, srcPos := 255 }

/-- `inv[actual_slot].count -= count as u16`, and an empty slot after the last one. -/
def takeOffered (inv : Inventory) (actualSlot count : ℕ) : Inventory :=
  if actualSlot < inv.length then
    let slot := inv.slot actualSlot
    if slot.count - asU16 count = 0 then inv.set actualSlot {}
    else inv.set actualSlot { slot with count := slot.count - asU16 count }
  else inv

/-- The entry is in full width, the deduction in sixteen bits. -/
def offerItem (table : ItemTable) (req : ExchangeAdd) (h : Session) : Session :=
  let actualSlot := SLOT_MAX + req.pos
  let slot := h.inventory.slot actualSlot
  let inventory := takeOffered h.inventory actualSlot req.count
  let entry : ExchangeItem :=
    { itemId := req.itemId
      count := req.count
      durability := slot.durability
      serialNum := slot.serialNum
      srcPos := actualSlot }
  match if 0 < countableOf table req.itemId then
      updateExchangeItemCount req.itemId req.count h.exchangeItems else none with
  | some items => { h with inventory := inventory, exchangeItems := items }
  | none => { h with inventory := inventory }.addExchangeItem entry

end Session

def exchangeAdd (table : ItemTable) (env : TradeEnv) (w : World) (sid : SessionId)
    (req : ExchangeAdd) : World :=
  match addVerdict table env w sid req with
  | .refused => w
  | .cancel => exchangeCancel w sid
  | .gold => w.modify sid (Session.offerGold req.count)
  | .item => w.modify sid (Session.offerItem table req)

/-- `check_exchange`: the gold fits, every item is known, the slots and the weight suffice. -/
def checkExchange (table : ItemTable) (env : TradeEnv) (w : World) (sid : SessionId) : Bool :=
  match w.exchangeUser sid with
  | none => false
  | some partner =>
    let items := w.exchangeItems partner
    let goods := items.filter (·.itemId ≠ ITEM_GOLD)
    !env.isPlayerDead sid &&
    items.all (fun ex =>
      if ex.itemId = ITEM_GOLD then (w.session sid).gold + ex.count ≤ COIN_MAX
      else (table ex.itemId).isSome) &&
    goods.length ≤ countFreeSlots (w.session sid).inventory &&
    (goods.foldl (fun total ex =>
        min (total + (((table ex.itemId).bind Item.weight).getD 0 % 2 ^ 32).toNat) (2 ^ 32 - 1)) 0 +
      env.itemWeight sid) % 2 ^ 32 ≤ env.maxWeight sid

/-- One item of `check_execute_exchange`. -/
def placeable (table : ItemTable) (w : World) (sid partner : SessionId) (ex : ExchangeItem) : Bool :=
  match table ex.itemId with
  | none => false
  | some itemDef =>
    match findSlotForItem table (w.session sid).inventory ex.itemId (asU16 ex.count) with
    | none => false
    | some dstSlot =>
      let dst := (w.session sid).inventory.slot dstSlot
      dstSlot < SLOT_MAX + HAVE_MAX &&
      (match (w.session partner).inventory[ex.srcPos]? with
        | none => false
        | some src => src.itemId = ex.itemId) &&
      !(itemDef.kindD = ITEM_KIND_UNIQUE && dst.itemId ≠ 0) &&
      (dst.itemId = ex.itemId || dst.itemId = 0)

def checkExecuteExchange (table : ItemTable) (env : TradeEnv) (w : World) (sid : SessionId) : Bool :=
  w.tradeState sid = .deciding && !env.occupied sid &&
  match w.exchangeUser sid with
  | none => false
  | some partner =>
    w.exchangeUser partner = some sid && env.sameZone partner sid && !env.occupied partner &&
    !env.foreign sid partner &&
    (w.exchangeItems partner).all fun ex =>
      ex.itemId = ITEM_GOLD || placeable table w sid partner ex

inductive DecideVerdict where
  | ignored
  | wait
  | fail
  | execute
  deriving DecidableEq

def decideVerdict (table : ItemTable) (env : TradeEnv) (w : World) (sid partner : SessionId) :
    DecideVerdict :=
  if !env.sameZone sid partner || w.exchangeUser partner ≠ some sid || env.isPlayerDead partner ||
      env.isMining partner || env.isMerchanting partner then .ignored
  else if w.tradeState partner ≠ .deciding ∧ w.tradeState partner ≠ .trading then .ignored
  else if w.tradeState partner ≠ .deciding then .wait
  else
    let w' := w.modify sid (Session.setTradeState .deciding)
    if checkExchange table env w' sid && checkExchange table env w' partner &&
        checkExecuteExchange table env w' sid && checkExecuteExchange table env w' partner then
      .execute
    else .fail

/-- Both lists are read first; each side then receives the other's, and the slots that the
offers left empty are cleared. -/
def executeExchange (table : ItemTable) (w : World) (sid partner : SessionId) : World :=
  let partnerItems := w.exchangeItems partner
  let myItems := w.exchangeItems sid
  let w1 := w.modify sid (partnerItems.foldl (Session.receiveItem table) ·)
  let w2 := w1.modify partner (myItems.foldl (Session.receiveItem table) ·)
  let w3 := w2.modify partner (partnerItems.foldl Session.clearSource ·)
  let w4 := w3.modify sid (myItems.foldl Session.clearSource ·)
  (w4.resetTrade sid).resetTrade partner

def exchangeDecide (table : ItemTable) (env : TradeEnv) (w : World) (sid : SessionId) : World :=
  if w.tradeState sid ≠ .trading then w
  else
    match w.exchangeUser sid with
    | none => w
    | some partner =>
      let w' := w.modify sid (Session.setTradeState .deciding)
      match decideVerdict table env w sid partner with
      | .ignored => w
      | .wait => w'
      | .fail =>
        (((w'.giveItemsBack sid).giveItemsBack partner).resetTrade sid).resetTrade partner
      | .execute => executeExchange table w' sid partner

inductive TradeMsg where
  | req (target : SessionId)
  | agree (accepted : ℕ)
  | add (req : ExchangeAdd)
  | decide
  | cancel

/-- `handle`, for a player in game. -/
def handleExchange (table : ItemTable) (env : TradeEnv) (w : World) (sid : SessionId)
    (msg : TradeMsg) : World :=
  if (w sid).isNone || env.busy sid then w
  else
    match msg with
    | .req target => exchangeReq env w sid target
    | .agree accepted => exchangeAgree env w sid accepted
    | .add req => exchangeAdd table env w sid req
    | .decide => exchangeDecide table env w sid
    | .cancel => exchangeCancel w sid

end KoServer
