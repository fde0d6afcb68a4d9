import KoServer.Lib.Interleave
import KoServer.Spec.Trade

/-! `exchange_decide` and `exchange_cancel` closure by closure: what runs under the map entry of
one session is one step, and other sessions' handlers run in between. The surroundings of the
trade stand still. -/

namespace KoServer

open Interleave

inductive Purpose where
  | deliver
  | giveBack
  deriving DecidableEq

inductive TradeLabel where
  | other
  /-- `check_execute_exchange` asks for the partner of a player. -/
  | check (owner : SessionId) (user : Option SessionId)
  /-- A list is read to be moved, in the trade state that its owner has then. -/
  | take (purpose : Purpose) (owner : SessionId) (state : TradeState)
  /-- The offer at an index of the owner's list is moved. -/
  | move (purpose : Purpose) (owner : SessionId) (index : ℕ)
  deriving DecidableEq

abbrev TradeProg := Prog World TradeLabel

namespace TradeProg

def read {α : Type} (f : World → α) (next : α → TradeProg) : TradeProg :=
  .step (fun _ => .other) id fun w => next (f w)

def write (act : World → World) (next : TradeProg) : TradeProg :=
  .step (fun _ => .other) act fun _ => next

def checkUser (owner : SessionId) (next : Option SessionId → TradeProg) : TradeProg :=
  .step (fun w => .check owner (w.exchangeUser owner)) id fun w => next (w.exchangeUser owner)

/-- `get_exchange_items`, or the clone in `exchange_give_items_back`, of a list to be moved. -/
def takeItems (purpose : Purpose) (owner : SessionId) (next : List ExchangeItem → TradeProg) :
    TradeProg :=
  .step (fun w => .take purpose owner (w.tradeState owner)) id fun w => next (w.exchangeItems owner)

def moveItem (purpose : Purpose) (owner : SessionId) (index : ℕ) (act : World → World)
    (next : TradeProg) : TradeProg :=
  .step (fun _ => .move purpose owner index) act fun _ => next

end TradeProg

open TradeProg

def giveBackSteps (sid : SessionId) (next : TradeProg) : ℕ → List ExchangeItem → TradeProg
  | _, [] => next
  | index, ex :: items =>
    moveItem .giveBack sid index (fun w => w.modify sid (Session.giveItemBack · ex))
      (giveBackSteps sid next (index + 1) items)

/-- `exchange_give_items_back`. -/
def giveItemsBackSteps (sid : SessionId) (next : TradeProg) : TradeProg :=
  takeItems .giveBack sid fun items => giveBackSteps sid next 0 items

/-- `exchange_cancel`. -/
def cancelSteps (sid : SessionId) : TradeProg :=
  read (·.tradeState sid) fun state =>
  if state = .none then .done
  else
    read (·.exchangeUser sid) fun partner =>
    giveItemsBackSteps sid <|
    write (·.resetTrade sid) <|
    match partner with
    | none => .done
    | some pid =>
      read (·.tradeState pid) fun state' =>
      if state' ≠ .none then giveItemsBackSteps pid (write (·.resetTrade pid) .done) else .done

section Checks

variable (table : ItemTable) (env : TradeEnv)

/-- The loop of `check_exchange`. -/
def checkItemsSteps (sid : SessionId) (next : Bool → TradeProg) : List ExchangeItem → TradeProg
  | [] => next true
  | ex :: items =>
    if ex.itemId = ITEM_GOLD then
      read (fun w => (w.session sid).gold) fun gold =>
      if gold + ex.count ≤ COIN_MAX then checkItemsSteps sid next items else next false
    else if (table ex.itemId).isSome then checkItemsSteps sid next items
    else next false

def checkExchangeSteps (sid : SessionId) (next : Bool → TradeProg) : TradeProg :=
  read (·.exchangeUser sid) fun user =>
  match user with
  | none => next false
  | some partner =>
    if env.isPlayerDead sid then next false
    else
      read (·.isTrading sid) fun trading =>
      if !trading then next false
      else
        read (·.exchangeItems partner) fun items =>
        read (fun w => countFreeSlots (w.session sid).inventory) fun free =>
        checkItemsSteps table sid (fun ok =>
          next (ok &&
            (items.filter (·.itemId ≠ ITEM_GOLD)).length ≤ free &&
            ((items.filter (·.itemId ≠ ITEM_GOLD)).foldl (fun total ex =>
                min (total + (((table ex.itemId).bind Item.weight).getD 0 % 2 ^ 32).toNat)
                  (2 ^ 32 - 1)) 0 +
              env.itemWeight sid) % 2 ^ 32 ≤ env.maxWeight sid)) items

/-- The loop of `check_execute_exchange`. -/
def placeableSteps (sid partner : SessionId) (next : Bool → TradeProg) :
    List ExchangeItem → TradeProg
  | [] => next true
  | ex :: items =>
    if ex.itemId = ITEM_GOLD then placeableSteps sid partner next items
    else
      match table ex.itemId with
      | none => next false
      | some itemDef =>
        read (fun w => findSlotForItem table (w.session sid).inventory ex.itemId (asU16 ex.count))
          fun slot =>
        match slot with
        | none => next false
        | some dstSlot =>
          if SLOT_MAX + HAVE_MAX ≤ dstSlot then next false
          else
            read (fun w => (w.session partner).inventory[ex.srcPos]?) fun src =>
            match src with
            | none => next false
            | some src =>
              if src.itemId ≠ ex.itemId then next false
              else
                read (fun w => (w.session sid).inventory.slot dstSlot) fun dst =>
                if itemDef.kindD = ITEM_KIND_UNIQUE ∧ dst.itemId ≠ 0 then next false
                else if dst.itemId ≠ ex.itemId ∧ dst.itemId ≠ 0 then next false
                else placeableSteps sid partner next items

def checkExecuteSteps (sid : SessionId) (next : Bool → TradeProg) : TradeProg :=
  read (·.tradeState sid) fun state =>
  if state ≠ .deciding then next false
  else
    read (·.isTrading sid) fun trading =>
    if !trading || env.occupied sid then next false
    else
      checkUser sid fun user =>
      match user with
      | none => next false
      | some partner =>
        read (·.exchangeUser partner) fun back =>
        if back ≠ some sid || !env.sameZone partner sid || env.occupied partner ||
            env.foreign sid partner then next false
        else
          read (·.exchangeItems partner) fun items =>
          placeableSteps table sid partner next items

end Checks

def deliverSteps (table : ItemTable) (receiver owner : SessionId) (next : TradeProg) :
    ℕ → List ExchangeItem → TradeProg
  | _, [] => next
  | index, ex :: items =>
    if ex.itemId = ITEM_GOLD then
      moveItem .deliver owner index (fun w => w.modify receiver (Session.goldGain · ex.count))
        (deliverSteps table receiver owner next (index + 1) items)
    else
      read (fun w => findSlotForItem table (w.session receiver).inventory ex.itemId (asU16 ex.count))
        fun found =>
      match found with
      | none => deliverSteps table receiver owner next (index + 1) items
      | some slot =>
        moveItem .deliver owner index
          (fun w => w.modify receiver fun h =>
            { h with inventory := placeItem table h.inventory slot ex })
          (deliverSteps table receiver owner next (index + 1) items)

def clearSteps (owner : SessionId) (next : TradeProg) : List ExchangeItem → TradeProg
  | [] => next
  | ex :: items =>
    if ex.itemId = ITEM_GOLD then clearSteps owner next items
    else write (·.modify owner (Session.clearSource · ex)) (clearSteps owner next items)

def executeSteps (table : ItemTable) (sid partner : SessionId) : TradeProg :=
  takeItems .deliver partner fun partnerItems =>
  takeItems .deliver sid fun myItems =>
  deliverSteps table sid partner
    (deliverSteps table partner sid
      (clearSteps partner
        (clearSteps sid
          (write (·.resetTrade sid) (write (·.resetTrade partner) .done)) myItems) partnerItems)
      0 myItems)
    0 partnerItems

def failSteps (sid partner : SessionId) : TradeProg :=
  giveItemsBackSteps sid <| giveItemsBackSteps partner <|
  write (·.resetTrade sid) <| write (·.resetTrade partner) .done

/-- Each check runs only when those before it passed. -/
def decideChecks (table : ItemTable) (env : TradeEnv) (sid partner : SessionId) : TradeProg :=
  checkExchangeSteps table env sid fun ok =>
  if !ok then failSteps sid partner
  else checkExchangeSteps table env partner fun ok =>
  if !ok then failSteps sid partner
  else checkExecuteSteps table env sid fun ok =>
  if !ok then failSteps sid partner
  else checkExecuteSteps table env partner fun ok =>
  if !ok then failSteps sid partner
  else executeSteps table sid partner

/-- `exchange_decide`. -/
def decideSteps (table : ItemTable) (env : TradeEnv) (sid : SessionId) : TradeProg :=
  read (·.tradeState sid) fun state =>
  if state ≠ .trading then .done
  else
    read (·.exchangeUser sid) fun user =>
    match user with
    | none => .done
    | some partner =>
      read (·.exchangeUser partner) fun back =>
      if !env.sameZone sid partner || back ≠ some sid || env.isPlayerDead partner ||
          env.isMining partner || env.isMerchanting partner then .done
      else
        read (·.tradeState partner) fun state' =>
        if state' ≠ .deciding ∧ state' ≠ .trading then .done
        else if state' ≠ .deciding then write (·.modify sid (Session.setTradeState .deciding)) .done
        else
          write (·.modify sid (Session.setTradeState .deciding)) <|
          decideChecks table env sid partner

end KoServer
