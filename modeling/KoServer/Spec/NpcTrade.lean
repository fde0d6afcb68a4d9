import KoServer.Spec.Inventory
import KoServer.Spec.Packet

/-! Selling to an NPC, from `handler/npc_trade.rs`. The release profile has no overflow
checks, so the running `u64` total wraps. -/

namespace KoServer

structure TradeItem where
  itemId : ℕ
  invPos : ℕ
  count : ℕ
  buyPrice : ℕ
  deriving DecidableEq

/-- The gold is a `u32`. -/
structure Seller where
  inventory : Inventory
  gold : ℕ
  gold_lt : gold < 2 ^ 32

/-- What `handle_sell` reads besides the seller. -/
structure SellContext where
  table : ItemTable
  itemSellPercent : ℤ

/-- An `as u64` of an `i32`, which extends the sign. -/
def asU64 (n : ℤ) : ℕ := (n % 2 ^ 64).toNat

theorem asU64_lt (n : ℤ) : asU64 n < 2 ^ 64 := by
  unfold asU64
  omega

/-- An `as i32`. -/
def asI32 (n : ℤ) : ℤ := Int.bmod n (2 ^ 32)

theorem asI32_eq (n : ℤ) : asI32 n = (n + 2 ^ 31) % 2 ^ 32 - 2 ^ 31 := by
  unfold asI32
  rw [Int.bmod_def]
  split
  all_goals omega

def InI32 (n : ℤ) : Prop := -2 ^ 31 ≤ n ∧ n < 2 ^ 31

theorem asI32_range (n : ℤ) : InI32 (asI32 n) := by
  unfold InI32
  rw [asI32_eq]
  omega

theorem asI32_of_range {n : ℤ} (h : InI32 n) : asI32 n = n := by
  obtain ⟨hlow, hhigh⟩ := h
  rw [asI32_eq]
  omega

/-- An `as i64`. -/
def asI64 (n : ℤ) : ℤ := Int.bmod n (2 ^ 64)

theorem asU64_asI64 {n : ℕ} (h : n < 2 ^ 64) : asU64 (asI64 n) = n := by
  unfold asU64 asI64
  rw [Int.bmod_def]
  split_ifs <;> omega

def saturatingMul64 (a b : ℕ) : ℕ := min (a * b) (2 ^ 64 - 1)

def SELL_TYPE_FULL_PRICE : ℤ := 1

def sellDivisor (ctx : SellContext) : ℕ := if ctx.itemSellPercent > 0 then 4 else 6

def sellPrice (item : Item) (divisor count : ℕ) : ℕ :=
  let buyPrice := asU64 (item.buyPrice.getD 0)
  let sellNpcPrice := asU64 (item.sellNpcPrice.getD 0)
  let itemSellPriceFlag := item.sellPrice.getD 0
  if item.sellNpcType.getD 0 = 1 then
    let npcPrice := saturatingMul64 sellNpcPrice count
    if npcPrice > 0 then npcPrice
    else if itemSellPriceFlag ≠ SELL_TYPE_FULL_PRICE then
      saturatingMul64 (buyPrice / divisor) count
    else saturatingMul64 buyPrice count
  else if itemSellPriceFlag ≠ SELL_TYPE_FULL_PRICE then
    saturatingMul64 (buyPrice / divisor) count
  else saturatingMul64 buyPrice count

def parseSellItems : ℕ → PacketReader → List TradeItem
  | 0, _ => []
  | n + 1, reader =>
    let (itemId, reader) := reader.readU32D
    let (invPos, reader) := reader.readU8D
    let (count, reader) := reader.readU16D
    ⟨itemId, invPos, count, 0⟩ :: parseSellItems n reader

/-- One turn of the validation loop: the new total and the entry with its price, or the
error code. -/
def checkSellItem (ctx : SellContext) (s : Seller) (totalSellPrice : ℕ) (item : TradeItem) :
    Except ℕ (ℕ × TradeItem) :=
  match ctx.table item.itemId with
  | none => .error 2
  | some itemDef =>
    if (ITEM_NO_TRADE_MIN ≤ item.itemId ∧ item.itemId ≤ ITEM_NO_TRADE_MAX) ∨
        itemDef.race.getD 0 = RACE_UNTRADEABLE then .error 2
    else
      match s.inventory[SLOT_MAX + item.invPos]? with
      | none => .error 2
      | some slot =>
        if slot.itemId ≠ item.itemId then .error 2
        else if slot.flag = ITEM_FLAG_SEALED ∨ slot.flag = ITEM_FLAG_RENTED ∨
            slot.flag = ITEM_FLAG_DUPLICATE ∨ slot.expireTime > 0 then .error 2
        else if slot.count < item.count then .error 3
        else
          let price := sellPrice itemDef (sellDivisor ctx) item.count
          let total := (totalSellPrice + price) % 2 ^ 64
          if (s.gold + total) % 2 ^ 64 > COIN_MAX then .error 3
          else .ok (total, { item with buyPrice := price % 2 ^ 32 })

def checkSellItems (ctx : SellContext) (s : Seller) :
    ℕ → List TradeItem → Except ℕ (ℕ × List TradeItem)
  | total, [] => .ok (total, [])
  | total, item :: items =>
    match checkSellItem ctx s total item with
    | .error e => .error e
    | .ok (total, item) =>
      match checkSellItems ctx s total items with
      | .error e => .error e
      | .ok (total, items) => .ok (total, item :: items)

/-- One turn of the execution loop. -/
def removeSold (ctx : SellContext) (inv : Inventory) (item : TradeItem) : Inventory :=
  if item.itemId = 0 then inv else
  let itemDef := ctx.table item.itemId
  let actualSlot := SLOT_MAX + item.invPos
  if inv.length ≤ actualSlot then inv
  else
    let kind := (itemDef.bind Item.kind).getD 0
    let countable := (itemDef.bind Item.countable).getD 0
    if (kind = ITEM_KIND_UNIQUE ∧ countable = 0) ∨ item.count ≥ (inv.slot actualSlot).count then
      inv.set actualSlot {}
    else
      inv.set actualSlot
        { inv.slot actualSlot with count := (inv.slot actualSlot).count - item.count }

theorem goldGain_lt {gold amount : ℕ} : goldGain gold amount < 2 ^ 32 := by
  have : COIN_MAX = 2100000000 := rfl
  unfold goldGain
  split <;> omega

/-- The error code, or the seller after the sale and the total of the response. -/
def handleSell (ctx : SellContext) (s : Seller) (reader : PacketReader) (itemCount : ℕ) :
    Except ℕ (Seller × ℕ) :=
  match checkSellItems ctx s 0 (parseSellItems itemCount reader) with
  | .error e => .error e
  | .ok (totalSellPrice, items) =>
    .ok (⟨items.foldl (removeSold ctx) s.inventory,
      goldGain s.gold (totalSellPrice % 2 ^ 32), goldGain_lt⟩, totalSellPrice % 2 ^ 32)

/-- The end of `handle` for a sale: the number of entries, then the entries. -/
def handleSellRequest (ctx : SellContext) (s : Seller) (reader : PacketReader) :
    Except ℕ (Seller × ℕ) :=
  let (itemCount, reader) := reader.readU8D
  if itemCount = 0 ∨ itemCount > 24 then .error 1 else handleSell ctx s reader itemCount

/-- The seller after the request; a refused sale touches nothing. -/
def sellStep (ctx : SellContext) (s : Seller) (reader : PacketReader) : Seller :=
  match handleSellRequest ctx s reader with
  | .error _ => s
  | .ok (s, _) => s

end KoServer
