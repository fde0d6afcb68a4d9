import Mathlib.Algebra.Order.Ring.Int
import Mathlib.Data.Int.Notation
import Mathlib.Data.List.Basic

/-! Items and the slot array of a character: `ko-db/src/models/item.rs`,
`inventory_constants.rs`, `world/types.rs` and `world/inventory.rs`. A `u16`, `u32` or `u64`
of the source is a natural number; where a cast or an addition can leave its range, the
definition says so. -/

namespace KoServer

/-- Names are compared character by character. -/
instance instLawfulBEqName : LawfulBEq (List Char) := inferInstance

def SLOT_MAX : ℕ := 14
def HAVE_MAX : ℕ := 28
def COSP_MAX : ℕ := 11
def INVENTORY_COSP : ℕ := SLOT_MAX + HAVE_MAX
def INVENTORY_MBAG : ℕ := INVENTORY_COSP + COSP_MAX
def MBAG_MAX : ℕ := 12
def MBAG_COUNT : ℕ := 3
def KNIGHT_ROYALE_MAX : ℕ := 7
def INVENTORY_TOTAL : ℕ := INVENTORY_MBAG + MBAG_MAX * MBAG_COUNT + KNIGHT_ROYALE_MAX
def PET_INVENTORY_TOTAL : ℕ := 4
def COIN_MAX : ℕ := 2100000000
def ITEMCOUNT_MAX : ℕ := 9999

def RIGHTEAR : ℕ := 0
def HEAD : ℕ := 1
def LEFTEAR : ℕ := 2
def NECK : ℕ := 3
def BREAST : ℕ := 4
def SHOULDER : ℕ := 5
def RIGHTHAND : ℕ := 6
def WAIST : ℕ := 7
def LEFTHAND : ℕ := 8
def RIGHTRING : ℕ := 9
def LEG : ℕ := 10
def LEFTRING : ℕ := 11
def GLOVE : ℕ := 12
def FOOT : ℕ := 13

def ITEM_GOLD : ℕ := 900000000
def ITEM_NO_TRADE_MIN : ℕ := 900000001
def ITEM_NO_TRADE_MAX : ℕ := 999999999
def RACE_UNTRADEABLE : ℤ := 20
def ITEM_KIND_UNIQUE : ℤ := 255
def ITEM_KIND_PET : ℤ := 151

def ITEM_FLAG_NONE : ℕ := 0
def ITEM_FLAG_RENTED : ℕ := 1
def ITEM_FLAG_CHAR_SEAL : ℕ := 2
def ITEM_FLAG_DUPLICATE : ℕ := 3
def ITEM_FLAG_SEALED : ℕ := 4
def ITEM_FLAG_NOT_BOUND : ℕ := 7
def ITEM_FLAG_BOUND : ℕ := 8

/-- The columns of an item row that the modelled handlers read. -/
structure Item where
  kind : Option ℤ := none
  slot : Option ℤ := none
  race : Option ℤ := none
  classId : Option ℤ := none
  weight : Option ℤ := none
  duration : Option ℤ := none
  buyPrice : Option ℤ := none
  sellPrice : Option ℤ := none
  sellNpcType : Option ℤ := none
  sellNpcPrice : Option ℤ := none
  countable : Option ℤ := none
  reqLevel : Option ℤ := none
  reqLevelMax : Option ℤ := none
  reqStr : Option ℤ := none
  reqSta : Option ℤ := none
  reqDex : Option ℤ := none
  reqIntel : Option ℤ := none
  reqCha : Option ℤ := none
  deriving DecidableEq

/-- `WorldState::get_item`. -/
abbrev ItemTable := ℕ → Option Item

/-- `itemId = 0` is an empty slot. -/
structure UserItemSlot where
  itemId : ℕ := 0
  durability : ℤ := 0
  count : ℕ := 0
  flag : ℕ := 0
  originalFlag : ℕ := 0
  serialNum : ℕ := 0
  expireTime : ℕ := 0
  deriving DecidableEq

abbrev Inventory := List UserItemSlot

namespace Inventory

def slot (inv : Inventory) (i : ℕ) : UserItemSlot := inv.getD i {}

/-- `slice::swap`. -/
def swap (inv : Inventory) (a b : ℕ) : Inventory := (inv.set a (inv.slot b)).set b (inv.slot a)

/-- `inv.resize(INVENTORY_TOTAL, default)` where the array is shorter. -/
def padded (inv : Inventory) : Inventory :=
  inv ++ List.replicate (INVENTORY_TOTAL - inv.length) ({} : UserItemSlot)

end Inventory

namespace Item

/-- `item.countable.unwrap_or(0)`. -/
def countableD (item : Item) : ℤ := item.countable.getD 0

def kindD (item : Item) : ℤ := item.kind.getD 0

end Item

/-- `gold_gain`, capped at `COIN_MAX`. -/
def goldGain (gold amount : ℕ) : ℕ := if gold + amount > COIN_MAX then COIN_MAX else gold + amount

/-- `gold_lose`; `none` is the refusal. -/
def goldLose (gold amount : ℕ) : Option ℕ := if amount ≤ gold then some (gold - amount) else none

end KoServer
